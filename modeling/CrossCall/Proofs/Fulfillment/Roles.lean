import Mathlib
import CrossCall.Proofs.Fulfillment.Course

/-!
# Roles of a destination

A destination takes calls at its inbox and user operations at its entrypoint, and believes one
oracle. What is not configured has the address zero, and an attribute that is absent reads as zero;
the comparison of the two knows no exception. So a role that is not configured is met by exactly the
messages that name the zero address for it, and an oracle that is not configured by those that carry
none.

## Main results

* `Relayer.accepted_roles` — what an accepted message says of its destination's roles, and where
  the transactions for it go
-/

namespace CrossCall

variable {χ σ : Type}

/-- A message names the contracts of a destination: its receiver is the contract that takes messages
of its shape, and its oracle the destination's, which it carries unless that is zero. -/
structure ValidMessage.NamesRoles (v : ValidMessage) (destination : Endpoint) (blobs : List Bytes) :
    Prop where
  carries : v.message.Carries v.body blobs
  receiver : destination.receiver v.body.shape = v.message.receiverAddress
  oracle : destination.l2Oracle = (Attributes.lastWord .l2Oracle 0 blobs).toAddress
  oracle_carried : destination.l2Oracle ≠ 0 →
    ∃ blob ∈ blobs, Attributes.kindOf? blob = some .l2Oracle ∧
      (Attributes.wordOf blob 0).toAddress = destination.l2Oracle

theorem ValidMessage.Accepted.namesRoles {v : ValidMessage} {source destination : Endpoint}
    {blobs : List Bytes} (h : v.Accepted source destination blobs) :
    v.NamesRoles destination blobs := by
  have horacle : destination.l2Oracle = (Attributes.lastWord .l2Oracle 0 blobs).toAddress := by
    rw [← h.oracle, (Attributes.decode_eq_ok_iff.mp h.decode).2]
    rfl
  refine ⟨h.carries, h.receiver.symm, horacle, ?_⟩
  -- An oracle that is not zero was not read off an absent attribute.
  intro hne
  have hword : Attributes.lastWord .l2Oracle 0 blobs ≠ 0 := by
    intro hzero
    rw [hzero] at horacle
    exact hne horacle
  obtain ⟨blob, hmem, hkind, hblob⟩ := Attributes.exists_of_lastWord_ne_zero hword
  exact ⟨blob, hmem, hkind, by rw [horacle, hblob]⟩

/-- A message is accepted only for a destination whose contracts it names, so that a role which is
not configured is met only by messages that name the zero address; and whatever is sent for a log
goes to the contract that the message names. -/
theorem Relayer.accepted_roles (r : Relayer χ) :
    (∀ (m : PostedMessage) (source : Endpoint) (v : ValidMessage),
      validate m source r.registry = .ok v →
        v.message = m ∧ ∃ destination blobs,
          r.registry.endpoint? m.destinationId = some destination ∧
            v.NamesRoles destination blobs) ∧
    (∀ (env : Environment χ σ) (source : ChainId) (log : Log) (s : σ),
      ∀ e ∈ exchanges ((r.handle source log).run env s).2.2,
        ∀ raw, e.request = .sendRawTransaction raw →
          ∃ v destination blobs, r.parse source log = .ok v ∧
            r.registry.get? v.message.destinationId = some destination ∧
            v.NamesRoles destination.endpoint blobs ∧
            ∃ t : LegacyTransaction, raw = t.sign r.account.key ∧
              t.chainId = v.message.destinationId ∧ t.target = v.message.receiverAddress) := by
  constructor
  · intro m source v h
    obtain ⟨rfl, destination, blobs, hdestination, haccepted⟩ := validate_eq_ok_iff.mp h
    exact ⟨rfl, destination, blobs, hdestination, haccepted.namesRoles⟩
  · intro env source log s e he raw hraw
    rw [Session.exchanges_run] at he
    obtain ⟨v, destination, call, hparse, hget, hcall, hcourse⟩ := exists_course_of_mem he
    obtain ⟨_, destination', blobs, -, -, hget', haccepted⟩ := parse_eq_ok_iff.mp hparse
    obtain rfl : destination = destination' := Option.some.inj (hget.symm.trans hget')
    obtain ⟨gas, gasPrice, required, n, s₁, s₂, s₃, -, -, -, -, hsign⟩ := hcourse.of_send he hraw
    refine ⟨v, destination, blobs, hparse, hget, haccepted.namesRoles, _, hsign, rfl, ?_⟩
    have htarget : call.target = destination.endpoint.receiver v.body.shape := by
      rw [(FulfillmentCall.ofMessage_eq_ok_iff.mp hcall).2]
      rfl
    exact htarget.trans haccepted.receiver.symm

/-! ### Nothing configured -/

namespace Unconfigured

/-- Two chains of which only the numbers and the nodes are configured. -/
def registry : Registry Unit where
  chains := [⟨{ chainId := 1, nodeUrl := "" }, ()⟩, ⟨{ chainId := 2, nodeUrl := "" }, ()⟩]

/-- A relayer for the two chains. -/
def relayer : Relayer Unit where
  registry := registry
  account := SecretKey.account ⟨1, Nat.one_pos, Curve.one_lt_order⟩

/-- A message from the first chain to the second that names the zero address and lists nothing but
a reward. -/
def message : ValidMessage where
  message :=
    { sourceChain := 1, destinationChain := 2, payload := encodeCalls []
      attributes := [Attribute.encode (.reward nativeAsset 1)] }
  body := .direct
  attributes := { rewardAsset := nativeAsset, rewardAmount := 1 }

/-- The log of the message. -/
def log : Log where
  address := 0
  topics := message.message.encodeLog.1
  data := message.message.encodeLog.2
  blockNumber := none

/-- Nodes that ask for no fee and take every transaction. -/
def nodes : Environment Unit Unit where
  answer := fun _ _ q => match q with
    | .estimateGas _ => (.ok 0, ())
    | .gasPrice => (.ok 0, ())
    | .pendingNonce _ => (.ok 0, ())
    | .sendRawTransaction _ => (.ok 0, ())
    | _ => (.error (.transport ""), ())

theorem course_sent :
    ∃ e ∈ ((relayer.fulfill message).run.talk nodes ()).2.2, ∃ t : LegacyTransaction,
      e.request = .sendRawTransaction (t.sign relayer.account.key) ∧ t.target = 0 := by
  have hneeds : message.message.Needs message.body 0 := by
    have hcalls : decodeCalls message.message.payload = .ok [] := by decide +kernel
    exact .direct hcalls
  have hcall : FulfillmentCall.ofMessage message { chainId := 2, nodeUrl := "" }
      relayer.account.address =
        .ok (message.callWith { chainId := 2, nodeUrl := "" } relayer.account.address 0) :=
    FulfillmentCall.ofMessage_eq_ok_iff.mpr ⟨hneeds, rfl⟩
  have hcourse : Relayer.Course nodes relayer message () _ ()
      ((relayer.fulfill message).run.talk nodes ()) :=
    Relayer.course_fulfill rfl hcall
  obtain ⟨required, hreward⟩ : ∃ required, requiredReward message.attributes 0
      ⟨bufferedGasLimit 0, 0⟩ = .ok required :=
    exists_requiredReward_iff.mpr ⟨rfl, by decide⟩
  obtain ⟨e, he, raw, hraw⟩ := hcourse.exists_send rfl rfl hreward rfl
  obtain ⟨gas, gasPrice, _, n, _, _, _, -, -, -, -, hsign⟩ := hcourse.of_send he hraw
  exact ⟨e, he, _, hraw.trans (congrArg _ hsign), rfl⟩

/-- A message is accepted for an inbox and an oracle that are not configured, without carrying an
oracle, and a transaction is sent to the zero address. -/
theorem accepted_and_sent :
    validate message.message { chainId := 1, nodeUrl := "" } registry = .ok message ∧
      registry.endpoint? message.message.destinationId = some { chainId := 2, nodeUrl := "" } ∧
      Endpoint.receiver { chainId := 2, nodeUrl := "" } message.body.shape = 0 ∧
      Endpoint.l2Oracle { chainId := 2, nodeUrl := "" } = 0 ∧
      (∀ blobs, message.message.Carries message.body blobs →
        ∀ blob ∈ blobs, Attributes.kindOf? blob ≠ some .l2Oracle) ∧
      ∃ e ∈ exchanges ((relayer.handle 1 log).run nodes ()).2.2, ∃ t : LegacyTransaction,
        e.request = .sendRawTransaction (t.sign relayer.account.key) ∧ t.target = 0 := by
  refine ⟨by decide +kernel, rfl, rfl, rfl, ?_, ?_⟩
  · intro blobs hcarries
    cases hcarries with
    | direct => decide +kernel
  · have hparse : relayer.parse 1 log = .ok message := by decide +kernel
    rw [Session.exchanges_run, Relayer.talk_handle, hparse]
    exact course_sent

end Unconfigured

end CrossCall
