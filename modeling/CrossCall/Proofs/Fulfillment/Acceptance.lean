import Mathlib
import CrossCall.Fulfillment.Relayer
import CrossCall.Proofs.Message.Contents

/-!
# Which messages are accepted, and for what

Validation, the building of the call and the check of the reward stop at the first thing that is
wrong. What they let through is described here without the order of their checks, so that what
follows them need not look into them again.

## Main definitions

* `PostedMessage.Carries` — what a message asks for, and the list its attributes are read from
* `PostedMessage.Needs` — the value that the fulfillment of a message needs, as an exact number
* `ValidMessage.Accepted` — the conditions on a message, its source and its destination
* `ValidMessage.callWith` — the call that fulfills a message, for a given value

## Main results

* `validate_eq_ok_iff` — validation accepts exactly what meets the conditions
* `FulfillmentCall.ofMessage_eq_ok_iff` — which call is built
* `requiredReward_eq_ok_iff` — which rewards are enough
* `Relayer.parse_eq_ok_iff` — which logs get as far as a call
-/

namespace CrossCall

namespace PostedMessage

/-- What a message asks for, and the list that its attributes are read from: the message's own list
or, if that is empty, the one in the paymaster data of the user operation in its payload. -/
inductive Carries (m : PostedMessage) : Body → List Bytes → Prop
  | direct (listed : m.attributes ≠ []) : m.Carries .direct m.attributes
  | userOperation {op : UserOperation} {blobs : List Bytes} (unlisted : m.attributes = [])
      (payload : UserOperation.decode m.payload = .ok op) (paymaster : op.attributes = .ok blobs) :
      m.Carries (.userOperation op) blobs

/-- The value that the fulfillment of a message needs, as an exact number. -/
inductive Needs (m : PostedMessage) : Body → Nat → Prop
  | direct {calls : List Call} (payload : decodeCalls m.payload = .ok calls) :
      m.Needs .direct (exactCallValue calls)
  | userOperation {op : UserOperation} : m.Needs (.userOperation op) 0

theorem needs_direct_iff {m : PostedMessage} {n : Nat} :
    m.Needs .direct n ↔ ∃ calls, decodeCalls m.payload = .ok calls ∧ exactCallValue calls = n := by
  constructor
  · rintro ⟨hcalls⟩
    exact ⟨_, hcalls, rfl⟩
  · rintro ⟨calls, hcalls, rfl⟩
    exact .direct hcalls

theorem needs_userOperation_iff {m : PostedMessage} {op : UserOperation} {n : Nat} :
    m.Needs (.userOperation op) n ↔ n = 0 := by
  constructor
  · rintro ⟨⟩
    rfl
  · rintro rfl
    exact .userOperation

end PostedMessage

theorem Body.read_eq_ok_iff {m : PostedMessage} {body : Body} {attributes : Attributes} :
    Body.read m = .ok (body, attributes) ↔
      ∃ blobs, m.Carries body blobs ∧ Attributes.decode blobs = .ok attributes := by
  rw [Body.read]
  -- An empty list of its own makes a message one with a user operation.
  by_cases hm : m.attributes = []
  · rw [if_pos hm]
    simp only [bind_eq_ok_iff]
    constructor
    · rintro ⟨op, hop, blobs, hblobs, a, ha, ⟨⟩⟩
      exact ⟨blobs, .userOperation hm hop hblobs, ha⟩
    · rintro ⟨blobs, hcarries, ha⟩
      cases hcarries with
      | direct listed => exact absurd hm listed
      | userOperation _ hop hblobs => exact ⟨_, hop, blobs, hblobs, attributes, ha, rfl⟩
  · rw [if_neg hm]
    simp only [bind_eq_ok_iff]
    constructor
    · rintro ⟨a, ha, ⟨⟩⟩
      exact ⟨m.attributes, .direct hm, ha⟩
    · rintro ⟨blobs, hcarries, ha⟩
      cases hcarries with
      | direct _ => exact ⟨attributes, ha, rfl⟩
      | userOperation unlisted _ _ => exact absurd unlisted hm

/-- The conditions on a message whose attributes are read from `blobs`, on the chain where it was
posted and on its destination. -/
structure ValidMessage.Accepted (v : ValidMessage) (source destination : Endpoint)
    (blobs : List Bytes) : Prop where
  carries : v.message.Carries v.body blobs
  decode : Attributes.decode blobs = .ok v.attributes
  source : v.message.sourceId = source.chainId
  receiver : v.message.receiverAddress = destination.receiver v.body.shape
  oracle : v.attributes.l2Oracle = destination.l2Oracle

section

variable {χ : Type}

/-- Validation accepts exactly what meets the conditions, for a registered destination. -/
theorem validate_eq_ok_iff {m : PostedMessage} {source : Endpoint} {registry : Registry χ}
    {v : ValidMessage} :
    validate m source registry = .ok v ↔
      v.message = m ∧ ∃ destination blobs,
        registry.endpoint? m.destinationId = some destination ∧
          v.Accepted source destination blobs := by
  obtain ⟨message, body, attributes⟩ := v
  simp only [validate, bind_eq_ok_iff, mapError_eq_ok_iff, guard_eq_ok_iff, ne_eq, not_not]
  constructor
  · rintro ⟨⟨body', attributes'⟩, hread, hsource, h⟩
    obtain ⟨blobs, hcarries, hdecode⟩ := Body.read_eq_ok_iff.mp hread
    cases hdestination : registry.endpoint? m.destinationId with
    | none => simp [hdestination, throw, throwThe, MonadExceptOf.throw] at h
    | some destination =>
      simp only [hdestination, guard_eq_ok_iff, not_not] at h
      obtain ⟨hreceiver, horacle, ⟨⟩⟩ := h
      exact ⟨rfl, destination, blobs, rfl, hcarries, hdecode, hsource, hreceiver, horacle⟩
  · rintro ⟨rfl, destination, blobs, hdestination, h⟩
    refine ⟨(body, attributes), Body.read_eq_ok_iff.mpr ⟨blobs, h.carries, h.decode⟩, h.source, ?_⟩
    simp only [hdestination, guard_eq_ok_iff, not_not]
    exact ⟨h.receiver, h.oracle, rfl⟩

/-- Which logs get as far as a call, and for which registered destination. -/
theorem Relayer.parse_eq_ok_iff {r : Relayer χ} {source : ChainId} {log : Log} {v : ValidMessage} :
    r.parse source log = .ok v ↔
      ∃ endpoint destination blobs,
        r.registry.endpoint? source = some endpoint ∧
          PostedMessage.decodeLog log = .ok v.message ∧
          r.registry.get? v.message.destinationId = some destination ∧
          v.Accepted endpoint destination.endpoint blobs := by
  rw [Relayer.parse]
  cases hsource : r.registry.endpoint? source with
  | none => simp
  | some endpoint =>
    simp only [bind_eq_ok_iff, mapError_eq_ok_iff, validate_eq_ok_iff]
    constructor
    · rintro ⟨m, hlog, rfl, destination, blobs, hdestination, h⟩
      obtain ⟨registration, hget, rfl⟩ := Option.map_eq_some_iff.mp hdestination
      exact ⟨endpoint, registration, blobs, rfl, hlog, hget, h⟩
    · rintro ⟨_, registration, blobs, ⟨⟩, hlog, hget, h⟩
      refine ⟨v.message, hlog, rfl, registration.endpoint, blobs, ?_, h⟩
      rw [Registry.endpoint?, hget, Option.map_some]

end

/-! ### The call -/

namespace ValidMessage

/-- The data of the call that fulfills a message. -/
def callData (m : ValidMessage) (relayer : Address) : Bytes :=
  match m.body with
  | .direct => FulfillmentCall.fulfillData m.message relayer
  | .userOperation op => FulfillmentCall.handleOpsData op relayer

/-- The call that fulfills a message, for a given value. -/
def callWith (m : ValidMessage) (destination : Endpoint) (relayer : Address) (value : Word) :
    FulfillmentCall where
  sender := relayer
  target := destination.receiver m.body.shape
  data := m.callData relayer
  value := value

end ValidMessage

/-- The call is built exactly for the value that the message needs. -/
theorem FulfillmentCall.ofMessage_eq_ok_iff {m : ValidMessage} {destination : Endpoint}
    {relayer : Address} {call : FulfillmentCall} :
    ofMessage m destination relayer = .ok call ↔
      m.message.Needs m.body call.value.toNat ∧
        call = m.callWith destination relayer call.value := by
  obtain ⟨message, body, attributes⟩ := m
  cases body with
  | direct =>
    simp only [ofMessage, bind_eq_ok_iff, totalCallValue_eq_ok_iff,
      PostedMessage.needs_direct_iff]
    constructor
    · rintro ⟨calls, hcalls, value, hvalue, ⟨⟩⟩
      exact ⟨⟨calls, hcalls, hvalue.symm⟩, rfl⟩
    · rintro ⟨⟨calls, hcalls, hvalue⟩, hcall⟩
      exact ⟨calls, hcalls, call.value, hvalue.symm, congrArg Except.ok hcall.symm⟩
  | userOperation op =>
    simp only [ofMessage, PostedMessage.needs_userOperation_iff]
    constructor
    · rintro ⟨⟩
      exact ⟨rfl, rfl⟩
    · rintro ⟨hvalue, hcall⟩
      have hzero : call.value = 0 := BitVec.eq_of_toNat_eq hvalue
      rw [hzero] at hcall
      exact congrArg Except.ok hcall.symm

/-! ### The reward -/

theorem toNat_bufferedGasLimit (estimate : BitVec 64) :
    (bufferedGasLimit estimate).toNat = min (2 ^ 64 - 1) (estimate.toNat * 12 / 10) := by
  rw [bufferedGasLimit, BitVec.toNat_ofNat, BitVec.toNat_allOnes]
  exact Nat.mod_eq_of_lt (by omega)

theorem toNat_saturatingAdd (a b : Word) :
    (saturatingAdd a b).toNat = min (2 ^ 256 - 1) (a.toNat + b.toNat) := by
  rw [saturatingAdd]
  by_cases h : a.uaddOverflow b
  · have hover : 2 ^ 256 ≤ a.toNat + b.toNat := by
      simpa [BitVec.uaddOverflow] using h
    rw [if_pos h, BitVec.toNat_allOnes]
    omega
  · have hfits : a.toNat + b.toNat < 2 ^ 256 := by
      simpa [BitVec.uaddOverflow] using h
    rw [if_neg h, BitVec.toNat_add_of_lt hfits]
    omega

/-- A reward is enough exactly if it is paid in the chain's own currency and exceeds the exact sum of
the value and the most that the transaction can cost. -/
theorem requiredReward_eq_ok_iff {a : Attributes} {value required : Word} {fee : Fee} :
    requiredReward a value fee = .ok required ↔
      a.rewardAsset = nativeAsset ∧
        value.toNat + fee.gasLimit.toNat * fee.gasPrice.toNat < a.rewardAmount.toNat ∧
        required.toNat = value.toNat + fee.gasLimit.toNat * fee.gasPrice.toNat := by
  have hamount := a.rewardAmount.isLt
  have hrequired := toNat_saturatingAdd value fee.bound
  rw [Fee.toNat_bound] at hrequired
  -- Where the sum saturates, no reward exceeds it, so that saturation is not seen in the comparison.
  rw [requiredReward]
  by_cases hnative : a.rewardAsset = nativeAsset
  · by_cases hpaid : a.rewardAmount.toNat ≤ (saturatingAdd value fee.bound).toNat
    · simp only [hnative, hpaid, ne_eq, not_true_eq_false, if_false, if_true, reduceCtorEq, true_and,
        false_iff, not_and]
      omega
    · simp only [hnative, hpaid, ne_eq, not_true_eq_false, if_false, true_and, Except.ok.injEq,
        ← BitVec.toNat_inj]
      omega
  · simp [hnative]

theorem exists_requiredReward_iff {a : Attributes} {value : Word} {fee : Fee} :
    (∃ required, requiredReward a value fee = .ok required) ↔
      a.rewardAsset = nativeAsset ∧
        value.toNat + fee.gasLimit.toNat * fee.gasPrice.toNat < a.rewardAmount.toNat := by
  constructor
  · rintro ⟨required, h⟩
    obtain ⟨hnative, hpaid, -⟩ := requiredReward_eq_ok_iff.mp h
    exact ⟨hnative, hpaid⟩
  · rintro ⟨hnative, hpaid⟩
    have hamount := a.rewardAmount.isLt
    refine ⟨BitVec.ofNat 256 (value.toNat + fee.gasLimit.toNat * fee.gasPrice.toNat),
      requiredReward_eq_ok_iff.mpr ⟨hnative, hpaid, ?_⟩⟩
    rw [BitVec.toNat_ofNat]
    exact Nat.mod_eq_of_lt (by omega)

end CrossCall
