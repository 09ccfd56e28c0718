import Mathlib
import CrossCall.Proofs.Fulfillment.Acceptance
import CrossCall.Proofs.Node.Locality

/-!
# The course of a fulfillment

Once the call is built, a fulfillment asks one node up to four questions: for an estimate, for the
price, for the nonce, and to take the transaction. Each is asked only if those before it were
answered, and the third only if the reward is enough. `Relayer.Course` lists the ways this can go, so
that no later argument has to run the session again.

## Main definitions

* `Session.talk` — a run without its notes
* `Relayer.Course` — the ways in which a fulfillment can go
* `Relayer.Warrant` — what has to hold for a transaction to be sent

## Main results

* `Relayer.talk_handle` — what the handling of a log does to the nodes
* `Relayer.course_fulfill` — every fulfillment goes one of these ways
* `Relayer.sends_iff_warrant` — a transaction is sent exactly if there is a warrant for it
-/

namespace CrossCall

variable {χ σ α β ε : Type}

namespace Session

/-- A run without its notes: the result, the state of the nodes afterwards, and the exchanges. -/
def talk (env : Environment χ σ) (x : Session χ α) (s : σ) : α × σ × List (Exchange χ) :=
  ((x.run env s).1, (x.run env s).2.1, exchanges (x.run env s).2.2)

theorem exchanges_run (env : Environment χ σ) (x : Session χ α) (s : σ) :
    exchanges (x.run env s).2.2 = (x.talk env s).2.2 := rfl

variable {env : Environment χ σ} {s s' : σ} {es : List (Exchange χ)}

/-- What was talked, with some exchanges before it. -/
def after (es : List (Exchange χ)) (t : α × σ × List (Exchange χ)) : α × σ × List (Exchange χ) :=
  (t.1, t.2.1, es ++ t.2.2)

theorem talk_bind {x : Session χ α} {a : α} (f : α → Session χ β) (h : x.talk env s = (a, s', es)) :
    (x >>= f).talk env s = after es ((f a).talk env s') := by
  obtain ⟨rfl, rfl, rfl⟩ : (x.run env s).1 = a ∧ (x.run env s).2.1 = s' ∧
      exchanges (x.run env s).2.2 = es := by
    simpa [talk] using h
  simp only [after, talk, run_bind, exchanges_append]

theorem talk_bind_of_ok {x : ExceptT ε (Session χ) α} {a : α} (f : α → ExceptT ε (Session χ) β)
    (h : x.run.talk env s = (.ok a, s', es)) :
    (x >>= f).run.talk env s = after es ((f a).run.talk env s') := by
  rw [ExceptT.run_bind]
  exact talk_bind _ h

theorem talk_bind_of_error {x : ExceptT ε (Session χ) α} {e : ε} (f : α → ExceptT ε (Session χ) β)
    (h : x.run.talk env s = (.error e, s', es)) :
    (x >>= f).run.talk env s = (.error e, s', es) := by
  rw [ExceptT.run_bind, talk_bind _ h]
  simp [after, talk, run, pure, exchanges]

/-- A step that asks nothing and succeeds is passed over. -/
theorem talk_bind_of_silent {x : ExceptT ε (Session χ) α} {a : α} (f : α → ExceptT ε (Session χ) β)
    (h : x.run.talk env s = (.ok a, s, [])) :
    (x >>= f).run.talk env s = (f a).run.talk env s := by
  rw [talk_bind_of_ok f h]
  rfl

theorem talk_report (level : Journal.Level) (target text : String) :
    (report level target text : ExceptT ε (Session χ) Unit).run.talk env s = (.ok (), s, []) :=
  rfl

theorem talk_lift (x : Except ε α) :
    (liftM x : ExceptT ε (Session χ) α).run.talk env s = (x, s, []) := by
  cases x <;> rfl

theorem talk_query {node : χ} {request : Request} {answer : Except ClientError request.Answer}
    (onError : ClientError → ε) (h : env.answer s node request = (answer, s')) :
    (query node request onError).run.talk env s =
      (answer.mapError onError, s', [⟨node, request, answer⟩]) := by
  simp [talk, query, ExceptT.run, run, h, exchanges, Event.exchange?]

end Session

open Session

namespace Relayer

variable {env : Environment χ σ} {r : Relayer χ} {m : ValidMessage} {s : σ}

/-! ### Handling asks what fulfilling asks -/

theorem talk_countOutcome (outcome : Except FulfillmentError Submission) :
    (countOutcome outcome : Session χ Unit).talk env s = ((), s, []) := by
  cases outcome <;> rfl

theorem talk_attempt (source : ChainId) (log : Log) :
    (r.attempt source log).run.talk env s =
      match r.parse source log with
      | .error e => (.error e, s, [])
      | .ok m => (r.fulfill m).run.talk env s := by
  rw [attempt]
  cases hparse : r.parse source log with
  | error e => rw [talk_bind_of_error _ (talk_lift (.error e))]
  | ok m =>
    rw [talk_bind_of_silent _ (talk_lift (.ok m)), talk_bind_of_silent _ (talk_report _ _ _)]

/-- The handling of a log counts it and its outcome; else it does what fulfilling it does. -/
theorem talk_handle (source : ChainId) (log : Log) :
    (r.handle source log).talk env s =
      match r.parse source log with
      | .error e => (.error e, s, [])
      | .ok m => (r.fulfill m).run.talk env s := by
  rw [← talk_attempt, handle]
  rcases hattempt : (r.attempt source log).run.talk env s with ⟨outcome, s', es⟩
  have hmeasure : (measure .received 1 : Session χ Unit).talk env s = ((), s, []) := rfl
  rw [talk_bind _ hmeasure, talk_bind _ hattempt, talk_bind _ (talk_countOutcome outcome)]
  simp [after, talk, run, pure, exchanges]

/-! ### Fulfilling -/

/-- The transaction that carries a call. -/
abbrev transaction (m : ValidMessage) (call : FulfillmentCall) (fee : Fee) (nonce : BitVec 64) :
    LegacyTransaction :=
  { chainId := m.message.destinationId, nonce, target := call.target, value := call.value
    input := call.data, fee }

/-- The ways in which the fulfillment of a message by a call can go at the destination's node: the
result, the state of the nodes afterwards, and the exchanges. -/
inductive Course (env : Environment χ σ) (r : Relayer χ) (m : ValidMessage) (node : χ)
    (call : FulfillmentCall) (s : σ) :
    Except FulfillmentError Submission × σ × List (Exchange χ) → Prop
  | noEstimate {e : ClientError} {s₁ : σ}
      (estimate : env.answer s node (.estimateGas call.toRequest) = (.error e, s₁)) :
      Course env r m node call s
        (.error (.gasEstimate e), s₁, [⟨node, .estimateGas call.toRequest, .error e⟩])
  | noPrice {gas : BitVec 64} {e : ClientError} {s₁ s₂ : σ}
      (estimate : env.answer s node (.estimateGas call.toRequest) = (.ok gas, s₁))
      (price : env.answer s₁ node .gasPrice = (.error e, s₂)) :
      Course env r m node call s
        (.error (.gasPrice e), s₂,
          [⟨node, .estimateGas call.toRequest, .ok gas⟩, ⟨node, .gasPrice, .error e⟩])
  | unpaid {gas : BitVec 64} {gasPrice : BitVec 128} {e : FulfillmentError} {s₁ s₂ : σ}
      (estimate : env.answer s node (.estimateGas call.toRequest) = (.ok gas, s₁))
      (price : env.answer s₁ node .gasPrice = (.ok gasPrice, s₂))
      (reward : requiredReward m.attributes call.value ⟨bufferedGasLimit gas, gasPrice⟩ = .error e) :
      Course env r m node call s
        (.error e, s₂,
          [⟨node, .estimateGas call.toRequest, .ok gas⟩, ⟨node, .gasPrice, .ok gasPrice⟩])
  | noNonce {gas : BitVec 64} {gasPrice : BitVec 128} {required : Word} {e : ClientError}
      {s₁ s₂ s₃ : σ} (estimate : env.answer s node (.estimateGas call.toRequest) = (.ok gas, s₁))
      (price : env.answer s₁ node .gasPrice = (.ok gasPrice, s₂))
      (reward : requiredReward m.attributes call.value ⟨bufferedGasLimit gas, gasPrice⟩ =
        .ok required)
      (nonce : env.answer s₂ node (.pendingNonce r.account.address) = (.error e, s₃)) :
      Course env r m node call s
        (.error (.nonce e), s₃,
          [⟨node, .estimateGas call.toRequest, .ok gas⟩, ⟨node, .gasPrice, .ok gasPrice⟩,
           ⟨node, .pendingNonce r.account.address, .error e⟩])
  | sent {gas : BitVec 64} {gasPrice : BitVec 128} {required : Word} {n : BitVec 64}
      {answer : Except ClientError Word} {s₁ s₂ s₃ s₄ : σ}
      (estimate : env.answer s node (.estimateGas call.toRequest) = (.ok gas, s₁))
      (price : env.answer s₁ node .gasPrice = (.ok gasPrice, s₂))
      (reward : requiredReward m.attributes call.value ⟨bufferedGasLimit gas, gasPrice⟩ =
        .ok required)
      (nonce : env.answer s₂ node (.pendingNonce r.account.address) = (.ok n, s₃))
      (sending : env.answer s₃ node (.sendRawTransaction
        ((transaction m call ⟨bufferedGasLimit gas, gasPrice⟩ n).sign r.account.key)) =
        (answer, s₄)) :
      Course env r m node call s
        ((answer.mapError FulfillmentError.submission).map fun transactionHash =>
            { messageId := m.message.id, destination := m.message.destinationId, transactionHash
              requiredReward := required },
          s₄,
          [⟨node, .estimateGas call.toRequest, .ok gas⟩, ⟨node, .gasPrice, .ok gasPrice⟩,
           ⟨node, .pendingNonce r.account.address, .ok n⟩,
           ⟨node, .sendRawTransaction
             ((transaction m call ⟨bufferedGasLimit gas, gasPrice⟩ n).sign r.account.key), answer⟩])

/-- A message without a call is given up before its node is asked. -/
theorem talk_fulfill_of_ofMessage_eq_error {destination : Registration χ} {e : DecodeError}
    (hget : r.registry.get? m.message.destinationId = some destination)
    (hcall : FulfillmentCall.ofMessage m destination.endpoint r.account.address = .error e) :
    (r.fulfill m).run.talk env s = (.error (.decode e), s, []) := by
  simp only [fulfill, hget, hcall]
  exact talk_bind_of_error _ (talk_lift (.error (FulfillmentError.decode e)))

/-- A message with a call goes one of the ways. -/
theorem course_fulfill {destination : Registration χ} {call : FulfillmentCall}
    (hget : r.registry.get? m.message.destinationId = some destination)
    (hcall : FulfillmentCall.ofMessage m destination.endpoint r.account.address = .ok call) :
    Course env r m destination.client call s ((r.fulfill m).run.talk env s) := by
  -- The steps are walked through in order; after each one the run has ended or goes on.
  simp only [fulfill, hget, hcall, Except.mapError, Fee.quote, submit, LawfulMonad.bind_assoc,
    pure_bind]
  rw [talk_bind_of_silent _ (talk_lift (.ok call)), talk_bind_of_silent _ (talk_report _ _ _)]
  rcases hestimate : env.answer s destination.client (.estimateGas call.toRequest) with ⟨gas, s₁⟩
  cases gas with
  | error e =>
    rw [talk_bind_of_error _ (talk_query _ hestimate)]
    exact .noEstimate hestimate
  | ok gas =>
    rw [talk_bind_of_ok _ (talk_query _ hestimate)]
    rcases hprice : env.answer s₁ destination.client .gasPrice with ⟨gasPrice, s₂⟩
    cases gasPrice with
    | error e =>
      rw [talk_bind_of_error _ (talk_query _ hprice)]
      exact .noPrice hestimate hprice
    | ok gasPrice =>
      rw [talk_bind_of_ok _ (talk_query _ hprice), talk_bind_of_silent _ (talk_report _ _ _)]
      cases hreward : requiredReward m.attributes call.value ⟨bufferedGasLimit gas, gasPrice⟩ with
      | error e =>
        rw [talk_bind_of_error _ (talk_lift (.error e))]
        exact .unpaid hestimate hprice hreward
      | ok required =>
        rw [talk_bind_of_silent _ (talk_lift (.ok required)),
          talk_bind_of_silent _ (talk_report _ _ _)]
        rcases hnonce : env.answer s₂ destination.client (.pendingNonce r.account.address) with
          ⟨n, s₃⟩
        cases n with
        | error e =>
          rw [talk_bind_of_error _ (talk_query _ hnonce)]
          exact .noNonce hestimate hprice hreward hnonce
        | ok n =>
          rw [talk_bind_of_ok _ (talk_query _ hnonce)]
          rcases hsending : env.answer s₃ destination.client (.sendRawTransaction
            ((transaction m call ⟨bufferedGasLimit gas, gasPrice⟩ n).sign r.account.key)) with
            ⟨answer, s₄⟩
          -- The call counts as sent whatever the node answers.
          have hsent : Course env r m destination.client call s _ :=
            .sent hestimate hprice hreward hnonce hsending
          cases answer with
          | error e =>
            rw [talk_bind_of_error _ (talk_query _ hsending)]
            exact hsent
          | ok hash =>
            rw [talk_bind_of_ok _ (talk_query _ hsending)]
            exact hsent

/-! ### When a transaction is sent -/

/-- What has to hold for the relayer to send a transaction for a log seen on a chain, when the nodes
are in a given state. -/
structure Warrant (env : Environment χ σ) (r : Relayer χ) (source : ChainId) (log : Log) (s : σ) where
  /-- The message and what it asks for. -/
  message : ValidMessage
  endpoint : Endpoint
  destination : Registration χ
  /-- The list that the attributes are read from. -/
  blobs : List Bytes
  /-- The exact value that the fulfillment needs. -/
  value : Nat
  /-- The answers of the destination's node, and the states after them. -/
  estimate : BitVec 64
  gasPrice : BitVec 128
  nonce : BitVec 64
  estimated : σ
  priced : σ
  counted : σ
  source_registered : r.registry.endpoint? source = some endpoint
  log_decodes : PostedMessage.decodeLog log = .ok message.message
  destination_registered : r.registry.get? message.message.destinationId = some destination
  accepted : message.Accepted endpoint destination.endpoint blobs
  needs : message.message.Needs message.body value
  value_lt : value < 2 ^ 256
  estimate_answered :
    env.answer s destination.client
        (.estimateGas (message.callWith destination.endpoint r.account.address
          (BitVec.ofNat 256 value)).toRequest) =
      (.ok estimate, estimated)
  price_answered : env.answer estimated destination.client .gasPrice = (.ok gasPrice, priced)
  nonce_answered :
    env.answer priced destination.client (.pendingNonce r.account.address) = (.ok nonce, counted)
  reward_native : message.attributes.rewardAsset = nativeAsset
  reward_enough :
    value + min (2 ^ 64 - 1) (estimate.toNat * 12 / 10) * gasPrice.toNat <
      message.attributes.rewardAmount.toNat

namespace Course

variable {node : χ} {call : FulfillmentCall}
variable {t : Except FulfillmentError Submission × σ × List (Exchange χ)}

/-- All exchanges are with one node, and are about the call. -/
theorem request_of_mem (h : Course env r m node call s t) {e : Exchange χ} (he : e ∈ t.2.2) :
    e.node = node ∧
      (e.request = .estimateGas call.toRequest ∨ e.request = .gasPrice ∨
        e.request = .pendingNonce r.account.address ∨
        ∃ fee n, e.request =
          .sendRawTransaction ((transaction m call fee n).sign r.account.key)) := by
  cases h with
  | noEstimate | noPrice | unpaid | noNonce =>
    simp only [List.mem_cons, List.not_mem_nil, or_false] at he
    rcases he with rfl | rfl | rfl <;> simp
  | sent =>
    simp only [List.mem_cons, List.not_mem_nil, or_false] at he
    rcases he with rfl | rfl | rfl | rfl
    · simp
    · simp
    · simp
    · exact ⟨rfl, .inr (.inr (.inr ⟨_, _, rfl⟩))⟩

/-- Whatever is sent carries the call, and everything before it went well. -/
theorem of_send (h : Course env r m node call s t) {e : Exchange χ} (he : e ∈ t.2.2) {raw : Bytes}
    (hraw : e.request = .sendRawTransaction raw) :
    ∃ gas gasPrice required n s₁ s₂ s₃,
      env.answer s node (.estimateGas call.toRequest) = (.ok gas, s₁) ∧
      env.answer s₁ node .gasPrice = (.ok gasPrice, s₂) ∧
      requiredReward m.attributes call.value ⟨bufferedGasLimit gas, gasPrice⟩ = .ok required ∧
      env.answer s₂ node (.pendingNonce r.account.address) = (.ok n, s₃) ∧
      raw = (transaction m call ⟨bufferedGasLimit gas, gasPrice⟩ n).sign r.account.key := by
  cases h with
  | noEstimate =>
    rcases List.mem_singleton.mp he with rfl
    cases hraw
  | noPrice | unpaid | noNonce =>
    simp only [List.mem_cons, List.not_mem_nil, or_false] at he
    rcases he with rfl | rfl | rfl <;> cases hraw
  | sent estimate price reward nonce sending =>
    simp only [List.mem_cons, List.not_mem_nil, or_false] at he
    rcases he with rfl | rfl | rfl | rfl <;> cases hraw
    exact ⟨_, _, _, _, _, _, _, estimate, price, reward, nonce, rfl⟩

/-- If everything before it goes well, a transaction is sent. -/
theorem exists_send (h : Course env r m node call s t) {gas : BitVec 64} {gasPrice : BitVec 128}
    {required : Word} {n : BitVec 64} {s₁ s₂ s₃ : σ}
    (estimate : env.answer s node (.estimateGas call.toRequest) = (.ok gas, s₁))
    (price : env.answer s₁ node .gasPrice = (.ok gasPrice, s₂))
    (reward : requiredReward m.attributes call.value ⟨bufferedGasLimit gas, gasPrice⟩ = .ok required)
    (nonce : env.answer s₂ node (.pendingNonce r.account.address) = (.ok n, s₃)) :
    ∃ e ∈ t.2.2, ∃ raw, e.request = .sendRawTransaction raw := by
  -- Every way that ends before the sending has a step that went otherwise.
  cases h with
  | noEstimate estimate' =>
    rw [estimate] at estimate'
    cases estimate'
  | noPrice estimate' price' =>
    rw [estimate] at estimate'
    cases estimate'
    rw [price] at price'
    cases price'
  | unpaid estimate' price' reward' =>
    rw [estimate] at estimate'
    cases estimate'
    rw [price] at price'
    cases price'
    rw [reward] at reward'
    cases reward'
  | noNonce estimate' price' reward' nonce' =>
    rw [estimate] at estimate'
    cases estimate'
    rw [price] at price'
    cases price'
    rw [nonce] at nonce'
    cases nonce'
  | sent =>
    refine ⟨_, List.mem_cons_of_mem _ (List.mem_cons_of_mem _ (List.mem_cons_of_mem _
      List.mem_cons_self)), _, rfl⟩

end Course

/-- A message for which a call is built needs a value that is a word, and it is the call's. -/
theorem needs_of_ofMessage {destination : Endpoint} {relayer : Address} {call : FulfillmentCall}
    (h : FulfillmentCall.ofMessage m destination relayer = .ok call) :
    m.message.Needs m.body call.value.toNat ∧
      m.callWith destination relayer (BitVec.ofNat 256 call.value.toNat) = call := by
  obtain ⟨hneeds, hcall⟩ := FulfillmentCall.ofMessage_eq_ok_iff.mp h
  refine ⟨hneeds, ?_⟩
  rw [BitVec.ofNat_toNat, BitVec.setWidth_eq]
  exact hcall.symm

/-- What is asked for a log is asked about the call of the message in the log. -/
theorem exists_course_of_mem {source : ChainId} {log : Log} {e : Exchange χ}
    (he : e ∈ ((r.handle source log).talk env s).2.2) :
    ∃ m destination call, r.parse source log = .ok m ∧
      r.registry.get? m.message.destinationId = some destination ∧
      FulfillmentCall.ofMessage m destination.endpoint r.account.address = .ok call ∧
      Course env r m destination.client call s ((r.handle source log).talk env s) := by
  rw [talk_handle] at he ⊢
  cases hparse : r.parse source log with
  | error _ => simp [hparse] at he
  | ok m =>
    simp only [hparse] at he
    obtain ⟨_, destination, _, _, _, hget, _⟩ := parse_eq_ok_iff.mp hparse
    cases hcall : FulfillmentCall.ofMessage m destination.endpoint r.account.address with
    | error _ =>
      rw [talk_fulfill_of_ofMessage_eq_error hget hcall] at he
      simp at he
    | ok call => exact ⟨m, destination, call, rfl, hget, hcall, course_fulfill hget hcall⟩

/-- The relayer sends a transaction for a log exactly if there is a warrant for it. -/
theorem sends_iff_warrant (env : Environment χ σ) (r : Relayer χ) (source : ChainId) (log : Log)
    (s : σ) :
    (∃ e ∈ exchanges ((r.handle source log).run env s).2.2,
        ∃ raw, e.request = .sendRawTransaction raw) ↔
      Nonempty (Warrant env r source log s) := by
  rw [exchanges_run]
  constructor
  · -- What was sent was sent for a call, and the way to it shows all that a warrant asks for.
    rintro ⟨e, he, raw, hraw⟩
    obtain ⟨m, destination, call, hparse, hget, hcall, hcourse⟩ := exists_course_of_mem he
    obtain ⟨endpoint, destination', blobs, hsource, hlog, hget', haccepted⟩ :=
      parse_eq_ok_iff.mp hparse
    obtain rfl : destination = destination' := Option.some.inj (hget.symm.trans hget')
    obtain ⟨hneeds, hwith⟩ := needs_of_ofMessage hcall
    obtain ⟨gas, gasPrice, required, n, s₁, s₂, s₃, hestimate, hprice, hreward, hnonce, -⟩ :=
      hcourse.of_send he hraw
    obtain ⟨hnative, hpaid, -⟩ := requiredReward_eq_ok_iff.mp hreward
    rw [← hwith] at hestimate
    simp only [toNat_bufferedGasLimit] at hpaid
    exact ⟨{
      message := m, endpoint, destination, blobs, value := call.value.toNat
      estimate := gas, gasPrice, nonce := n, estimated := s₁, priced := s₂, counted := s₃
      source_registered := hsource, log_decodes := hlog, destination_registered := hget
      accepted := haccepted, needs := hneeds, value_lt := call.value.isLt
      estimate_answered := hestimate, price_answered := hprice, nonce_answered := hnonce
      reward_native := hnative, reward_enough := hpaid }⟩
  · -- With a warrant the log is read, the call is built and paid for, so that no step can fail.
    rintro ⟨w⟩
    have hparse : r.parse source log = .ok w.message :=
      parse_eq_ok_iff.mpr ⟨w.endpoint, w.destination, w.blobs, w.source_registered, w.log_decodes,
        w.destination_registered, w.accepted⟩
    have hvalue : (BitVec.ofNat 256 w.value).toNat = w.value := by
      rw [BitVec.toNat_ofNat]
      exact Nat.mod_eq_of_lt w.value_lt
    have hcall : FulfillmentCall.ofMessage w.message w.destination.endpoint r.account.address =
        .ok (w.message.callWith w.destination.endpoint r.account.address
          (BitVec.ofNat 256 w.value)) := by
      refine FulfillmentCall.ofMessage_eq_ok_iff.mpr ⟨?_, rfl⟩
      simp only [ValidMessage.callWith, hvalue]
      exact w.needs
    have hcourse : Course env r w.message w.destination.client _ s
        ((r.fulfill w.message).run.talk env s) :=
      course_fulfill w.destination_registered hcall
    obtain ⟨required, hreward⟩ : ∃ required, requiredReward w.message.attributes
        (BitVec.ofNat 256 w.value) ⟨bufferedGasLimit w.estimate, w.gasPrice⟩ = .ok required := by
      refine exists_requiredReward_iff.mpr ⟨w.reward_native, ?_⟩
      rw [hvalue, toNat_bufferedGasLimit]
      exact w.reward_enough
    rw [talk_handle, hparse]
    exact hcourse.exists_send w.estimate_answered w.price_answered hreward w.nonce_answered

end Relayer

end CrossCall
