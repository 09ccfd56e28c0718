import Mathlib
import CrossCall.Proofs.Settlement.SlotReading
import CrossCall.Proofs.Settlement.Snapshot

/-!
# How a composition fails

A composition has three steps: the block of the base chain, the confirmed state of the rollup, and
the record of the message. The first step that fails ends it, with the error wrapped for the step
and without a question of a later step. After each of the first two steps the token is looked at,
and if it was cancelled by then, before the step or by any of its questions, the composition ends
there as cancelled. After that the token is not looked at any more.

The second step is four questions, each of which makes use of the answers before it. What is made of
each answer is said by one function, and the first answer of which nothing can be made is the last.

## Main definitions

* `L1Snapshot.readAnswer`, `Rollup.readConfirmed`, `Rollup.readAssertion`, `Rollup.readHeader` —
  what is made of an answer
* `Rollup.Asked` — what can be asked about the confirmed state of a rollup, with the result
* `RollupError.callsMade` — how many questions come before an error
* `Composition` — a composition with its steps
* `Composition.FailsStepwise` — how the result follows from the steps and the token

## Main results

* `Rollup.asked_capture` — the questions about a confirmed state
* `Composition.failsStepwise` — every composition fails step by step
-/

namespace CrossCall

open Session

variable {χ σ : Type}

/-! ### The block of the base chain -/

namespace L1Snapshot

/-- What is made of the answer about a block of the base chain. -/
def readAnswer (block : BlockTag) (answer : Except ClientError (Option SealedHeader)) :
    Except L1StateError L1Snapshot := do
  match ← answer.mapError .request with
  | none => throw (.blockNotFound block)
  | some source => return { proof := .ofHeader source.header, source }

theorem asksOnce_capture (node : χ) (block : BlockTag) :
    AsksOnce (capture node true block) node (.headerByNumber block) (readAnswer block) := by
  rw [capture]
  simp only [Bool.not_true, Bool.false_eq_true, if_false]
  refine (asksOnce_query node _ _).bind_silent fun answer => ?_
  cases answer with
  | none => exact silent_throw _
  | some source => exact (silent_report _ _ _).bind_of_ok (silent_pure _)

/-- Without a development network nothing is asked. -/
theorem silent_capture (node : χ) (block : BlockTag) :
    Silent (capture node false block) (.error .noBeaconChain) :=
  fun _ _ _ => rfl

theorem heedless_capture (node : χ) (devnet : Bool) (block : BlockTag) :
    (capture node devnet block).run.Heedless := by
  cases devnet with
  | false => trivial
  | true =>
    refine (heedless_query _ _ _).bindExcept fun answer => ?_
    cases answer with
    | none => trivial
    | some source => exact (heedless_report _ _ _).bindExcept fun _ => trivial

end L1Snapshot

theorem SlotProof.heedless_prove (node : χ) (contract : Address) (slot : Word) (block : BlockTag) :
    (prove node contract slot block).run.Heedless := by
  refine (heedless_report _ _ _).bindExcept fun _ =>
    (heedless_query _ _ _).bindExcept fun answer => ?_
  cases answer.storageProof with
  | nil => trivial
  | cons entry rest =>
    refine (heedless_report _ _ _).bindExcept fun _ => (heedless_lift _).bindExcept fun proof => ?_
    exact (heedless_report _ _ _).bindExcept fun _ => trivial

/-! ### The confirmed state of the rollup -/

namespace Rollup

variable {r : Rollup}

/-- The question for the latest confirmed assertion. -/
def confirmedRequest (r : Rollup) (l1Block : BitVec 64) : Request :=
  .call { target := some r.contract, data := some (Bytes.ofBitVec latestConfirmedSelector) }
    (.number l1Block)

/-- What is made of the answer that names the latest confirmed assertion. -/
def readConfirmed (answer : Except ClientError Bytes) : Except RollupError Word := do
  let bs ← answer.mapError .latestConfirmed
  (Abi.decodeSingle (.word 256) bs).mapError .latestConfirmedAnswer

/-- What is made of the logs of an assertion: the last of them is read. -/
def readLogs (r : Rollup) (hash : Word) (l1Block : BitVec 64)
    (answer : Except ClientError (List Log)) : Except RollupError AssertionCreated := do
  let logs ← answer.mapError .assertionLogs
  match logs.getLast? with
  | none => throw (.assertionNotFound hash (r.firstBlock l1Block) l1Block)
  | some log => (AssertionCreated.decodeLog log).mapError .assertionLog

/-- What is made of the logs of an assertion: its log, and the state that it ends at. -/
def readAssertion (r : Rollup) (hash : Word) (l1Block : BitVec 64)
    (answer : Except ClientError (List Log)) :
    Except RollupError (AssertionCreated × AssertionState) :=
  match r.readLogs hash l1Block answer with
  | .error e => .error e
  | .ok created =>
    ((AssertionState.ofValue created.after).mapError .machineStatus).map (created, ·)

/-- What is made of the answer about the block that an assertion ends at. -/
def readHeader (hash : Word) (answer : Except ClientError (Option SealedHeader)) :
    Except RollupError Header := do
  match ← answer.mapError .l2Block with
  | none => throw (.l2BlockNotFound hash)
  | some found =>
    if found.header.hash ≠ hash then throw (.blockHashMismatch hash found.header.hash)
    return found.header

theorem asksOnce_latestConfirmed (r : Rollup) (l1 : χ) (l1Block : BitVec 64) :
    AsksOnce (r.latestConfirmed l1 l1Block) l1 (r.confirmedRequest l1Block) readConfirmed :=
  (asksOnce_query l1 _ _).bind_silent fun _ => silent_lift _

theorem asksOnce_assertionCreated (r : Rollup) (l1 : χ) (hash : Word) (l1Block : BitVec 64) :
    AsksOnce (r.assertionCreated l1 hash l1Block) l1 (.logs (r.assertionFilter hash l1Block))
      (r.readLogs hash l1Block) := by
  refine (asksOnce_query l1 _ _).bind_silent fun logs => ?_
  cases logs.getLast? with
  | none => exact silent_throw _
  | some log => exact silent_lift _

theorem asksOnce_headerOf (l2 : χ) (hash : Word) :
    AsksOnce (headerOf l2 hash) l2 (.headerByHash hash) (readHeader hash) := by
  refine (asksOnce_query l2 _ _).bind_silent fun answer => ?_
  cases answer with
  | none => exact silent_throw _
  | some found =>
    by_cases hhash : found.header.hash = hash
    · simp only [ne_eq, hhash, not_true_eq_false, if_false]
      exact silent_pure _
    · simp only [ne_eq, hhash, not_false_eq_true, if_true]
      exact silent_throw _

theorem heedless_capture (r : Rollup) (l1 l2 : χ) (l1Block : BitVec 64) :
    (r.capture l1 l2 l1Block).run.Heedless := by
  have hconfirmed : (r.latestConfirmed l1 l1Block).run.Heedless :=
    (heedless_query _ _ _).bindExcept fun _ => heedless_lift _
  have hcreated : ∀ hash, (r.assertionCreated l1 hash l1Block).run.Heedless := by
    refine fun hash => (heedless_query _ _ _).bindExcept fun logs => ?_
    cases logs.getLast? with
    | none => trivial
    | some log => exact heedless_lift _
  have hheader : ∀ hash, (headerOf l2 hash).run.Heedless := by
    refine fun hash => (heedless_query _ _ _).bindExcept fun answer => ?_
    cases answer with
    | none => trivial
    | some found =>
      by_cases hhash : found.header.hash = hash
      · simp only [ne_eq, hhash, not_true_eq_false, if_false]
        trivial
      · simp only [ne_eq, hhash, not_false_eq_true, if_true]
        trivial
  refine hconfirmed.bindExcept fun hash => (hcreated hash).bindExcept fun created =>
    (heedless_lift _).bindExcept fun afterState => (hheader _).bindExcept fun header =>
      Heedless.bindExcept ?_ fun proof => (heedless_report _ _ _).bindExcept fun _ => trivial
  rw [adapt_eq_bind]
  exact (SlotProof.heedless_prove _ _ _ _).bind fun _ => trivial

/-- The confirmed state that is captured with a proof. -/
def snapshotOf (created : AssertionCreated) (afterState : AssertionState) (header : Header)
    (proof : SlotProof) : RollupSnapshot where
  assertion :=
    { encodedHeader := header.encode, afterState, prevAssertionHash := created.parent
      sequencerBatchAcc := created.inboxAccumulator }
  proof := proof
  l2Block := header.number

/-- What can be asked about the confirmed state of a rollup, with the result: an answer of which
nothing can be made is the last one. -/
inductive Asked (r : Rollup) (l1 l2 : χ) (l1Block : BitVec 64) :
    Except RollupError RollupSnapshot → List (Exchange χ) → Prop
  | confirmed {confirmed e} (failed : readConfirmed confirmed = .error e) :
      Asked r l1 l2 l1Block (.error e) [⟨l1, r.confirmedRequest l1Block, confirmed⟩]
  | assertion {confirmed hash logs e} (named : readConfirmed confirmed = .ok hash)
      (failed : r.readAssertion hash l1Block logs = .error e) :
      Asked r l1 l2 l1Block (.error e)
        [⟨l1, r.confirmedRequest l1Block, confirmed⟩,
         ⟨l1, .logs (r.assertionFilter hash l1Block), logs⟩]
  | header {confirmed hash logs created afterState found e}
      (named : readConfirmed confirmed = .ok hash)
      (logged : r.readAssertion hash l1Block logs = .ok (created, afterState))
      (failed : readHeader afterState.globalState.blockHash found = .error e) :
      Asked r l1 l2 l1Block (.error e)
        [⟨l1, r.confirmedRequest l1Block, confirmed⟩,
         ⟨l1, .logs (r.assertionFilter hash l1Block), logs⟩,
         ⟨l2, .headerByHash afterState.globalState.blockHash, found⟩]
  | proof {confirmed hash logs created afterState found header proven}
      (named : readConfirmed confirmed = .ok hash)
      (logged : r.readAssertion hash l1Block logs = .ok (created, afterState))
      (read : readHeader afterState.globalState.blockHash found = .ok header) :
      Asked r l1 l2 l1Block
        (((SlotProof.readAnswer (mappingSlot hash r.assertionsSlot) proven).mapError .slotProof).map
          (snapshotOf created afterState header))
        [⟨l1, r.confirmedRequest l1Block, confirmed⟩,
         ⟨l1, .logs (r.assertionFilter hash l1Block), logs⟩,
         ⟨l2, .headerByHash afterState.globalState.blockHash, found⟩,
         ⟨l1, .proof r.contract [mappingSlot hash r.assertionsSlot] (.number l1Block), proven⟩]

theorem asked_capture (r : Rollup) (l1 l2 : χ) (l1Block : BitVec 64) (env : Environment χ σ)
    (s : σ) :
    r.Asked l1 l2 l1Block ((r.capture l1 l2 l1Block).run.talk env s).1
      ((r.capture l1 l2 l1Block).run.talk env s).2.2 := by
  -- Each step goes on from the state that the last one left; where nothing can be made of an
  -- answer, the questions so far are all.
  obtain ⟨confirmed, s₁, ⟨e, hnamed, htalk⟩ | ⟨hash, hnamed, htalk⟩⟩ :=
    (r.asksOnce_latestConfirmed l1 l1Block).exists_talk_bind env s
  · rw [capture, htalk]
    exact .confirmed hnamed
  rw [capture, htalk]
  obtain ⟨logs, s₂, ⟨e, hlogs, htalk⟩ | ⟨created, hlogs, htalk⟩⟩ :=
    (r.asksOnce_assertionCreated l1 hash l1Block).exists_talk_bind env s₁
  · rw [htalk]
    exact .assertion hnamed (by rw [readAssertion, hlogs])
  rw [htalk]
  rcases hstate : (AssertionState.ofValue created.after).mapError RollupError.machineStatus with
    e | afterState
  · rw [talk_bind_of_error _ (talk_lift (.error e))]
    exact .assertion hnamed (by simp only [readAssertion, hlogs, hstate]; rfl)
  have hlogged : r.readAssertion hash l1Block logs = .ok (created, afterState) := by
    simp only [readAssertion, hlogs, hstate]
    rfl
  rw [talk_bind_of_silent _ (talk_lift (.ok afterState))]
  obtain ⟨found, s₃, ⟨e, hread, htalk⟩ | ⟨header, hread, htalk⟩⟩ :=
    (asksOnce_headerOf l2 afterState.globalState.blockHash).exists_talk_bind env s₂
  · rw [htalk]
    exact .header hnamed hlogged hread
  rw [htalk]
  obtain ⟨proven, s₄, ⟨e, hproof, htalk⟩ | ⟨proof, hproof, htalk⟩⟩ :=
    ((SlotProof.asksOnce_prove l1 r.contract (mappingSlot hash r.assertionsSlot)
      (.number l1Block)).adapt RollupError.slotProof).exists_talk_bind env s₃
  all_goals
    have hasked := @Asked.proof _ r l1 l2 l1Block _ _ _ _ _ _ _ proven hnamed hlogged hread
    rw [hproof] at hasked
    rw [htalk]
    exact hasked

end Rollup

/-! ### Which error comes after which questions -/

/-- How many questions are asked about the confirmed state of a rollup before an error. -/
def RollupError.callsMade : RollupError → Nat
  | noL1Block => 0
  | latestConfirmed _ | latestConfirmedAnswer _ => 1
  | assertionLogs _ | assertionNotFound _ _ _ | assertionLog _ | machineStatus _ => 2
  | l2Block _ | l2BlockNotFound _ | blockHashMismatch _ _ => 3
  | slotProof _ => 4

namespace Rollup

variable {r : Rollup} {e : RollupError}

theorem callsMade_of_readConfirmed {answer : Except ClientError Bytes}
    (h : readConfirmed answer = .error e) : e.callsMade = 1 := by
  rw [readConfirmed, bind_eq_error_iff] at h
  simp only [mapError_eq_error_iff] at h
  rcases h with ⟨cause, -, rfl⟩ | ⟨bs, -, cause, -, rfl⟩ <;> rfl

theorem callsMade_of_readLogs {hash : Word} {l1Block : BitVec 64}
    {answer : Except ClientError (List Log)} (h : r.readLogs hash l1Block answer = .error e) :
    e.callsMade = 2 := by
  rw [readLogs, bind_eq_error_iff] at h
  rcases h with h | ⟨logs, -, h⟩
  · obtain ⟨cause, -, rfl⟩ := mapError_eq_error_iff.mp h
    rfl
  · cases hlast : logs.getLast? with
    | none =>
      rw [hlast] at h
      cases h
      rfl
    | some log =>
      rw [hlast] at h
      obtain ⟨cause, -, rfl⟩ := mapError_eq_error_iff.mp h
      rfl

theorem callsMade_of_readAssertion {hash : Word} {l1Block : BitVec 64}
    {answer : Except ClientError (List Log)} (h : r.readAssertion hash l1Block answer = .error e) :
    e.callsMade = 2 := by
  rw [readAssertion] at h
  rcases hlogs : r.readLogs hash l1Block answer with e' | created
  · rw [hlogs] at h
    cases h
    exact callsMade_of_readLogs hlogs
  · rw [hlogs] at h
    rcases hstate : AssertionState.ofValue created.after with number | afterState
    · simp only [hstate] at h
      cases h
      rfl
    · simp only [hstate] at h
      cases h

theorem callsMade_of_readHeader {hash : Word}
    {answer : Except ClientError (Option SealedHeader)} (h : readHeader hash answer = .error e) :
    e.callsMade = 3 := by
  rw [readHeader, bind_eq_error_iff] at h
  rcases h with h | ⟨found, -, h⟩
  · obtain ⟨cause, -, rfl⟩ := mapError_eq_error_iff.mp h
    rfl
  · cases found with
    | none =>
      cases h
      rfl
    | some found =>
      by_cases hhash : found.header.hash = hash
      · simp only [ne_eq, hhash, not_true_eq_false, if_false] at h
        cases h
      · simp only [ne_eq, hhash, not_false_eq_true, if_true] at h
        cases h
        rfl

/-- The questions about the confirmed state of a rollup, in their order. -/
def questions (r : Rollup) (l1 l2 : χ) (l1Block : BitVec 64) (hash blockHash : Word) :
    List (χ × Request) :=
  [(l1, r.confirmedRequest l1Block), (l1, .logs (r.assertionFilter hash l1Block)),
   (l2, .headerByHash blockHash),
   (l1, .proof r.contract [mappingSlot hash r.assertionsSlot] (.number l1Block))]

/-- Which error it is says which questions were asked; if there is none, all of them were. -/
theorem Asked.exists_questions {l1 l2 : χ} {l1Block : BitVec 64}
    {result : Except RollupError RollupSnapshot} {es : List (Exchange χ)}
    (h : r.Asked l1 l2 l1Block result es) :
    ∃ hash blockHash,
      (∀ e, result = .error e → es.map (fun x => (x.node, x.request)) =
        (r.questions l1 l2 l1Block hash blockHash).take e.callsMade) ∧
      (∀ snapshot, result = .ok snapshot → es.map (fun x => (x.node, x.request)) =
        r.questions l1 l2 l1Block hash blockHash) := by
  -- The hash of what was not asked about may be any.
  cases h with
  | confirmed failed =>
    refine ⟨0, 0, fun e he => ?_, fun snapshot h => by cases h⟩
    cases he
    rw [callsMade_of_readConfirmed failed]
    rfl
  | @assertion _ hash _ _ _ failed =>
    refine ⟨hash, 0, fun e he => ?_, fun snapshot h => by cases h⟩
    cases he
    rw [callsMade_of_readAssertion failed]
    rfl
  | @header _ hash _ _ afterState _ _ _ _ failed =>
    refine ⟨hash, afterState.globalState.blockHash, fun e he => ?_, fun snapshot h => by cases h⟩
    cases he
    rw [callsMade_of_readHeader failed]
    rfl
  | @proof _ hash _ _ afterState _ _ proven =>
    refine ⟨hash, afterState.globalState.blockHash, fun e he => ?_, fun _ _ => rfl⟩
    rcases hproof : SlotProof.readAnswer (mappingSlot hash r.assertionsSlot) proven with
      cause | proof
    · rw [hproof] at he
      cases he
      rfl
    · rw [hproof] at he
      cases he

end Rollup

/-! ### The composition -/

/-- A composition: which nodes are asked, and about what. -/
structure Composition (χ : Type) where
  l1 : χ
  l2 : χ
  devnet : Bool
  rollup : Rollup
  inbox : Address
  messageId : Word
  block : BlockTag

namespace Composition

variable {c : Composition χ} {env : Environment χ σ} {s s₁ s₂ : σ} {es₁ es₂ : List (Exchange χ)}

/-- The whole composition. -/
def whole (c : Composition χ) : ExceptT CompositionError (Session χ) ProofBundle :=
  ProofBundle.compose c.l1 c.l2 c.devnet c.rollup c.inbox c.messageId c.block

/-- The first step. -/
def base (c : Composition χ) : ExceptT L1StateError (Session χ) L1Snapshot :=
  L1Snapshot.capture c.l1 c.devnet c.block

/-- The second step, at the block of the first one. -/
def confirmed (c : Composition χ) (base : L1Snapshot) :
    ExceptT RollupError (Session χ) RollupSnapshot :=
  c.rollup.capture c.l1 c.l2 base.source.header.number

/-- The slot of the message's record. -/
def slot (c : Composition χ) : Word := mappingSlot c.messageId fulfillmentInfoSlot

/-- The last step, at the block of the second one. -/
def record (c : Composition χ) (snapshot : RollupSnapshot) :
    ExceptT SlotProofError (Session χ) SlotProof :=
  SlotProof.prove c.l2 c.inbox c.slot (.number snapshot.l2Block)

/-- The bundle of three parts. -/
def bundle (base : L1Snapshot) (snapshot : RollupSnapshot) (inboxProof : SlotProof) :
    ProofBundle where
  l1State := base.proof
  assertion := snapshot.assertion
  assertionProof := snapshot.proof
  inboxProof := inboxProof

/-- A step with a look at the token after it, and what comes then. -/
def step {ε α β : Type} (x : ExceptT ε (Session χ) α) (onError : ε → CompositionError)
    (f : α → ExceptT CompositionError (Session χ) β) : ExceptT CompositionError (Session χ) β := do
  let a ← x.adapt onError
  ProofBundle.ensureActive
  f a

/-- The last step, after which the token is not looked at. -/
def finish (c : Composition χ) (base : L1Snapshot) (snapshot : RollupSnapshot) :
    ExceptT CompositionError (Session χ) ProofBundle := do
  let inboxProof ← (c.record snapshot).adapt .inboxStorage
  report .info "filler::prover" "Composed proof bundle"
  return bundle base snapshot inboxProof

theorem whole_eq (c : Composition χ) :
    c.whole = step c.base .l1State fun base =>
      step (c.confirmed base) .rollupState fun snapshot => c.finish base snapshot := rfl

/-! ### One step -/

section

variable {ε α β : Type} {x : ExceptT ε (Session χ) α} {onError : ε → CompositionError}
variable {f : α → ExceptT CompositionError (Session χ) β} {a : α} {e : ε}

theorem talk_ensureActive (env : Environment χ σ) (s : σ) :
    (ProofBundle.ensureActive : ExceptT CompositionError (Session χ) Unit).run.talk env s =
      (if env.cancelled s then .error .cancelled else .ok (), s, []) := by
  have hcheck : (checkCancelled : ExceptT CompositionError (Session χ) Bool).run.talk env s =
      (.ok (env.cancelled s), s, []) := rfl
  rw [ProofBundle.ensureActive, talk_bind_of_silent _ hcheck]
  cases env.cancelled s <;> rfl

theorem talk_adapt_eq {result : Except ε α} (onError : ε → CompositionError)
    (h : x.run.talk env s = (result, s₁, es₁)) :
    (x.adapt onError).run.talk env s = (result.mapError onError, s₁, es₁) := by
  rw [talk_adapt, h]

/-- A step that fails is the last one, whatever the token is. -/
theorem talk_step_of_error (h : x.run.talk env s = (.error e, s₁, es₁)) :
    (step x onError f).run.talk env s = (.error (onError e), s₁, es₁) :=
  talk_bind_of_error _ (talk_adapt_eq onError h)

/-- A step that goes well is the last one if the token is cancelled by then. -/
theorem talk_step_of_cancelled (h : x.run.talk env s = (.ok a, s₁, es₁))
    (hcancelled : env.cancelled s₁ = true) :
    (step x onError f).run.talk env s = (.error .cancelled, s₁, es₁) := by
  have hstops := talk_ensureActive (χ := χ) env s₁
  rw [hcancelled, if_pos rfl] at hstops
  rw [step, talk_bind_of_ok _ (talk_adapt_eq onError h), talk_bind_of_error _ hstops, after,
    List.append_nil]

/-- A step that goes well is gone on from if the token is not cancelled. -/
theorem talk_step_of_active (h : x.run.talk env s = (.ok a, s₁, es₁))
    (hactive : env.cancelled s₁ = false) :
    (step x onError f).run.talk env s = after es₁ ((f a).run.talk env s₁) := by
  have hgoes := talk_ensureActive (χ := χ) env s₁
  rw [hactive] at hgoes
  rw [step, talk_bind_of_ok _ (talk_adapt_eq onError h), talk_bind_of_silent _ hgoes]

end

theorem talk_finish {base : L1Snapshot} {snapshot : RollupSnapshot}
    {result : Except SlotProofError SlotProof}
    (h : (c.record snapshot).run.talk env s = (result, s₁, es₁)) :
    (c.finish base snapshot).run.talk env s =
      ((result.mapError .inboxStorage).map (bundle base snapshot), s₁, es₁) := by
  have hadapt := talk_adapt_eq CompositionError.inboxStorage h
  cases result with
  | error e =>
    rw [finish, talk_bind_of_error _ hadapt]
    rfl
  | ok proof =>
    rw [finish, talk_bind_of_ok _ hadapt, talk_bind_of_silent _ (talk_report _ _ _),
      silent_pure _ env s₁, after, List.append_nil]
    rfl

/-! ### All steps -/

/-- How the result of a composition follows from its steps and the token. -/
structure FailsStepwise (c : Composition χ) (env : Environment χ σ) (s : σ) : Prop where
  /-- Without a development network nothing is asked. -/
  production : c.devnet = false →
    c.whole.run.talk env s = (.error (.l1State .noBeaconChain), s, [])
  /-- The first step is one question. -/
  base_asks : c.devnet = true →
    AsksOnce c.base c.l1 (.headerByNumber c.block) (L1Snapshot.readAnswer c.block)
  /-- If it fails, that is the result, and nothing else is asked. -/
  base_error : ∀ e s₁ es₁, c.base.run.talk env s = (.error e, s₁, es₁) →
    c.whole.run.talk env s = (.error (.l1State e), s₁, es₁)
  /-- If it goes well and the token is cancelled before it or by it, nothing else is asked. -/
  base_cancelled : ∀ base s₁ es₁, c.base.run.talk env s = (.ok base, s₁, es₁) →
    (∃ t ∈ c.base.run.states env s, env.cancelled t) →
      c.whole.run.talk env s = (.error .cancelled, s₁, es₁)
  /-- The second step asks question by question, and an answer of which nothing can be made is its
  last one. -/
  confirmed_asks : ∀ base s₁,
    c.rollup.Asked c.l1 c.l2 base.source.header.number ((c.confirmed base).run.talk env s₁).1
      ((c.confirmed base).run.talk env s₁).2.2
  /-- Its error says which questions were asked. -/
  confirmed_calls : ∀ base s₁ e s₂ es₂,
    (c.confirmed base).run.talk env s₁ = (.error e, s₂, es₂) →
      ∃ hash blockHash, es₂.map (fun x => (x.node, x.request)) =
        (c.rollup.questions c.l1 c.l2 base.source.header.number hash blockHash).take e.callsMade
  /-- If it fails, that is the result, and nothing else is asked. -/
  confirmed_error : ∀ base s₁ es₁ e s₂ es₂, c.base.run.talk env s = (.ok base, s₁, es₁) →
    env.cancelled s₁ = false → (c.confirmed base).run.talk env s₁ = (.error e, s₂, es₂) →
      c.whole.run.talk env s = (.error (.rollupState e), s₂, es₁ ++ es₂)
  /-- If it goes well and the token is cancelled by it, nothing else is asked. -/
  confirmed_cancelled : ∀ base s₁ es₁ snapshot s₂ es₂,
    c.base.run.talk env s = (.ok base, s₁, es₁) → env.cancelled s₁ = false →
    (c.confirmed base).run.talk env s₁ = (.ok snapshot, s₂, es₂) →
    (∃ t ∈ (c.confirmed base).run.states env s₁, env.cancelled t) →
      c.whole.run.talk env s = (.error .cancelled, s₂, es₁ ++ es₂)
  /-- The last step is one question. -/
  record_asks : ∀ snapshot,
    AsksOnce (c.record snapshot) c.l2 (.proof c.inbox [c.slot] (.number snapshot.l2Block))
      (SlotProof.readAnswer c.slot)
  /-- Its result is the result, in whatever states the token is cancelled besides those after the
  first two steps. -/
  record_result : ∀ base s₁ es₁ snapshot s₂ es₂ result s₃ es₃,
    c.base.run.talk env s = (.ok base, s₁, es₁) →
    (c.confirmed base).run.talk env s₁ = (.ok snapshot, s₂, es₂) →
    (c.record snapshot).run.talk env s₂ = (result, s₃, es₃) →
    ∀ cancelled : σ → Bool, cancelled s₁ = false → cancelled s₂ = false →
      c.whole.run.talk { env with cancelled } s =
        ((result.mapError .inboxStorage).map (bundle base snapshot), s₃, es₁ ++ (es₂ ++ es₃))

/-- Every composition fails step by step. -/
theorem failsStepwise (c : Composition χ) (env : Environment χ σ) (hstays : env.StaysCancelled)
    (s : σ) : c.FailsStepwise env s where
  production hdevnet := by
    have hbase : c.base.run.talk env s = (.error .noBeaconChain, s, []) := by
      rw [base, hdevnet]
      exact L1Snapshot.silent_capture c.l1 c.block env s
    rw [whole_eq, talk_step_of_error hbase]
  base_asks hdevnet := by
    rw [base, hdevnet]
    exact L1Snapshot.asksOnce_capture c.l1 c.block
  base_error e s₁ es₁ h := by
    rw [whole_eq, talk_step_of_error h]
  base_cancelled base s₁ es₁ h hcancelled := by
    obtain ⟨t, ht, hcancelled⟩ := hcancelled
    have hend := hstays.of_mem_states ht hcancelled
    rw [h] at hend
    rw [whole_eq, talk_step_of_cancelled h hend]
  confirmed_asks base s₁ := Rollup.asked_capture _ _ _ _ _ _
  confirmed_calls base s₁ e s₂ es₂ h := by
    have hasked := c.rollup.asked_capture c.l1 c.l2 base.source.header.number env s₁
    rw [← confirmed, h] at hasked
    obtain ⟨hash, blockHash, herror, -⟩ := hasked.exists_questions
    exact ⟨hash, blockHash, herror e rfl⟩
  confirmed_error base s₁ es₁ e s₂ es₂ hbase hactive h := by
    rw [whole_eq, talk_step_of_active hbase hactive, talk_step_of_error h]
    rfl
  confirmed_cancelled base s₁ es₁ snapshot s₂ es₂ hbase hactive h hcancelled := by
    obtain ⟨t, ht, hcancelled⟩ := hcancelled
    have hend := hstays.of_mem_states ht hcancelled
    rw [h] at hend
    rw [whole_eq, talk_step_of_active hbase hactive, talk_step_of_cancelled h hend]
    rfl
  record_asks snapshot := SlotProof.asksOnce_prove _ _ _ _
  record_result base s₁ es₁ snapshot s₂ es₂ result s₃ es₃ hbase hconfirmed hrecord cancelled
      hfirst hsecond := by
    -- The steps themselves go the same way with another token.
    have hbase' : c.base.run.talk { env with cancelled } s = (.ok base, s₁, es₁) :=
      ((L1Snapshot.heedless_capture _ _ _).talk_eq env cancelled s).trans hbase
    have hconfirmed' : (c.confirmed base).run.talk { env with cancelled } s₁ =
        (.ok snapshot, s₂, es₂) :=
      ((Rollup.heedless_capture _ _ _ _).talk_eq env cancelled s₁).trans hconfirmed
    have hrecord' : (c.record snapshot).run.talk { env with cancelled } s₂ = (result, s₃, es₃) :=
      ((SlotProof.heedless_prove _ _ _ _).talk_eq env cancelled s₂).trans hrecord
    rw [whole_eq, talk_step_of_active hbase' hfirst, talk_step_of_active hconfirmed' hsecond,
      talk_finish hrecord']
    rfl

end Composition

/-! ### A composition that is cancelled -/

namespace Devnet

def composition : Composition Nat :=
  { l1 := 1, l2 := 2, devnet := true, rollup, inbox, messageId, block := .finalized }

/-- The nodes, which count how many questions they are asked; by question number `k` the token is
cancelled. -/
def counted (k : Nat) : Environment Nat Nat where
  answer n node request := ((nodes.answer () node request).1, n + 1)
  cancelled n := k ≤ n

theorem staysCancelled_counted (k : Nat) : (counted k).StaysCancelled := by
  intro n node request h
  simp only [counted, decide_eq_true_eq] at h ⊢
  omega

/-- A step that does not look at the token has the result that it has with the nodes alone. -/
theorem fst_talk_counted {ε α : Type} {x : ExceptT ε (Session Nat) α} (hx : x.run.Heedless)
    (k n : Nat) : (x.run.talk (counted k) n).1 = result x := by
  have hm : nodes.Mirrors { counted k with cancelled := fun _ => false } (fun _ => ())
      (fun _ => True) := ⟨fun _ _ _ _ => rfl, fun _ => rfl⟩
  rw [← hx.talk_eq (counted k) (fun _ => false) n]
  exact (congrArg Prod.fst (run_mirror hm (within_true x.run) n)).symm

theorem state_talk_counted {α : Type} (x : Session Nat α) (k n : Nat) :
    (x.talk (counted k) n).2.1 = n + (x.talk (counted k) n).2.2.length := by
  induction x generalizing n with
  | done a => rfl
  | ask node request next ih =>
    have hrest := ih ((counted k).answer n node request).1 (n + 1)
    rw [talk_ask]
    change ((next _).talk (counted k) (n + 1)).2.1 = n + (_ :: ((next _).talk _ (n + 1)).2.2).length
    rw [List.length_cons]
    omega
  | cancelled next ih => exact ih _ n
  | note note next ih => exact ih n

/-- The confirmed state takes four questions. -/
theorem talk_confirmed_counted (k : Nat) :
    ∃ es, (rollup.capture 1 2 base.number).run.talk (counted k) 1 = (.ok snapshot, 5, es) := by
  have hresult := (fst_talk_counted (rollup.heedless_capture 1 2 base.number) k 1).trans
    result_capture
  have hstate := state_talk_counted (rollup.capture 1 2 base.number).run k 1
  obtain ⟨hash, blockHash, -, hquestions⟩ :=
    (rollup.asked_capture 1 2 base.number (counted k) 1).exists_questions
  have hlength := congrArg List.length (hquestions _ hresult)
  rw [List.length_map, show (rollup.questions 1 2 base.number hash blockHash).length = 4 from rfl]
    at hlength
  rw [hlength] at hstate
  rcases htalk : (rollup.capture 1 2 base.number).run.talk (counted k) 1 with ⟨r, s, es⟩
  rw [htalk] at hresult hstate
  exact ⟨es, by rw [show r = .ok snapshot from hresult, show s = 5 from hstate]⟩

/-- A token that is cancelled by the first of the six questions ends the composition after it. One
that is cancelled by the last question does not. -/
theorem failsStepwise_composition :
    (counted 1).StaysCancelled ∧
      composition.whole.run.talk (counted 1) 0 =
        (.error .cancelled, 1, [⟨1, .headerByNumber .finalized, .ok (some ⟨base, 0xaa⟩)⟩]) ∧
      (composition.whole.run.talk (counted 6) 0).1 = .ok bundle ∧
      (counted 6).cancelled (composition.whole.run.talk (counted 6) 0).2.1 := by
  have hfirst := composition.failsStepwise (counted 1) (staysCancelled_counted 1) 0
  have hlast := composition.failsStepwise (counted 6) (staysCancelled_counted 6) 0
  have hbase : composition.base.run.talk (counted 6) 0 =
      (.ok ⟨.ofHeader base, ⟨base, 0xaa⟩⟩, 1,
        [⟨1, .headerByNumber .finalized, .ok (some ⟨base, 0xaa⟩)⟩]) := rfl
  -- The first step takes question one, the second step the four after it, and the last step the
  -- sixth one.
  obtain ⟨es₂, hconfirmed⟩ := talk_confirmed_counted 6
  have hrecord := hlast.record_asks snapshot (counted 6) 5
  have hread : SlotProof.readAnswer composition.slot
      ((counted 6).answer 5 composition.l2
        (.proof composition.inbox [composition.slot] (.number snapshot.l2Block))).1 =
      .ok (slotProof composition.slot) := ofAnswer_accountProof _
  rw [hread] at hrecord
  have hresult : composition.whole.run.talk (counted 6) 0 = _ :=
    hlast.record_result _ _ _ _ _ _ _ _ _ hbase hconfirmed hrecord (counted 6).cancelled rfl rfl
  have hcancelled := hfirst.base_cancelled _ _ _ rfl
    ⟨1, List.mem_cons_of_mem _ List.mem_cons_self, rfl⟩
  refine ⟨staysCancelled_counted 1, hcancelled, ?_, ?_⟩
  · rw [hresult]
    rfl
  · rw [hresult]
    rfl

end Devnet

end CrossCall
