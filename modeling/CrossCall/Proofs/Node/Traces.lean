import Mathlib
import CrossCall.Proofs.Fulfillment.Course

/-!
# What was said in a session

A session that is carried on step by step leaves a trace of exchanges and a rest. Every rest can be
brought to an end, whatever was answered before. A session that never looks whether it has been
cancelled cannot be cut short: all that is said in it to its end is said in one run of it, against
the nodes that give the answers of the trace. A run that ends well did so in every part, and can be
taken apart into the answers that it was given.

## Main definitions

* `Session.Leads` — the exchanges on the way from a session to what is left of it
* `Session.Heedless` — a session never looks whether it has been cancelled
* `Environment.replay` — nodes that answer as was answered before

## Main results

* `Session.Leads.trans`, `Session.exists_leads_done` — ways one after the other, and to the end
* `Session.Leads.talk_replay` — the trace of a session is that of a run
* `Session.exists_of_talk_bind`, `Session.of_talk_query` — what a run that ends well was made of
-/

namespace CrossCall

variable {χ σ α β ε ε' : Type}

namespace Session

/-- The exchanges on the way from a session to what is left of it. -/
inductive Leads : Session χ α → List (Exchange χ) → Session χ α → Prop
  | here (x : Session χ α) : Leads x [] x
  | ask {node : χ} {request : Request}
      {next : Except ClientError request.Answer → Session χ α}
      {answer : Except ClientError request.Answer} {es : List (Exchange χ)} {y : Session χ α}
      (rest : Leads (next answer) es y) :
      Leads (.ask node request next) (⟨node, request, answer⟩ :: es) y
  | look {next : Bool → Session χ α} {b : Bool} {es : List (Exchange χ)} {y : Session χ α}
      (rest : Leads (next b) es y) : Leads (.cancelled next) es y
  | note {n : Note} {next : Session χ α} {es : List (Exchange χ)} {y : Session χ α}
      (rest : Leads next es y) : Leads (.note n next) es y

/-- One way after another. -/
theorem Leads.trans {x y z : Session χ α} {es es' : List (Exchange χ)} (h : Leads x es y)
    (h' : Leads y es' z) : Leads x (es ++ es') z := by
  induction h with
  | here x => exact h'
  | ask rest ih => exact .ask (ih h')
  | look rest ih => exact .look (ih h')
  | note rest ih => exact .note (ih h')

/-- Every session can be brought to an end. -/
theorem exists_leads_done (x : Session χ α) : ∃ es a, x.Leads es (.done a) := by
  induction x with
  | done a => exact ⟨[], a, .here _⟩
  | ask node request next ih =>
    obtain ⟨es, a, h⟩ := ih (.error (.transport ""))
    exact ⟨_, a, .ask h⟩
  | cancelled next ih =>
    obtain ⟨es, a, h⟩ := ih true
    exact ⟨es, a, .look h⟩
  | note n next ih =>
    obtain ⟨es, a, h⟩ := ih
    exact ⟨es, a, .note h⟩

/-! ### Sessions that are not cut short -/

/-- Whatever the answers are, a session never looks whether it has been cancelled. -/
def Heedless : Session χ α → Prop
  | done _ => True
  | ask _ _ next => ∀ answer, Heedless (next answer)
  | cancelled _ => False
  | note _ next => Heedless next

theorem Heedless.bind {x : Session χ α} {f : α → Session χ β} (hx : x.Heedless)
    (hf : ∀ a, (f a).Heedless) : (x >>= f).Heedless := by
  rw [bind_eq]
  induction x with
  | done a => exact hf a
  | ask node request next ih => exact fun answer => ih answer (hx answer)
  | cancelled next ih => exact hx.elim
  | note n next ih => exact ih hx

theorem Heedless.bindExcept {x : ExceptT ε (Session χ) α} {f : α → ExceptT ε (Session χ) β}
    (hx : x.run.Heedless) (hf : ∀ a, (f a).run.Heedless) : (x >>= f).run.Heedless := by
  rw [ExceptT.run_bind]
  refine hx.bind fun a => ?_
  cases a with
  | error e => trivial
  | ok a => exact hf a

theorem heedless_lift (x : Except ε α) : (liftM x : ExceptT ε (Session χ) α).run.Heedless := by
  cases x <;> trivial

theorem heedless_report (level : Journal.Level) (target text : String) :
    (report level target text : ExceptT ε (Session χ) Unit).run.Heedless := trivial

theorem heedless_query (node : χ) (request : Request) (onError : ClientError → ε) :
    (query node request onError).run.Heedless := fun _ => trivial

end Session

/-! ### Saying it again -/

open Classical in
/-- Nodes that give the answers of some exchanges, one after the other, to the same questions. -/
noncomputable def Environment.replay : Environment χ (List (Exchange χ)) where
  answer es node request :=
    match es with
    | [] => (.error (.transport ""), [])
    | e :: es =>
      if h : e.node = node ∧ e.request = request then (h.2 ▸ e.answer, es)
      else (.error (.transport ""), es)

theorem Environment.answer_replay (e : Exchange χ) (es : List (Exchange χ)) :
    Environment.replay.answer (e :: es) e.node e.request = (e.answer, es) := by
  simp [replay]

namespace Session

theorem talk_ask (env : Environment χ σ) (node : χ) (request : Request)
    (next : Except ClientError request.Answer → Session χ α) (s : σ) :
    (Session.ask node request next).talk env s =
      after [⟨node, request, (env.answer s node request).1⟩]
        ((next (env.answer s node request).1).talk env (env.answer s node request).2) := by
  simp [talk, run, after, exchanges, Event.exchange?]

theorem talk_note (env : Environment χ σ) (n : Note) (next : Session χ α) (s : σ) :
    (Session.note n next).talk env s = next.talk env s := rfl

/-- What is said in a session that is not cut short, to its end, is said in a run of it. -/
theorem Leads.talk_replay {x : Session χ α} {es : List (Exchange χ)} {a : α}
    (h : x.Leads es (.done a)) (hx : x.Heedless) (more : List (Exchange χ)) :
    x.talk Environment.replay (es ++ more) = (a, more, es) := by
  generalize hy : Session.done a = y at h
  induction h with
  | here x =>
    subst hy
    rfl
  | @ask node request next answer es y rest ih =>
    have hanswer := Environment.answer_replay ⟨node, request, answer⟩ (es ++ more)
    simp only at hanswer
    rw [talk_ask, List.cons_append, hanswer, ih (hx answer) hy]
    rfl
  | look rest ih => exact hx.elim
  | note rest ih =>
    rw [talk_note]
    exact ih hx hy

/-! ### Runs that end well -/

variable {env : Environment χ σ} {s s' : σ} {es : List (Exchange χ)}

/-- Both parts of a run that ends well end well. -/
theorem exists_of_talk_bind {x : ExceptT ε (Session χ) α} {f : α → ExceptT ε (Session χ) β} {b : β}
    (h : (x >>= f).run.talk env s = (.ok b, s', es)) :
    ∃ a t es₁ es₂, x.run.talk env s = (.ok a, t, es₁) ∧ (f a).run.talk env t = (.ok b, s', es₂) ∧
      es = es₁ ++ es₂ := by
  rcases hx : x.run.talk env s with ⟨a | a, t, es₁⟩
  · rw [talk_bind_of_error f hx] at h
    cases h
  · rw [talk_bind_of_ok f hx] at h
    rcases hf : (f a).run.talk env t with ⟨b', t', es₂⟩
    rw [hf] at h
    cases h
    exact ⟨a, t, es₁, es₂, rfl, hf, rfl⟩

theorem of_talk_pure {a b : α}
    (h : (pure a : ExceptT ε (Session χ) α).run.talk env s = (.ok b, s', es)) :
    a = b ∧ s = s' ∧ es = [] := by
  cases h
  exact ⟨rfl, rfl, rfl⟩

theorem of_talk_lift {x : Except ε α} {a : α}
    (h : (liftM x : ExceptT ε (Session χ) α).run.talk env s = (.ok a, s', es)) :
    x = .ok a ∧ s = s' ∧ es = [] := by
  rw [talk_lift] at h
  cases h
  exact ⟨rfl, rfl, rfl⟩

theorem of_talk_query {node : χ} {request : Request} {onError : ClientError → ε}
    {answer : request.Answer}
    (h : (query node request onError).run.talk env s = (.ok answer, s', es)) :
    env.answer s node request = (.ok answer, s') ∧ es = [⟨node, request, .ok answer⟩] := by
  rcases hanswer : env.answer s node request with ⟨e | a, t⟩
  · rw [talk_query onError hanswer] at h
    cases h
  · rw [talk_query onError hanswer] at h
    cases h
    exact ⟨rfl, rfl⟩

theorem adapt_eq_bind (x : ExceptT ε (Session χ) α) (onError : ε → ε') :
    (x.adapt onError).run = x.run >>= fun a => pure (a.mapError onError) :=
  map_eq_pure_bind _ x.run

theorem run_adapt (x : ExceptT ε (Session χ) α) (onError : ε → ε') :
    (x.adapt onError).run.run env s =
      ((x.run.run env s).1.mapError onError, (x.run.run env s).2) := by
  rw [adapt_eq_bind, run_bind]
  simp [run, pure]

theorem talk_adapt (x : ExceptT ε (Session χ) α) (onError : ε → ε') :
    (x.adapt onError).run.talk env s =
      ((x.run.talk env s).1.mapError onError, (x.run.talk env s).2) := by
  rw [talk, run_adapt]
  rfl

/-- A run that ends well is the same run with errors of another kind. -/
theorem of_talk_adapt {x : ExceptT ε (Session χ) α} {onError : ε → ε'} {a : α}
    (h : (x.adapt onError).run.talk env s = (.ok a, s', es)) :
    x.run.talk env s = (.ok a, s', es) := by
  rw [talk_adapt] at h
  rcases hx : x.run.talk env s with ⟨b | b, t, es'⟩ <;> rw [hx] at h <;> cases h
  rfl

end Session

end CrossCall
