import Mathlib
import CrossCall.Node.Session

/-!
# Sessions and the nodes they talk to

A session is run against an environment, and what comes of it depends only on the answers to its own
questions. If all its questions go to some of the nodes, then an environment that agrees with
another one on these nodes does as well, and what the other nodes remember stays as it was.

Clients are the environment in which every node remembers what it was asked and answers by that
alone. A session that talks to one node can then be run beside that node's memory, whatever happens
at the other nodes meanwhile.

## Main definitions

* `Session.Within` — a session keeps to some nodes and to some notes
* `Environment.Mirrors` — an environment sees a part of what another one sees
* `Clients`, `Clients.environment`, `Clients.alone` — nodes that answer by what they were asked
* `facts` — what happened, without the lines of the journal
* `measured` — how much was added to a series

## Main results

* `Session.run_bind` — a session after another
* `Session.run_mirror` — running against a part of what an environment sees
* `Clients.run_alone`, `Clients.run_frame` — a session beside the memory of one node
-/

namespace CrossCall

variable {χ σ τ α β : Type}

/-! ### What happened -/

@[simp] theorem exchanges_append (as bs : List (Event χ)) :
    exchanges (as ++ bs) = exchanges as ++ exchanges bs := by
  rw [exchanges, List.filterMap_append]
  rfl

/-- Whether an event is more than a line of the journal. -/
def Event.isFact : Event χ → Bool
  | note (.journal _) => false
  | _ => true

/-- What happened, without the lines of the journal. -/
def facts (events : List (Event χ)) : List (Event χ) := events.filter Event.isFact

/-- How much a note adds to a series. -/
def Note.amount (series : Series) : Note → Nat
  | measure other amount => if other = series then amount else 0
  | journal _ | print _ => 0

/-- How much was added to a series. -/
def measured (series : Series) (events : List (Event χ)) : Nat :=
  ((notes events).map (Note.amount series)).sum

@[simp] theorem facts_append (as bs : List (Event χ)) :
    facts (as ++ bs) = facts as ++ facts bs :=
  List.filter_append as bs

@[simp] theorem exchanges_facts (events : List (Event χ)) :
    exchanges (facts events) = exchanges events := by
  rw [exchanges, facts, List.filterMap_filter, exchanges]
  apply List.filterMap_congr
  intro e _
  rcases e with _ | (_ | _ | _) <;> rfl

@[simp] theorem measured_append (series : Series) (as bs : List (Event χ)) :
    measured series (as ++ bs) = measured series as + measured series bs := by
  simp [measured, notes]

@[simp] theorem measured_facts (series : Series) (events : List (Event χ)) :
    measured series (facts events) = measured series events := by
  induction events with
  | nil => rfl
  | cons e events ih =>
    rw [facts] at ih ⊢
    rcases e with e | (_ | _ | _) <;>
      simpa [List.filter_cons, List.filterMap_cons, Event.isFact, measured, notes, Event.note?,
        Note.amount] using ih

theorem measured_eq_zero {series : Series} {events : List (Event χ)}
    (h : ∀ n, Event.note n ∈ events → n.amount series = 0) : measured series events = 0 := by
  rw [measured, List.sum_eq_zero_iff]
  intro amount hamount
  obtain ⟨n, hn, rfl⟩ := List.mem_map.mp hamount
  obtain ⟨e, he, hnote⟩ := List.mem_filterMap.mp hn
  cases e with
  | exchange e => cases hnote
  | note n' =>
    cases hnote
    exact h n he

/-- The counts after some notes. -/
theorem Tally.count_addNotes (t : Tally) (ns : List Note) (series : Series) :
    (t.addNotes ns).count series = t.count series + (ns.map (Note.amount series)).sum := by
  induction ns generalizing t with
  | nil => simp [addNotes]
  | cons n ns ih =>
    rw [List.map_cons, List.sum_cons, ← Nat.add_assoc]
    cases n with
    | measure s amount => exact (ih (t.add s amount)).trans (by rw [count_add]; rfl)
    | journal line => exact ih t
    | print text => exact ih t

/-! ### Sessions -/

namespace Session

theorem bind_eq (x : Session χ α) (f : α → Session χ β) : x >>= f = x.bind f := rfl

theorem run_bind (env : Environment χ σ) (x : Session χ α) (f : α → Session χ β) (s : σ) :
    (x >>= f).run env s =
      (((f (x.run env s).1).run env (x.run env s).2.1).1,
        ((f (x.run env s).1).run env (x.run env s).2.1).2.1,
        (x.run env s).2.2 ++ ((f (x.run env s).1).run env (x.run env s).2.1).2.2) := by
  rw [bind_eq]
  induction x generalizing s with
  | done a => rfl
  | ask node request next ih => simp [bind, run, ih]
  | cancelled next ih => simp [bind, run, ih]
  | note n next ih => simp [bind, run, ih]

/-- Whatever the answers are, all questions of a session go to nodes with the property `P`, and all
its notes have the property `Q`. -/
def Within (P : χ → Prop) (Q : Note → Prop) : Session χ α → Prop
  | done _ => True
  | ask node _ next => P node ∧ ∀ answer, Within P Q (next answer)
  | cancelled next => ∀ b, Within P Q (next b)
  | note n next => Q n ∧ Within P Q next

variable {P P' : χ → Prop} {Q Q' : Note → Prop}

theorem Within.mono (hP : ∀ n, P n → P' n) (hQ : ∀ n, Q n → Q' n) {x : Session χ α}
    (h : x.Within P Q) : x.Within P' Q' := by
  induction x with
  | done a => trivial
  | ask node request next ih => exact ⟨hP _ h.1, fun a => ih a (h.2 a)⟩
  | cancelled next ih => exact fun b => ih b (h b)
  | note n next ih => exact ⟨hQ _ h.1, ih h.2⟩

theorem within_true (x : Session χ α) : x.Within (fun _ => True) (fun _ => True) := by
  induction x with
  | done a => trivial
  | ask node request next ih => exact ⟨trivial, ih⟩
  | cancelled next ih => exact ih
  | note n next ih => exact ⟨trivial, ih⟩

theorem Within.bind {x : Session χ α} {f : α → Session χ β} (hx : x.Within P Q)
    (hf : ∀ a, (f a).Within P Q) : (x >>= f).Within P Q := by
  rw [bind_eq]
  induction x with
  | done a => exact hf a
  | ask node request next ih => exact ⟨hx.1, fun a => ih a (hx.2 a)⟩
  | cancelled next ih => exact fun b => ih b (hx b)
  | note n next ih => exact ⟨hx.1, ih hx.2⟩

/-- What happened, happened within these bounds. -/
theorem Within.event_of_mem (env : Environment χ σ) {x : Session χ α} (h : x.Within P Q) (s : σ) :
    ∀ e ∈ (x.run env s).2.2, match e with
      | .exchange e => P e.node
      | .note n => Q n := by
  induction x generalizing s with
  | done a => simp [run]
  | ask node request next ih =>
    intro e he
    rcases List.mem_cons.mp he with rfl | he
    · exact h.1
    · exact ih _ (h.2 _) _ e he
  | cancelled next ih => exact ih _ (h _) s
  | note n next ih =>
    intro e he
    rcases List.mem_cons.mp he with rfl | he
    · exact h.1
    · exact ih h.2 s e he

theorem Within.node_of_mem (env : Environment χ σ) {x : Session χ α} (h : x.Within P Q) (s : σ) :
    ∀ e ∈ exchanges (x.run env s).2.2, P e.node := by
  intro e he
  obtain ⟨event, hevent, hexchange⟩ := List.mem_filterMap.mp he
  cases event with
  | note n => cases hexchange
  | exchange e' =>
    cases hexchange
    exact h.event_of_mem env s _ hevent

/-! Sessions that may fail -/

variable {ε : Type}

theorem Within.bindExcept {x : ExceptT ε (Session χ) α} {f : α → ExceptT ε (Session χ) β}
    (hx : x.run.Within P Q) (hf : ∀ a, (f a).run.Within P Q) : (x >>= f).run.Within P Q := by
  rw [ExceptT.run_bind]
  refine hx.bind ?_
  intro a
  cases a with
  | error e => trivial
  | ok a => exact hf a

theorem within_bind_lift {x : Except ε α} {f : α → ExceptT ε (Session χ) β}
    (hf : ∀ a, x = .ok a → (f a).run.Within P Q) : (liftM x >>= f).run.Within P Q := by
  cases x with
  | error e => trivial
  | ok a => exact hf a rfl

theorem within_report (level : Journal.Level) (target text : String)
    (hQ : ∀ line, Q (.journal line)) :
    (report level target text : ExceptT ε (Session χ) Unit).run.Within P Q :=
  ⟨hQ _, trivial⟩

theorem within_query {node : χ} (request : Request) (onError : ClientError → ε) (hP : P node) :
    (query node request onError).run.Within P Q :=
  ⟨hP, fun _ => trivial⟩

end Session

/-- What `env'` sees of the nodes with the property `P`, through `view`, is what `env` sees. -/
structure Environment.Mirrors (env' : Environment χ τ) (env : Environment χ σ) (view : σ → τ)
    (P : χ → Prop) : Prop where
  answer : ∀ n, P n → ∀ s q,
    env'.answer (view s) n q = ((env.answer s n q).1, view (env.answer s n q).2)
  cancelled : ∀ s, env'.cancelled (view s) = env.cancelled s

/-- An environment mirrors itself. -/
theorem Environment.mirrors_self (env : Environment χ σ) (P : χ → Prop) :
    env.Mirrors env id P :=
  ⟨fun _ _ _ _ => rfl, fun _ => rfl⟩

namespace Session

/-- A session that talks to mirrored nodes only runs the same in the mirror. -/
theorem run_mirror {env' : Environment χ τ} {env : Environment χ σ} {view : σ → τ} {P : χ → Prop}
    {Q : Note → Prop} (hm : env'.Mirrors env view P) {x : Session χ α} (hx : x.Within P Q) (s : σ) :
    x.run env' (view s) =
      ((x.run env s).1, view (x.run env s).2.1, (x.run env s).2.2) := by
  induction x generalizing s with
  | done a => rfl
  | ask node request next ih =>
    -- Both sides hear the same answer, and the mirror of the state is the state of the mirror.
    have hanswer := hm.answer node hx.1 s request
    simp only [run, hanswer, ih _ (hx.2 _)]
  | cancelled next ih => simp only [run, hm.cancelled, ih _ (hx _)]
  | note n next ih => simp only [run, ih hx.2]

end Session

/-! ### Nodes that answer by what they were asked -/

/-- For every node, the answers by what the node was asked before. -/
def Clients (χ : Type) := χ → List Request → (q : Request) → Except ClientError q.Answer

namespace Clients

/-- The nodes together; each remembers what it was asked. -/
def environment [DecidableEq χ] (clients : Clients χ) : Environment χ (χ → List Request) where
  answer asked n q := (clients n (asked n) q, Function.update asked n (asked n ++ [q]))

/-- One memory for all questions, as for a session that talks to one node. -/
def alone (clients : Clients χ) : Environment χ (List Request) where
  answer asked n q := (clients n asked q, asked ++ [q])

variable [DecidableEq χ]

theorem alone_mirrors (clients : Clients χ) (n : χ) :
    clients.alone.Mirrors clients.environment (fun asked => asked n) (· = n) where
  answer := by
    rintro _ rfl asked q
    simp [alone, environment]
  cancelled _ := rfl

/-- A session that talks to one node, run beside the memory of that node. -/
theorem run_alone (clients : Clients χ) {n : χ} {Q : Note → Prop} {x : Session χ α}
    (hx : x.Within (· = n) Q) (asked : χ → List Request) :
    x.run clients.alone (asked n) =
      ((x.run clients.environment asked).1, (x.run clients.environment asked).2.1 n,
        (x.run clients.environment asked).2.2) :=
  Session.run_mirror (clients.alone_mirrors n) hx asked

/-- What a session does not talk to remembers nothing new. -/
theorem run_frame (clients : Clients χ) {P : χ → Prop} {Q : Note → Prop} {n : χ} (hn : ¬ P n)
    {x : Session χ α} (hx : x.Within P Q) (asked : χ → List Request) :
    (x.run clients.environment asked).2.1 n = asked n := by
  induction x generalizing asked with
  | done a => rfl
  | ask node request next ih =>
    -- Only the memory of the node that is asked changes.
    have hne : n ≠ node := by
      rintro rfl
      exact hn hx.1
    simp only [Session.run]
    rw [ih _ (hx.2 _)]
    simp [environment, hne]
  | cancelled next ih => exact ih _ (hx _) asked
  | note m next ih => exact ih hx.2 asked

end Clients

end CrossCall
