import Mathlib
import CrossCall.Proofs.Service.Drain
import CrossCall.Proofs.Service.Steps
import CrossCall.Service.Supervisor

/-!
# Following the consumers

The consumers of the service are followed while a sequence of logs comes into the shared queue from
outside. Logs come in as there is room, and after the last of them the queue is closed; in between,
any task may take a step.

What a worker will still do can be told from any state: it goes on with the log in its hands and
then handles the logs that will reach it. A step takes away from the front of this forecast what
happens in it, so a whole run is what was forecast at its start.

## Main definitions

* `Scene` — the consumers, the logs that have not come in yet, and the nodes
* `Scene.move`, `Scene.follow` — one move, and a sequence of moves with a record of its turns
* `Scene.Finishes` — the turns of a run to the end
* `Worker.forecast` — what a worker will still do

## Main results

* `Worker.forecast_move` — a worker's step takes from the front of its forecast
-/

namespace CrossCall.Service

variable {χ σ τ : Type}

/-! ### Moves and their record -/

/-- The event among the things that others can notice. -/
def Happening.event? : Happening χ → Option (Event χ)
  | event e => some e
  | _ => none

/-- The log that the router dropped. -/
def Happening.dropped? : Happening χ → Option Sighting
  | dropped s => some s
  | _ => none

/-- A log that a worker has handled to the end, with its outcome. -/
def Worker.handled? : Worker χ → Option Handled
  | handling s (.done outcome) => some (s, outcome)
  | _ => none

/-- The log that a task has handled to the end. -/
def System.handled? (s : System χ) : TaskId → Option Handled
  | .worker => match s.consumers with
    | .single worker => worker.handled?
    | .perDestination _ _ => none
  | .laneWorker i => match s.consumers with
    | .single _ => none
    | .perDestination _ lanes => lanes[i]?.bind fun lane => lane.worker.handled?
  | .watcher _ | .router => none

/-- What is recorded of a move: which task took a step, the log whose handling it ended, and what
others noticed. -/
structure Turn (χ : Type) where
  task : Option TaskId := none
  handled : Option Handled := none
  happenings : List (Happening χ) := []

namespace Turn

/-- The events of a turn. -/
def events (t : Turn χ) : List (Event χ) := t.happenings.filterMap Happening.event?

/-- The logs that were dropped in a turn. -/
def dropped (t : Turn χ) : List Sighting := t.happenings.filterMap Happening.dropped?

end Turn

/-- The consumers of the service, the logs that have not come in yet, and the nodes. -/
structure Scene (χ σ : Type) where
  system : System χ
  feed : List Sighting
  nodes : σ

/-- What can happen: the next log comes in, the queue is closed behind the last one, or a task takes
a step. -/
inductive Move
  | arrive
  | close
  | step (task : TaskId) (notice : Notice)
deriving DecidableEq

namespace Scene

/-- The scene with another shared queue. -/
def withShared (x : Scene χ σ) (shared : Queue) : Scene χ σ :=
  { x with system := { x.system with shared } }

/-- The scene after a move, if it is possible. -/
def move (env : Environment χ σ) (x : Scene χ σ) : Move → Option (Turn χ × Scene χ σ)
  | .arrive =>
    match x.feed with
    | [] => none
    | s :: feed =>
      match x.system.shared.put s with
      | .queued shared => some ({}, { x.withShared shared with feed })
      | _ => none
  | .close =>
    if x.feed = [] ∧ 0 < x.system.shared.writers then
      some ({}, x.withShared x.system.shared.leave)
    else none
  | .step t notice =>
    (x.system.step env notice t x.nodes).map fun o =>
      ({ task := some t, handled := x.system.handled? t, happenings := o.happenings },
        { x with system := o.task, nodes := o.nodes })

/-- The turns of a sequence of moves, and the scene after it, if all of them are possible. -/
def follow (env : Environment χ σ) : List Move → Scene χ σ → Option (List (Turn χ) × Scene χ σ)
  | [], x => some ([], x)
  | m :: ms, x => do
    let (turn, x') ← x.move env m
    let (turns, y) ← follow env ms x'
    return (turn :: turns, y)

/-- The consumers of a topology before the first log has come in. One writer is outside. -/
def start (r : Relayer χ) (topology : Topology) (capacity : Nat) (feed : List Sighting)
    (nodes : σ) : Scene χ σ where
  system :=
    { relayer := r, shared := { capacity, writers := 1 }
      consumers := Service.consumers topology capacity r.registry.ids }
  feed := feed
  nodes := nodes

/-- Whether all consumers have ended. -/
def isOver (x : Scene χ σ) : Bool := x.system.taskIds.all x.system.isFinished

/-- The consumers of a topology can come to their end in these turns. -/
def Finishes (env : Environment χ σ) (r : Relayer χ) (topology : Topology) (capacity : Nat)
    (feed : List Sighting) (nodes : σ) (turns : List (Turn χ)) : Prop :=
  ∃ ms y, (start r topology capacity feed nodes).follow env ms = some (turns, y) ∧ y.isOver = true

end Scene

/-! ### What a worker will still do -/

namespace Worker

/-- What a worker will still do: it goes on with the log in its hands, and then handles `logs`. -/
def rest (r : Relayer χ) (w : Worker χ) (logs : List Sighting) : Session χ (List Handled) :=
  match w with
  | waiting => r.drain logs
  | handling s next => do
    let outcome ← next
    let outcomes ← r.drain logs
    return (s, outcome) :: outcomes
  | ended | broken => return []

/-- The outcomes and the facts of what a worker will still do. -/
def forecast (env : Environment χ σ) (r : Relayer χ) (w : Worker χ) (logs : List Sighting)
    (nodes : σ) : List Handled × List (Event χ) :=
  (((w.rest r logs).run env nodes).1, facts ((w.rest r logs).run env nodes).2.2)

theorem forecast_done (env : Environment χ σ) (r : Relayer χ) (s : Sighting)
    (outcome : Except FulfillmentError Submission) (logs : List Sighting) (nodes : σ) :
    (handling s (.done outcome)).forecast env r logs nodes =
      ((s, outcome) :: (waiting.forecast env r logs nodes).1,
        (waiting.forecast env r logs nodes).2) := by
  have hrest : (handling s (.done outcome)).rest r logs =
      r.drain logs >>= fun outcomes => pure ((s, outcome) :: outcomes) := rfl
  simp only [forecast, hrest, Session.run_bind]
  simp [rest, pure, Session.run]

/-- The worker keeps to the nodes with a property. -/
def KeepsTo (P : χ → Prop) (w : Worker χ) : Prop :=
  ∀ s next, w = .handling s next → next.Within P (fun _ => True)

end Worker

/-- A forecast with a turn in front of it. -/
def Turn.before (t : Turn χ) (forecast : List Handled × List (Event χ)) :
    List Handled × List (Event χ) :=
  (t.handled.toList ++ forecast.1, facts t.events ++ forecast.2)

theorem Turn.before_empty (forecast : List Handled × List (Event χ)) :
    Turn.before {} forecast = forecast := rfl

/-- The logs whose handling ended in some turns, with their outcomes. -/
def handledIn (turns : List (Turn χ)) : List Handled := turns.flatMap fun t => t.handled.toList

/-- The events of some turns. -/
def eventsIn (turns : List (Turn χ)) : List (Event χ) := turns.flatMap Turn.events

/-- The logs that were dropped in some turns. -/
def droppedIn (turns : List (Turn χ)) : List Sighting := turns.flatMap Turn.dropped

theorem foldr_before (turns : List (Turn χ)) (forecast : List Handled × List (Event χ)) :
    turns.foldr Turn.before forecast =
      (handledIn turns ++ forecast.1, facts (eventsIn turns) ++ forecast.2) := by
  induction turns with
  | nil => rfl
  | cons t turns ih =>
    rw [List.foldr_cons, ih, Turn.before]
    simp only [handledIn, eventsIn, List.flatMap_cons, facts_append, List.append_assoc]

/-- A step of a worker takes from the front of its forecast what happens in it. The forecast may be
made in any environment that shows what the worker sees, as long as no more logs will come once its
queue has ended. -/
theorem Worker.forecast_move {env : Environment χ σ} {env' : Environment χ τ} {view : σ → τ}
    {P : χ → Prop} (hmirror : env'.Mirrors env view P)
    (hcalm : ∀ s, env.cancelled s = false ∧ env.breaks s = false) {r : Relayer χ} {q : Queue}
    {nodes : σ} {w : Worker χ} {o : Outcome χ σ (Worker χ × Queue)}
    (hmove : w.Moves env r false q nodes o) (hw : w.KeepsTo P) {more : List Sighting}
    (hmore : q.take = .ended → more = []) (t : Option TaskId) :
    w.forecast env' r (q.items ++ more) (view nodes) =
      Turn.before ⟨t, w.handled?, o.happenings⟩
        (o.task.1.forecast env' r (o.task.2.items ++ more) (view o.nodes)) := by
  -- In every case both sides run the same session up to the step that is taken.
  cases hmove with
  | closed take =>
    rw [hmore take, (of_take_eq_ended take).1]
    rfl
  | took take =>
    rw [eq_of_take take]
    rfl
  | stopped stop => cases stop
  | fulfilled => exact forecast_done env' r _ _ _ _
  | rejected => exact forecast_done env' r _ _ _ _
  | @asked s node request next unbroken =>
    have hrest : ∀ logs, (handling s (.ask node request next)).rest r logs =
        .ask node request fun answer => (handling s (next answer)).rest r logs := fun _ => rfl
    have hanswer := hmirror.answer node (hw s _ rfl).1 nodes request
    simp only [forecast, hrest, Session.run, hanswer]
    rfl
  | broke breaks =>
    rw [(hcalm _).2] at breaks
    cases breaks
  | @looked s next =>
    have hrest : ∀ logs, (handling s (.cancelled next)).rest r logs =
        .cancelled fun b => (handling s (next b)).rest r logs := fun _ => rfl
    have hcancelled : env'.cancelled (view nodes) = false :=
      (hmirror.cancelled nodes).trans (hcalm nodes).1
    simp only [forecast, hrest, Session.run, hcancelled]
    rfl
  | @noted s n next =>
    have hrest : ∀ logs, (handling s (.note n next)).rest r logs =
        .note n ((handling s next).rest r logs) := fun _ => rfl
    simp only [forecast, hrest, Session.run]
    cases n <;> rfl

/-! ### Runs -/

namespace Scene

/-- The ways in which a scene changes. -/
inductive Moves (env : Environment χ σ) (x : Scene χ σ) : Turn χ → Scene χ σ → Prop
  | arrived {s : Sighting} {feed : List Sighting} {shared : Queue} (feed_eq : x.feed = s :: feed)
      (put : x.system.shared.put s = .queued shared) :
      Moves env x {} { x.withShared shared with feed }
  | closed (feed_eq : x.feed = []) : Moves env x {} (x.withShared x.system.shared.leave)
  | stepped {t : TaskId} {notice : Notice} {o : Outcome χ σ (System χ)}
      (move : System.Moves env notice x.system x.nodes t o) :
      Moves env x { task := some t, handled := x.system.handled? t, happenings := o.happenings }
        { x with system := o.task, nodes := o.nodes }

theorem moves_of_move {env : Environment χ σ} {x x' : Scene χ σ} {m : Move} {turn : Turn χ}
    (h : x.move env m = some (turn, x')) : Moves env x turn x' := by
  cases m with
  | arrive =>
    rw [move] at h
    cases hfeed : x.feed with
    | nil => simp [hfeed] at h
    | cons s feed =>
      cases hput : x.system.shared.put s with
      | full => simp [hfeed, hput] at h
      | closed => simp [hfeed, hput] at h
      | queued shared =>
        simp only [hfeed, hput, Option.some.injEq, Prod.mk.injEq] at h
        obtain ⟨rfl, rfl⟩ := h
        exact .arrived hfeed hput
  | close =>
    rw [move] at h
    split at h
    · rename_i hclose
      cases h
      exact .closed hclose.1
    · cases h
  | step t notice =>
    obtain ⟨o, hstep, ⟨⟩⟩ := Option.map_eq_some_iff.mp h
    exact .stepped (System.moves_of_step hstep)

/-- What is preserved by moves, and in each of them related to the turn, is so by a whole run. -/
theorem follow_induction {env : Environment χ σ} {motive : Scene χ σ → List (Turn χ) →
    Scene χ σ → Prop} (nil : ∀ x, motive x [] x)
    (cons : ∀ x turn x' turns y, Moves env x turn x' → motive x' turns y →
      motive x (turn :: turns) y)
    {ms : List Move} {x y : Scene χ σ} {turns : List (Turn χ)}
    (h : x.follow env ms = some (turns, y)) : motive x turns y := by
  induction ms generalizing x turns with
  | nil =>
    cases h
    exact nil _
  | cons m ms ih =>
    obtain ⟨⟨turn, x'⟩, hmove, h⟩ := Option.bind_eq_some_iff.mp h
    obtain ⟨⟨turns', y'⟩, hfollow, ⟨⟩⟩ := Option.bind_eq_some_iff.mp h
    exact cons x turn x' turns' y (moves_of_move hmove) (ih hfollow)

end Scene

end CrossCall.Service
