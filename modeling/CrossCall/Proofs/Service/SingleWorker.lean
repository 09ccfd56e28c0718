import Mathlib
import CrossCall.Proofs.Service.Follow

/-!
# One worker for all destinations

In the single topology one worker reads from the shared queue. Whatever it is interrupted by, it
handles the logs in the order in which they came in, one after the other.

## Main definitions

* `Scene.HasWorker` — the single topology in an environment where nothing is cancelled

## Main results

* `Scene.follow_single` — a run to the end handles the logs one after the other
-/

namespace CrossCall.Service.Scene

variable {χ σ : Type} {env : Environment χ σ} {r : Relayer χ} {x x' y : Scene χ σ} {w : Worker χ}

/-- One worker reads from the shared queue, which is not closed before the last log has come in. -/
structure HasWorker (r : Relayer χ) (x : Scene χ σ) (w : Worker χ) : Prop where
  relayer : x.system.relayer = r
  calm : x.system.cancelled = false
  unwatched : x.system.watchers = []
  consumers : x.system.consumers = .single w
  closed : x.system.shared.writers = 0 → x.feed = []

/-- What the worker of a scene will still do. -/
def workerForecast (env : Environment χ σ) (r : Relayer χ) (x : Scene χ σ) (w : Worker χ) :
    List Handled × List (Event χ) :=
  w.forecast env r (x.system.shared.items ++ x.feed) x.nodes

/-- A move keeps the topology and takes from the front of the forecast. -/
theorem HasWorker.move (hcalm : ∀ s, env.cancelled s = false ∧ env.breaks s = false)
    (h : HasWorker r x w) {turn : Turn χ} (hmove : x.Moves env turn x') :
    ∃ w', HasWorker r x' w' ∧
      x.workerForecast env r w = turn.before (x'.workerForecast env r w') := by
  cases hmove with
  | @arrived s feed shared feed_eq put =>
    -- The log goes from the front of the feed to the end of the queue.
    obtain ⟨rfl, -⟩ := eq_of_put put
    refine ⟨w, ⟨h.relayer, h.calm, h.unwatched, h.consumers, ?_⟩, ?_⟩
    · intro hwriters
      have hfeed := h.closed hwriters
      rw [feed_eq] at hfeed
      cases hfeed
    · rw [Turn.before_empty]
      simp [workerForecast, withShared, feed_eq]
  | closed feed_eq =>
    exact ⟨w, ⟨h.relayer, h.calm, h.unwatched, h.consumers, fun _ => feed_eq⟩, rfl⟩
  | @stepped t notice o move =>
    cases move with
    | watcher watcher =>
      rw [h.unwatched] at watcher
      cases watcher
    | router consumers =>
      rw [h.consumers] at consumers
      cases consumers
    | laneWorker consumers =>
      rw [h.consumers] at consumers
      cases consumers
    | @worker worker o consumers move =>
      obtain rfl : w = worker := by
        rw [h.consumers] at consumers
        exact Consumers.single.inj consumers
      rw [h.relayer, h.calm] at move
      have hmore : x.system.shared.take = .ended → x.feed = [] := fun hended =>
        h.closed (of_take_eq_ended hended).2
      refine ⟨o.task.1, ⟨h.relayer, h.calm, h.unwatched, rfl, ?_⟩, ?_⟩
      · intro hwriters
        exact h.closed (move.writers_eq ▸ hwriters)
      · have hhandled : x.system.handled? .worker = w.handled? := by
          rw [System.handled?, h.consumers]
        have hkeeps : w.KeepsTo fun _ => True := fun _ next _ => Session.within_true next
        rw [hhandled]
        exact Worker.forecast_move (env.mirrors_self fun _ => True) hcalm move hkeeps hmore _

theorem HasWorker.follow (hcalm : ∀ s, env.cancelled s = false ∧ env.breaks s = false)
    (h : HasWorker r x w) {ms : List Move} {turns : List (Turn χ)}
    (hfollow : x.follow env ms = some (turns, y)) :
    ∃ w', HasWorker r y w' ∧
      x.workerForecast env r w = turns.foldr Turn.before (y.workerForecast env r w') := by
  revert w
  refine follow_induction
    (motive := fun x turns y => ∀ {w}, HasWorker r x w → ∃ w', HasWorker r y w' ∧
      x.workerForecast env r w = turns.foldr Turn.before (y.workerForecast env r w'))
    ?_ ?_ hfollow
  · intro x w h
    exact ⟨w, h, rfl⟩
  · intro x turn x' turns y hmove ih w h
    obtain ⟨w', h', hforecast⟩ := h.move hcalm hmove
    obtain ⟨w'', h'', hforecast'⟩ := ih h'
    exact ⟨w'', h'', by rw [hforecast, hforecast', List.foldr_cons]⟩

/-- A worker that has ended will do nothing more. -/
theorem workerForecast_of_isOver (h : HasWorker r x w) (hover : x.isOver = true) :
    x.workerForecast env r w = ([], []) := by
  have hfinished : w.isFinished = true := by
    have hall := List.all_eq_true.mp hover .worker (by simp [System.taskIds, h.consumers])
    simpa [System.isFinished, h.consumers] using hall
  cases w with
  | waiting => cases hfinished
  | handling => cases hfinished
  | ended => rfl
  | broken => rfl

/-- A run of the single topology to its end handles the logs one after the other. -/
theorem follow_single (hcalm : ∀ s, env.cancelled s = false ∧ env.breaks s = false)
    {capacity : Nat} {feed : List Sighting} {nodes : σ} {turns : List (Turn χ)}
    (hturns : Finishes env r .single capacity feed nodes turns) :
    handledIn turns = ((r.drain feed).run env nodes).1 ∧
      facts (eventsIn turns) = facts ((r.drain feed).run env nodes).2.2 := by
  obtain ⟨ms, y, hfollow, hover⟩ := hturns
  have hstart : HasWorker r (start r .single capacity feed nodes) .waiting :=
    ⟨rfl, rfl, rfl, rfl, fun hwriters => by cases hwriters⟩
  obtain ⟨w, hend, hforecast⟩ := hstart.follow hcalm hfollow
  rw [workerForecast_of_isOver hend hover, foldr_before] at hforecast
  have hforecast' : (((r.drain feed).run env nodes).1, facts ((r.drain feed).run env nodes).2.2) =
      (handledIn turns ++ [], facts (eventsIn turns) ++ []) := hforecast
  rw [List.append_nil, List.append_nil, Prod.mk.injEq] at hforecast'
  exact ⟨hforecast'.1.symm, hforecast'.2.symm⟩

end CrossCall.Service.Scene
