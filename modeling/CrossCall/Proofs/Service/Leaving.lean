import Mathlib
import CrossCall.Proofs.Service.Replaying

/-!
# A queue that one writer less writes to

When a writer leaves a queue, the others and the reader are not hindered by it: whatever they could
do before, they still can, and with the same outcome. Nothing becomes possible that was not, except
that the reader of an empty queue learns of the end when the last writer has left, and ends itself.

A watcher leaves the shared queue in this way. All that its last steps change is the watcher itself
and the number of those that still write.

## Main definitions

* `Queue.leaveIf` — a queue that a writer may have left
* `Watcher.isLeaving` — a watcher that has ended or uninstalls its filter
* `System.withWatcher` — the tasks, when a watcher has got somewhere else

## Main results

* `System.step_withWatcher` — who else can take a step can still take it
* `System.step_of_withWatcher` — who else takes a step could take it before, or ends
-/

namespace CrossCall

variable {χ σ τ τ' : Type}

/-! ### Queues -/

/-- What a writer finds in another queue. -/
def PutResult.map (f : Queue → Queue) : PutResult → PutResult
  | full => full
  | closed => closed
  | queued q => queued (f q)

/-- What the reader finds in another queue. -/
def TakeResult.map (f : Queue → Queue) : TakeResult → TakeResult
  | empty => empty
  | ended => ended
  | taken s q => taken s (f q)

namespace Queue

/-- The queue, after a writer has left it or not. -/
def leaveIf (left : Bool) (q : Queue) : Queue := if left then q.leave else q

theorem leave_leaveIf (left : Bool) (q : Queue) :
    (q.leaveIf left).leave = q.leave.leaveIf left := by
  cases left <;> rfl

theorem abandon_leaveIf (left : Bool) (q : Queue) :
    (q.leaveIf left).abandon = q.abandon.leaveIf left := by
  cases left <;> rfl

/-- The other writers find the same. -/
theorem put_leaveIf (left : Bool) (q : Queue) (s : Sighting) :
    (q.leaveIf left).put s = (q.put s).map (leaveIf left) := by
  cases left with
  | false => cases h : q.put s <;> simp [leaveIf, PutResult.map, h]
  | true =>
    simp only [leaveIf, if_true, put, leave]
    split
    · rfl
    · split <;> rfl

/-- The reader finds the same, unless the queue has come to its end. -/
theorem take_leaveIf (left : Bool) (q : Queue) :
    (q.leaveIf left).take = .ended ∧ q.items = [] ∨
      (q.leaveIf left).take = q.take.map (leaveIf left) := by
  cases left with
  | false => cases h : q.take <;> simp [leaveIf, TakeResult.map, h]
  | true =>
    rcases q with ⟨capacity, items, writers, hasReader⟩
    cases items with
    | cons s items =>
      -- While there are logs, it does not matter who writes.
      exact .inr rfl
    | nil =>
      by_cases hlast : writers - 1 = 0
      · exact .inl ⟨if_pos hlast, rfl⟩
      · have hwriters : writers ≠ 0 := by omega
        simp [leaveIf, leave, take, hlast, hwriters, TakeResult.map]

/-- What the reader finds, it finds again. -/
theorem take_leaveIf_of_ne_empty {q : Queue} (left : Bool) (h : q.take ≠ .empty) :
    (q.leaveIf left).take = q.take.map (leaveIf left) := by
  rcases take_leaveIf left q with ⟨hended, hitems⟩ | heq
  · have htake : q.take = .ended := by
      rw [take, hitems] at h ⊢
      by_cases hwriters : q.writers = 0
      · exact if_pos hwriters
      · exact absurd (if_neg hwriters) h
    rw [hended, htake]
    rfl
  · exact heq

end Queue

namespace Service

theorem ask_map (f : τ → τ') (env : Environment χ σ) (nodes : σ) (node : χ) (request : Request)
    (broken : τ) (next : Except ClientError request.Answer → τ × List (Happening χ)) :
    ask env nodes node request (f broken) (fun answer => (f (next answer).1, (next answer).2)) =
      (ask env nodes node request broken next).map f := by
  rw [ask, ask]
  dsimp only
  split <;> rfl

/-- Who has taken a step, and the queue when another writer may have left. -/
def leaving (left : Bool) : τ × Queue → τ × Queue := Prod.map id (Queue.leaveIf left)

/-! ### Other watchers -/

namespace Watcher

variable {env : Environment χ σ} {now : Nat} {cancelled : Bool} {notice : Notice} {w : Watcher χ}
  {q : Queue} {nodes : σ}

theorem left_leaveIf (left : Bool) (phase : WatchPhase) :
    w.left phase (q.leaveIf left) = leaving left (w.left phase q) := by
  rw [Watcher.left, Queue.leave_leaveIf]
  rfl

theorem install_leaveIf (left : Bool) :
    w.install env now (q.leaveIf left) nodes = (w.install env now q nodes).map (leaving left) := by
  rw [install, install, ← ask_map, left_leaveIf]
  congr 1
  funext answer
  cases answer with
  | error e => dsimp only; rw [left_leaveIf]
  | ok filter =>
    dsimp only
    split <;> rfl

theorem poll_leaveIf (left : Bool) (filter : Word) (due : Nat) :
    w.poll env now filter due (q.leaveIf left) nodes =
      (w.poll env now filter due q nodes).map (leaving left) := by
  rw [poll, poll, ← ask_map, left_leaveIf]
  congr 1
  funext answer
  cases answer <;> rfl

theorem uninstall_leaveIf (left : Bool) (filter : Word) (result : Except WatchError Unit) :
    w.uninstall env filter result (q.leaveIf left) nodes =
      (w.uninstall env filter result q nodes).map (leaving left) := by
  unfold uninstall
  rw [← ask_map, left_leaveIf]
  congr 1
  funext answer
  rw [left_leaveIf]

theorem forward_leaveIf (left : Bool) (filter : Word) (due : Nat) (log : Log) (logs : List Log) :
    w.forward filter due log logs (q.leaveIf left) nodes =
      (w.forward filter due log logs q nodes).map (·.map (leaving left)) := by
  rw [forward, forward, Queue.put_leaveIf]
  cases q.put (w.watch.sighting log) <;> rfl

/-- What a watcher does is not changed by another that leaves. -/
theorem step_leaveIf (left : Bool) :
    w.step env now cancelled notice (q.leaveIf left) nodes =
      (w.step env now cancelled notice q nodes).map (·.map (leaving left)) := by
  cases hphase : w.phase with
  | installing =>
    simp only [step, hphase, install_leaveIf, Option.map_some]
  | waiting filter due =>
    rw [step_waiting env hphase, step_waiting env hphase, ← select_map]
    congr 1
    split
    · rfl
    · rw [poll_leaveIf, Option.map_some]
  | forwarding filter due logs =>
    cases logs with
    | nil =>
      simp only [step, hphase, Option.map_some]
      rfl
    | cons log logs =>
      rw [step_forwarding env hphase, step_forwarding env hphase, ← select_map, forward_leaveIf]
      rfl
  | uninstalling filter result =>
    simp only [step, hphase, uninstall_leaveIf, Option.map_some]
  | ended result | broken =>
    simp only [step, hphase, Option.map_none]

end Watcher

/-! ### Readers -/

namespace Worker

variable {env : Environment χ σ} {r : Relayer χ} {cancelled : Bool} {notice : Notice} {w : Worker χ}
  {q : Queue} {nodes : σ} {left : Bool} {o : Outcome χ σ (Worker χ × Queue)}

/-- The outcome of a worker that finds its queue at the end. -/
def close (q : Queue) (nodes : σ) : Outcome χ σ (Worker χ × Queue) where
  task := (.ended, q.abandon)
  nodes := nodes
  happenings := [.line .info "filler::fulfillment"
    "Fulfillment queue closed, stopping FulfillmentActor"]

theorem fetch_eq_close (h : q.take = .ended) : fetch r q nodes = some (close q nodes) := by
  rw [fetch, h]
  rfl

theorem fetch_leaveIf (h : (q.leaveIf left).take = q.take.map (Queue.leaveIf left)) :
    fetch r (q.leaveIf left) nodes = (fetch r q nodes).map (·.map (leaving left)) := by
  rw [fetch, fetch, h, Queue.abandon_leaveIf]
  cases q.take <;> rfl

theorem stop_leaveIf (left : Bool) (q : Queue) (nodes : σ) :
    stop (q.leaveIf left) nodes = (stop (χ := χ) q nodes).map (leaving left) := by
  rw [stop, Queue.abandon_leaveIf]
  rfl

theorem advance_leaveIf (left : Bool) (s : Sighting)
    (rest : Session χ (Except FulfillmentError Submission)) :
    advance env cancelled s (q.leaveIf left) nodes rest =
      (advance env cancelled s q nodes rest).map (leaving left) := by
  cases rest with
  | done outcome => cases outcome <;> rfl
  | cancelled next => rfl
  | note n next => rfl
  | ask node request next =>
    rw [advance, advance, ← ask_map, Queue.abandon_leaveIf]
    rfl

/-- What a worker can do, it can do after a writer has left. It may have to notice a cancellation
before it learns that the queue is closed. -/
theorem exists_step_leaveIf (left : Bool) (h : w.step env r cancelled notice q nodes = some o) :
    ∃ notice', w.step env r cancelled notice' (q.leaveIf left) nodes =
      some (o.map (leaving left)) := by
  cases w with
  | waiting =>
    rw [step_waiting, select_eq_some_iff] at h
    simp only [step_waiting, select_eq_some_iff]
    rcases h with ⟨hfetch, hnow⟩ | ⟨rfl, hcancelled, -⟩
    · -- The worker has found something, and finds it again.
      have htake : q.take ≠ .empty := by
        intro hempty
        rw [fetch, hempty] at hfetch
        cases hfetch
      refine ⟨notice, .inl ⟨?_, hnow⟩⟩
      rw [fetch_leaveIf (Queue.take_leaveIf_of_ne_empty left htake), hfetch, Option.map_some]
    · exact ⟨.now, .inr ⟨(stop_leaveIf left q nodes).symm, hcancelled, .inl rfl⟩⟩
  | handling s rest =>
    refine ⟨notice, ?_⟩
    cases h
    exact congrArg some (advance_leaveIf left s rest)
  | ended | broken => cases h

/-- What a worker does after a writer has left, it could do before, unless it ends because the queue
is closed. -/
theorem step_of_leaveIf (h : w.step env r cancelled notice (q.leaveIf left) nodes = some o) :
    (∃ o', w.step env r cancelled notice q nodes = some o' ∧ o = o'.map (leaving left)) ∨
      w = .waiting ∧ (q.leaveIf left).take = .ended ∧ o = close (q.leaveIf left) nodes := by
  cases w with
  | waiting =>
    rw [step_waiting, select_eq_some_iff] at h
    simp only [step_waiting, select_eq_some_iff]
    rcases Queue.take_leaveIf left q with ⟨hended, -⟩ | htake
    · rw [fetch_eq_close hended] at h
      rcases h with ⟨hclose, -⟩ | ⟨rfl, hcancelled, hnow⟩
      · exact .inr ⟨trivial, hended, (Option.some.inj hclose).symm⟩
      · exact .inl ⟨_, .inr ⟨rfl, hcancelled, .inl (hnow.resolve_right nofun)⟩,
          stop_leaveIf left q nodes⟩
    · rw [fetch_leaveIf htake] at h
      rcases h with ⟨hfetch, hnow⟩ | ⟨rfl, hcancelled, hnone⟩
      · obtain ⟨o', hbefore, rfl⟩ := Option.map_eq_some_iff.mp hfetch
        exact .inl ⟨o', .inl ⟨hbefore, hnow⟩, rfl⟩
      · exact .inl ⟨_, .inr ⟨rfl, hcancelled, hnone.imp_right Option.map_eq_none_iff.mp⟩,
          stop_leaveIf left q nodes⟩
  | handling s rest =>
    cases h
    exact .inl ⟨_, rfl, advance_leaveIf left s rest⟩
  | ended | broken => cases h

end Worker

/-- The routes, after a writer has left the shared queue or not. -/
def Routes.leaveIf (left : Bool) (r : Routes χ) : Routes χ :=
  { r with shared := r.shared.leaveIf left }

namespace Router

variable {cancelled : Bool} {notice : Notice} {router : Router} {routes : Routes χ} {nodes : σ}
  {left : Bool} {o : Outcome χ σ (Router × Routes χ)}

/-- The outcome of a router that finds the shared queue at the end. -/
def close (routes : Routes χ) (nodes : σ) : Outcome χ σ (Router × Routes χ) where
  task := (.ended, routes.leave)
  nodes := nodes
  happenings := [line .info "Shared queue closed, stopping Dispatcher"]

theorem leave_leaveIf (left : Bool) (routes : Routes χ) :
    (routes.leaveIf left).leave = routes.leave.leaveIf left := by
  cases left <;> rfl

theorem fetch_eq_close (h : routes.shared.take = .ended) :
    fetch routes nodes = some (close routes nodes) := by
  rw [fetch, h]
  rfl

theorem fetch_leaveIf
    (h : (routes.shared.leaveIf left).take = routes.shared.take.map (Queue.leaveIf left)) :
    fetch (routes.leaveIf left) nodes =
      (fetch routes nodes).map (·.map (Prod.map id (Routes.leaveIf left))) := by
  rw [fetch, fetch, leave_leaveIf, Routes.leaveIf, h]
  cases routes.shared.take <;> rfl

theorem stop_leaveIf (left : Bool) (routes : Routes χ) (nodes : σ) :
    stop (routes.leaveIf left) nodes =
      (stop routes nodes).map (Prod.map id (Routes.leaveIf left)) := by
  rw [stop, leave_leaveIf]
  rfl

theorem deliver_leaveIf (left : Bool) (destination : ChainId) (s : Sighting) :
    deliver (routes.leaveIf left) destination s nodes =
      (deliver routes destination s nodes).map (·.map (Prod.map id (Routes.leaveIf left))) := by
  have hqueue : (routes.leaveIf left).queue? destination = routes.queue? destination := rfl
  rw [deliver, deliver, hqueue]
  cases routes.queue? destination with
  | none => rfl
  | some q =>
    dsimp only
    cases q.put s <;> rfl

/-- What the router can do, it can do after a writer has left. -/
theorem exists_step_leaveIf (left : Bool) (h : router.step cancelled notice routes nodes = some o) :
    ∃ notice', router.step cancelled notice' (routes.leaveIf left) nodes =
      some (o.map (Prod.map id (Routes.leaveIf left))) := by
  cases router with
  | waiting =>
    rw [step_waiting, select_eq_some_iff] at h
    simp only [step_waiting, select_eq_some_iff]
    rcases h with ⟨hfetch, hnow⟩ | ⟨rfl, hcancelled, -⟩
    · have htake : routes.shared.take ≠ .empty := by
        intro hempty
        rw [fetch, hempty] at hfetch
        cases hfetch
      refine ⟨notice, .inl ⟨?_, hnow⟩⟩
      rw [fetch_leaveIf (Queue.take_leaveIf_of_ne_empty left htake), hfetch, Option.map_some]
    · exact ⟨.now, .inr ⟨(stop_leaveIf left routes nodes).symm, hcancelled, .inl rfl⟩⟩
  | routing destination s =>
    refine ⟨notice, ?_⟩
    rw [step_routing] at h ⊢
    rw [deliver_leaveIf]
    exact (select_map _ _ _ _ (drop routes s nodes)).trans (congrArg (Option.map _) h)
  | ended => cases h

/-- What the router does after a writer has left, it could do before, unless it ends because the
shared queue is closed. -/
theorem step_of_leaveIf (h : router.step cancelled notice (routes.leaveIf left) nodes = some o) :
    (∃ o', router.step cancelled notice routes nodes = some o' ∧
        o = o'.map (Prod.map id (Routes.leaveIf left))) ∨
      router = .waiting ∧ (routes.shared.leaveIf left).take = .ended ∧
        o = close (routes.leaveIf left) nodes := by
  cases router with
  | waiting =>
    rw [step_waiting, select_eq_some_iff] at h
    simp only [step_waiting, select_eq_some_iff]
    rcases Queue.take_leaveIf left routes.shared with ⟨hended, -⟩ | htake
    · have hclosed : fetch (routes.leaveIf left) nodes = some (close (routes.leaveIf left) nodes) :=
        fetch_eq_close hended
      rw [hclosed] at h
      rcases h with ⟨hclose, -⟩ | ⟨rfl, hcancelled, hnow⟩
      · exact .inr ⟨trivial, hended, (Option.some.inj hclose).symm⟩
      · exact .inl ⟨_, .inr ⟨rfl, hcancelled, .inl (hnow.resolve_right nofun)⟩,
          stop_leaveIf left routes nodes⟩
    · rw [fetch_leaveIf htake] at h
      rcases h with ⟨hfetch, hnow⟩ | ⟨rfl, hcancelled, hnone⟩
      · obtain ⟨o', hbefore, rfl⟩ := Option.map_eq_some_iff.mp hfetch
        exact .inl ⟨o', .inl ⟨hbefore, hnow⟩, rfl⟩
      · exact .inl ⟨_, .inr ⟨rfl, hcancelled, hnone.imp_right Option.map_eq_none_iff.mp⟩,
          stop_leaveIf left routes nodes⟩
  | routing destination s =>
    rw [step_routing, deliver_leaveIf] at h
    obtain ⟨o', hstep, rfl⟩ := Option.map_eq_some_iff.mp
      ((select_map _ cancelled notice (deliver routes destination s nodes)
        (drop routes s nodes)).symm.trans h)
    exact .inl ⟨o', by rw [step_routing, hstep], rfl⟩
  | ended => cases h

end Router

/-! ### Readers at the end of their queues -/

/-- A lane whose router has left, beside what it was: its worker goes on with what is in the queue,
or has ended. -/
inductive Lane.Drains : Lane χ → Lane χ → Prop
  | left (lane : Lane χ) : Drains lane { lane with queue := lane.queue.leave }
  | ended {lane lane' : Lane χ} (worker : lane'.worker = .ended) : Drains lane lane'

theorem Lane.forall₂_drains_leave (lanes : List (Lane χ)) :
    List.Forall₂ Lane.Drains lanes
      (lanes.map fun lane => { lane with queue := lane.queue.leave }) := by
  rw [List.forall₂_map_right_iff]
  exact List.forall₂_same.mpr fun lane _ => .left lane

/-- Consumers of which the reader of the shared queue has ended, beside what they were. -/
inductive Consumers.Drains : Consumers χ → Consumers χ → Prop
  | single (worker : Worker χ) : Drains (.single worker) (.single .ended)
  | perDestination {router : Router} {lanes lanes' : List (Lane χ)}
      (lanes_drain : List.Forall₂ Lane.Drains lanes lanes') :
      Drains (.perDestination router lanes) (.perDestination .ended lanes')

/-- The lines in which a reader says that its queue is closed. -/
def closings : List Journal.Line :=
  [{ level := .info, target := "filler::fulfillment"
     text := "Fulfillment queue closed, stopping FulfillmentActor" },
   { level := .info, target := "filler::dispatcher"
     text := "Shared queue closed, stopping Dispatcher" }]

/-- Whether a reader says that its queue is closed. -/
def Happening.isClosing : Happening χ → Bool
  | .event (.note (.journal line)) => decide (line ∈ closings)
  | _ => false

theorem Worker.any_isClosing_close (q : Queue) (nodes : σ) :
    (close (χ := χ) q nodes).happenings.any Happening.isClosing = true := by
  simp [close, Happening.line, Happening.isClosing, closings]

theorem Router.any_isClosing_close (routes : Routes χ) (nodes : σ) :
    (close routes nodes).happenings.any Happening.isClosing = true := by
  simp [close, line, Happening.line, Happening.isClosing, closings]

/-! ### A watcher that leaves -/

/-- Whether a watcher does nothing more than to uninstall its filter. -/
def Watcher.isLeaving (w : Watcher χ) : Bool :=
  match w.phase with
  | .uninstalling _ _ | .ended _ => true
  | _ => false

namespace Watcher

variable {env : Environment χ σ} {now : Nat} {cancelled : Bool} {w : Watcher χ} {q : Queue}
  {nodes : σ} {o : Outcome χ σ (Watcher χ × Queue)}

theorem isBroken_of_isLeaving (h : w.isLeaving = true) : w.isBroken = false := by
  rw [isLeaving] at h
  rw [isBroken]
  split at h
  · rename_i hphase
    rw [hphase]
  · rename_i hphase
    rw [hphase]
  · cases h

/-- A watcher that comes to leave only leaves the queue, and only when it ends. -/
theorem Moves.queue_eq_of_isLeaving (h : w.Moves env now cancelled q nodes o)
    (hleaving : o.task.1.isLeaving = true) : o.task.2 = q.leaveIf o.task.1.isFinished := by
  cases h with
  | refused | stopped | failed | refusedLog | interrupted | uninstalled => rfl
  | installed | broke | polled | paused | forwarded => cases hleaving

/-- A watcher that has come to leave, and has not broken down on the way, goes on leaving. -/
theorem Moves.isLeaving_of_isLeaving (h : w.Moves env now cancelled q nodes o)
    (hleaving : w.isLeaving = true) (hunbroken : o.task.1.isBroken = false) :
    o.task.1.isLeaving = true ∧ o.task.2 = q.leave ∧ o.task.1.isFinished = true := by
  cases h with
  | uninstalled => exact ⟨rfl, rfl, rfl⟩
  | broke => cases hunbroken
  | installed phase | refused phase | stopped phase | polled phase | failed phase | paused phase
  | forwarded phase | refusedLog phase | interrupted phase =>
    simp [isLeaving, phase] at hleaving

/-- A watcher whose question has been answered with an error is leaving, if it has not broken
down. -/
theorem Moves.isLeaving_of_error (h : w.Moves env now cancelled q nodes o)
    (hunbroken : o.task.1.isBroken = false) {x : Exchange χ} {e : ClientError}
    (hmem : .event (.exchange x) ∈ o.happenings) (herror : x.answer = .error e) :
    o.task.1.isLeaving = true := by
  -- The steps that go on have got an answer.
  have hno : ∀ {a : x.request.Answer}, x.answer ≠ .ok a := by
    intro a ha
    rw [herror] at ha
    cases ha
  cases h with
  | refused | stopped | failed | refusedLog | interrupted | uninstalled => rfl
  | broke => cases hunbroken
  | installed | polled =>
    cases List.mem_singleton.mp hmem
    exact absurd rfl hno
  | paused => cases hmem
  | forwarded =>
    simp [announced, Happening.line] at hmem

end Watcher

namespace System

variable {env : Environment χ σ} {notice : Notice} {s : System χ} {nodes : σ} {t : TaskId}
  {i : Nat} {w : Watcher χ} {o : Outcome χ σ (System χ)}

/-- Whether a watcher does nothing more than to uninstall its filter. -/
def isLeaving (s : System χ) (i : Nat) : Bool := s.watchers[i]?.any Watcher.isLeaving

/-- The tasks, when a watcher has got somewhere else. If it has ended, it has left the queue. -/
def withWatcher (s : System χ) (i : Nat) (w : Watcher χ) : System χ :=
  { s with watchers := s.watchers.set i w, shared := s.shared.leaveIf w.isFinished }

theorem taskIds_withWatcher (s : System χ) (i : Nat) (w : Watcher χ) :
    (s.withWatcher i w).taskIds = s.taskIds := by
  simp [taskIds, withWatcher]

/-- All others stay where they are. -/
theorem withWatcher_eq_of_ne (i : Nat) (w : Watcher χ) (ht : t ≠ .watcher i) :
    (s.withWatcher i w).isFinished t = s.isFinished t ∧
      (s.withWatcher i w).isBroken t = s.isBroken t := by
  cases t with
  | watcher j =>
    have hij : i ≠ j := fun h => ht (h ▸ rfl)
    simp [isFinished, isBroken, withWatcher, List.getElem?_set_ne hij]
  | router | worker | laneWorker => exact eq_of_consumers_eq rfl (by simp)

theorem handled?_withWatcher (s : System χ) (i : Nat) (w : Watcher χ) (t : TaskId) :
    (s.withWatcher i w).handled? t = s.handled? t := by
  cases t <;> rfl

/-- A step by which a watcher comes to leave changes nothing but the watcher. -/
theorem eq_withWatcher_of_step (h : s.step env notice (.watcher i) nodes = some o)
    (hleaving : o.task.isLeaving i = true) :
    ∃ w, w.isLeaving = true ∧ o.task = s.withWatcher i w := by
  obtain ⟨w, o', hw, hstep, rfl⟩ := step_watcher_eq_some_iff.mp h
  have hleaving : o'.task.1.isLeaving = true := by
    simpa [isLeaving, Outcome.map, (List.getElem?_eq_some_iff.mp hw).1] using hleaving
  refine ⟨o'.task.1, hleaving, ?_⟩
  simp only [Outcome.map, (Watcher.moves_of_step hstep).queue_eq_of_isLeaving hleaving, withWatcher]

/-- Whoever else can take a step can take it when a watcher has got somewhere else. -/
theorem step_withWatcher (i : Nat) (w : Watcher χ) (h : s.step env notice t nodes = some o)
    (ht : t ≠ .watcher i) :
    ∃ notice', (s.withWatcher i w).step env notice' t nodes = some (o.map (·.withWatcher i w)) := by
  cases t with
  | watcher j =>
    obtain ⟨w', o', hw', hstep, rfl⟩ := step_watcher_eq_some_iff.mp h
    have hij : i ≠ j := fun h => ht (h ▸ rfl)
    have hwatcher : (s.withWatcher i w).watchers[j]? = some w' :=
      (List.getElem?_set_ne hij).trans hw'
    have hstep' := (Watcher.step_leaveIf w.isFinished).trans (congrArg (Option.map _) hstep)
    refine ⟨notice, step_watcher_eq_some_iff.mpr ⟨w', _, hwatcher, hstep', ?_⟩⟩
    -- The two watchers can be set in either order.
    simp only [Outcome.map, leaving, withWatcher, List.set_comm _ _ hij]
    rfl
  | router =>
    obtain ⟨router, lanes, o', hconsumers, hstep, rfl⟩ := step_router_eq_some_iff.mp h
    obtain ⟨notice', hstep⟩ := Router.exists_step_leaveIf w.isFinished hstep
    exact ⟨notice', step_router_eq_some_iff.mpr ⟨router, lanes, _, hconsumers, hstep, rfl⟩⟩
  | worker =>
    obtain ⟨worker, o', hconsumers, hstep, rfl⟩ := step_worker_eq_some_iff.mp h
    obtain ⟨notice', hstep⟩ := Worker.exists_step_leaveIf w.isFinished hstep
    exact ⟨notice', step_worker_eq_some_iff.mpr ⟨worker, _, hconsumers, hstep, rfl⟩⟩
  | laneWorker j =>
    -- Lanes are filled by the router, not by the watchers.
    obtain ⟨router, lanes, lane, o', hconsumers, hlane, hstep, rfl⟩ :=
      step_laneWorker_eq_some_iff.mp h
    exact ⟨notice, step_laneWorker_eq_some_iff.mpr
      ⟨router, lanes, lane, o', hconsumers, hlane, hstep, rfl⟩⟩

/-- Whoever else takes a step when a watcher has got somewhere else could take it before, unless the
shared queue is closed. -/
theorem step_of_withWatcher (h : (s.withWatcher i w).step env notice t nodes = some o)
    (ht : t ≠ .watcher i) :
    (∃ o', s.step env notice t nodes = some o' ∧ o = o'.map (·.withWatcher i w)) ∨
      (s.withWatcher i w).shared.take = .ended ∧ o.happenings.any Happening.isClosing = true ∧
        ∃ consumers shared, s.consumers.Drains consumers ∧
          o.task = { s.withWatcher i w with consumers, shared } := by
  cases t with
  | watcher j =>
    left
    obtain ⟨w', o', hw', hstep, rfl⟩ := step_watcher_eq_some_iff.mp h
    have hij : i ≠ j := fun h => ht (h ▸ rfl)
    have hwatcher : s.watchers[j]? = some w' := (List.getElem?_set_ne hij).symm.trans hw'
    obtain ⟨o', hbefore, rfl⟩ := Option.map_eq_some_iff.mp
      ((Watcher.step_leaveIf w.isFinished).symm.trans hstep)
    refine ⟨_, step_watcher_eq_some_iff.mpr ⟨w', o', hwatcher, hbefore, rfl⟩, ?_⟩
    simp only [Outcome.map, leaving, withWatcher, List.set_comm _ _ hij]
    rfl
  | router =>
    -- The router either does what it could do, or finds the shared queue closed.
    obtain ⟨router, lanes, o', hconsumers, hstep, rfl⟩ := step_router_eq_some_iff.mp h
    have hconsumers : s.consumers = .perDestination router lanes := hconsumers
    have hstep : router.step s.cancelled notice (.leaveIf w.isFinished ⟨s.shared, lanes⟩) nodes =
        some o' := hstep
    rcases Router.step_of_leaveIf hstep with ⟨o', hbefore, rfl⟩ | ⟨rfl, htake, rfl⟩
    · exact .inl ⟨_, step_router_eq_some_iff.mpr ⟨router, lanes, o', hconsumers, hbefore, rfl⟩,
        rfl⟩
    · have hdrains : s.consumers.Drains (.perDestination .ended
          (lanes.map fun lane => { lane with queue := lane.queue.leave })) :=
        hconsumers ▸ .perDestination (Lane.forall₂_drains_leave lanes)
      exact .inr ⟨htake, Router.any_isClosing_close (.leaveIf w.isFinished ⟨s.shared, lanes⟩)
        nodes, _, _, hdrains, rfl⟩
  | worker =>
    obtain ⟨worker, o', hconsumers, hstep, rfl⟩ := step_worker_eq_some_iff.mp h
    have hconsumers : s.consumers = .single worker := hconsumers
    rcases Worker.step_of_leaveIf hstep with ⟨o', hbefore, rfl⟩ | ⟨rfl, htake, rfl⟩
    · exact .inl ⟨_, step_worker_eq_some_iff.mpr ⟨worker, o', hconsumers, hbefore, rfl⟩, rfl⟩
    · have hdrains : s.consumers.Drains (.single .ended) := hconsumers ▸ .single _
      exact .inr ⟨htake, Worker.any_isClosing_close (s.shared.leaveIf w.isFinished) nodes,
        _, _, hdrains, rfl⟩
  | laneWorker j =>
    left
    obtain ⟨router, lanes, lane, o', hconsumers, hlane, hstep, rfl⟩ :=
      step_laneWorker_eq_some_iff.mp h
    exact ⟨_, step_laneWorker_eq_some_iff.mpr
      ⟨router, lanes, lane, o', hconsumers, hlane, hstep, rfl⟩, rfl⟩

end System

end Service

end CrossCall
