import Mathlib
import CrossCall.Proofs.Service.Leaving

/-!
# Watchers that fail alone

A watcher to which a node answers with an error uninstalls its filter and ends. Nobody else is
affected by that. Whatever the other tasks and the supervisor could have done if the watcher had
just done nothing any more, they can still do: the same calls with the same answers, and the same
logs. And whatever they do after the failure, they could have done if the watcher had done nothing.
The only difference is that the service may come to its end: when the last watcher has left, the
readers find their queues closed after they have read what is in them, and the supervisor can join
all tasks.

## Main definitions

* `System.Survives` — the tasks with and without the end of a watcher
* `Turn.isToldBeside` — the turns of the other tasks, except the end of a reader
* `Service.Retells` — a run in which a watcher takes no step, with the same turns of the others
* `Service.IsolatesFailures` — no failure of a watcher matters to the others

## Main results

* `Service.plays_withWatcher` — a failure prevents nothing
* `System.Survives.retells` — a failure causes nothing
* `Service.supervised_and_isolated` — the laws of the supervisor and of its watchers
-/

namespace CrossCall

variable {χ σ : Type}

namespace Service

namespace System

variable {env : Environment χ σ} {notice : Notice} {s s' : System χ} {nodes nodes' : σ} {t : TaskId}
  {o : Outcome χ σ (System χ)} {turn : Turn χ} {i : Nat} {w : Watcher χ}

/-- Only who takes a step ends. -/
theorem Changes.isFinished_eq (h : System.Changes env s nodes turn s' nodes')
    (ht : turn.task ≠ some t) : s'.isFinished t = s.isFinished t := by
  cases h with
  | aside => rfl
  | stepped move => exact (move.eq_of_ne fun h => ht (congrArg some h.symm)).1

/-- If whoever takes a step does not break down, nobody does. -/
theorem IsWhole.of_step (h : s.IsWhole) (hstep : s.step env notice t nodes = some o)
    (ht : o.task.isBroken t = false) : o.task.IsWhole := by
  intro t'
  by_cases htask : t' = t
  · rw [htask, ht]
  · rw [((moves_of_step hstep).eq_of_ne htask).2, h t']

theorem isBroken_withWatcher_self (h : w.isBroken = false) :
    (s.withWatcher i w).isBroken (.watcher i) = false := by
  simp only [isBroken, withWatcher, List.getElem?_set_self']
  cases s.watchers[i]? with
  | none => rfl
  | some w' => exact h

theorem IsWhole.withWatcher (h : s.IsWhole) (hw : w.isLeaving = true) :
    (s.withWatcher i w).IsWhole := by
  intro t
  by_cases ht : t = .watcher i
  · rw [ht, isBroken_withWatcher_self (Watcher.isBroken_of_isLeaving hw)]
  · rw [(s.withWatcher_eq_of_ne i w ht).2, h t]

end System

/-! ### Runs without a watcher -/

section

/-- The service, when a watcher has got somewhere else. -/
def withWatcher (s : Service χ) (i : Nat) (w : Watcher χ) : Service χ :=
  { s with system := s.system.withWatcher i w }

/-- Actions among which a watcher takes no step. -/
def IsSilent (i : Nat) (as : List Action) : Prop := ∀ a ∈ as, a.task? ≠ some (.watcher i)

variable {env : Environment χ σ} {s s' s₁ : Service χ} {nodes nodes₁ : σ} {a : Action}
  {as : List Action} {turns : List (Turn χ)} {o : Outcome χ σ (Service χ)} {i : Nat} {w : Watcher χ}
  {t : TaskId}

theorem join_withWatcher (s : Service χ) (w : Watcher χ) (ht : t ≠ .watcher i) :
    (s.withWatcher i w).join t = ((s.join t).1.withWatcher i w, (s.join t).2) := by
  have hbroken := (s.system.withWatcher_eq_of_ne i w ht).2
  simp only [join, withWatcher, hbroken]
  cases s.stage <;> cases s.system.isBroken t <;> rfl

/-- Whatever else can be done can be done when a watcher that has not ended has got somewhere
else. -/
theorem act_withWatcher (w : Watcher χ) (h : s.act env a nodes = some o)
    (ha : a.task? ≠ some (.watcher i)) (hi : s.system.isFinished (.watcher i) = false) :
    ∃ a', a'.task? = a.task? ∧
      (s.withWatcher i w).act env a' nodes = some (o.map (·.withWatcher i w)) := by
  cases a with
  | step t notice =>
    have ht : t ≠ .watcher i := fun h => ha (congrArg some h)
    obtain ⟨o', hstep, rfl⟩ := Option.map_eq_some_iff.mp h
    obtain ⟨notice', hstep⟩ := System.step_withWatcher i w hstep ht
    exact ⟨.step t notice', rfl, Option.map_eq_some_iff.mpr ⟨_, hstep, rfl⟩⟩
  | elapse ms =>
    cases h
    exact ⟨.elapse ms, rfl, rfl⟩
  | cancel =>
    cases h
    exact ⟨.cancel, rfl, rfl⟩
  | join t =>
    obtain ⟨⟨hwaiting, hid, hjoined, hfinished⟩, rfl⟩ := act_join_eq_some_iff.mp h
    -- The watcher cannot be joined, since it has not ended.
    have ht : t ≠ .watcher i := by
      rintro rfl
      rw [hi] at hfinished
      cases hfinished
    refine ⟨.join t, rfl, act_join_eq_some_iff.mpr ⟨⟨hwaiting, ?_, hjoined, ?_⟩, ?_⟩⟩
    · exact (s.system.taskIds_withWatcher i w).symm ▸ hid
    · exact (s.system.withWatcher_eq_of_ne i w ht).1.trans hfinished
    · rw [join_withWatcher s w ht]
      rfl
  | finish =>
    refine ⟨.finish, rfl, ?_⟩
    -- There are the same tasks, and the same have been joined.
    have hall : (s.withWatcher i w).allJoined = s.allJoined := by
      rw [allJoined, allJoined, withWatcher, System.taskIds_withWatcher]
    rw [act] at h ⊢
    rw [hall]
    split at h
    · rename_i hjoined
      rw [if_pos hjoined]
      cases hstage : s.stage with
      | running | stopping =>
        simp only [withWatcher, hstage] at h ⊢
        cases h
        rfl
      | returned | stopped =>
        simp only [hstage] at h
        cases h
    · cases h
  | stop =>
    refine ⟨.stop, rfl, ?_⟩
    rw [act] at h ⊢
    cases hstage : s.stage with
    | running | returned =>
      simp only [withWatcher, hstage] at h ⊢
      cases h
      rfl
    | stopping | stopped =>
      simp only [hstage] at h
      cases h

/-- Whatever happens while a watcher that has not ended takes no step can happen when it has come to
leave. -/
theorem plays_withWatcher (hw : w.isLeaving = true)
    (h : s.follow env as nodes = some (turns, s₁, nodes₁)) (hsilent : IsSilent i as)
    (hwhole : s₁.system.IsWhole) (hi : s.system.isFinished (.watcher i) = false) :
    ∃ as', as'.map Action.task? = as.map Action.task? ∧
      (s.withWatcher i w).Plays as' turns (s₁.withWatcher i w) := by
  induction as generalizing s nodes turns with
  | nil =>
    cases h
    exact ⟨[], rfl, .refl _⟩
  | cons a as ih =>
    obtain ⟨o, hact, h⟩ := Option.bind_eq_some_iff.mp h
    obtain ⟨⟨turns', s', nodes'⟩, hrest, ⟨⟩⟩ := Option.bind_eq_some_iff.mp h
    obtain ⟨ha, hsilent⟩ := List.forall_mem_cons.mp hsilent
    have hi' : o.task.system.isFinished (.watcher i) = false :=
      ((changes_of_act hact).isFinished_eq ha).trans hi
    obtain ⟨as', htasks, hplays⟩ := ih hrest hsilent hi'
    obtain ⟨a', hsame, hact'⟩ := act_withWatcher w hact ha hi
    -- The records of both turns are the same.
    have hturn : (s.withWatcher i w).turnOf a' (o.map (·.withWatcher i w)) = s.turnOf a o := by
      have hhandled : (s.system.withWatcher i w).handled? = s.system.handled? :=
        funext (s.system.handled?_withWatcher i w)
      simp only [turnOf, hsame, withWatcher, hhandled, Outcome.map]
    refine ⟨a' :: as', ?_, ?_⟩
    · rw [List.map_cons, List.map_cons, hsame, htasks]
    · rw [← hturn]
      exact .cons hact' ((isWhole_of_follow hrest hwhole).withWatcher hw) hplays

end

/-! ### Runs after the end of a watcher -/

/-- When the shared queue is at its end, all watchers have ended. -/
theorem System.Wired.isFinished_of_take {s : System χ} {r : Relayer χ} {topology : Topology}
    {capacity : Nat} {watches : List (Watch χ)} (h : s.Wired r topology capacity watches)
    (htake : s.shared.take = .ended) : ∀ w ∈ s.watchers, w.isFinished = true := by
  have hactive : s.activeWatchers = 0 :=
    h.shared.writers_eq.symm.trans (of_take_eq_ended htake).2
  intro w hw
  simpa using List.countP_eq_zero.mp hactive w hw

theorem Lane.exists_drains {lanes lanes' : List (Lane χ)} {lane' : Lane χ} {i : Nat}
    (h : List.Forall₂ Lane.Drains lanes lanes') (hlane' : lanes'[i]? = some lane') :
    ∃ lane, lanes[i]? = some lane ∧ lane.Drains lane' := by
  obtain ⟨hlength, hget⟩ := List.forall₂_iff_get.mp h
  obtain ⟨hi', rfl⟩ := List.getElem?_eq_some_iff.mp hlane'
  exact ⟨_, List.getElem?_eq_getElem (hlength ▸ hi'), hget i (hlength ▸ hi') hi'⟩

theorem Lane.forall₂_drains_set {lanes lanes' : List (Lane χ)} {lane lane' : Lane χ}
    (h : List.Forall₂ Lane.Drains lanes lanes') (hlane : lane.Drains lane') (i : Nat) :
    List.Forall₂ Lane.Drains (lanes.set i lane) (lanes'.set i lane') := by
  induction h generalizing i with
  | nil => exact .nil
  | cons head tail ih =>
    cases i with
    | zero => exact .cons hlane tail
    | succ i => exact .cons head (ih i)

/-- The tasks with and without the end of a watcher: nobody else is affected, or all watchers have
ended and the reader of the shared queue after them. -/
inductive System.Survives (i : Nat) (s s' : System χ) : Prop
  | beside (w : Watcher χ) (leaving : w.isLeaving = true) (eq : s' = s.withWatcher i w)
  | drained (relayer : s'.relayer = s.relayer) (now : s'.now = s.now)
      (cancelled : s'.cancelled = s.cancelled) (ended : ∀ w ∈ s'.watchers, w.isFinished = true)
      (consumers : s.consumers.Drains s'.consumers)

namespace System.Survives

variable {env : Environment χ σ} {notice : Notice} {s s' : System χ} {nodes : σ} {t : TaskId}
  {o' : Outcome χ σ (System χ)} {i : Nat} {r : Relayer χ} {topology : Topology} {capacity : Nat}
  {watches : List (Watch χ)}

theorem elapse (h : s.Survives i s') (ms : Nat) :
    System.Survives i { s with now := s.now + ms } { s' with now := s'.now + ms } := by
  cases h with
  | beside w leaving eq =>
    subst eq
    exact .beside w leaving rfl
  | drained relayer now cancelled ended consumers =>
    exact .drained relayer (congrArg (· + ms) now) cancelled ended consumers

theorem cancel (h : s.Survives i s') :
    System.Survives i { s with cancelled := true } { s' with cancelled := true } := by
  cases h with
  | beside w leaving eq =>
    subst eq
    exact .beside w leaving rfl
  | drained relayer now _ ended consumers => exact .drained relayer now rfl ended consumers

/-- As long as the reader of the shared queue has not noticed, the others do what they could do, or
the reader notices. -/
theorem step_beside {w : Watcher χ} (hw : w.isLeaving = true)
    (hwired : (s.withWatcher i w).Wired r topology capacity watches) (hwhole : s.IsWhole)
    (hstep : (s.withWatcher i w).step env notice t nodes = some o') (hwhole' : o'.task.IsWhole) :
    (t ≠ .watcher i ∧ ∃ o, s.step env notice t nodes = some o ∧ o.happenings = o'.happenings ∧
        o.task.IsWhole ∧ o.task.Survives i o'.task) ∨
      (t = .watcher i ∨ o'.happenings.any Happening.isClosing = true) ∧ s.Survives i o'.task := by
  by_cases ht : t = .watcher i
  · -- The watcher itself uninstalls its filter.
    subst ht
    obtain ⟨w', o, hw', hmove, rfl⟩ := step_watcher_eq_some_iff.mp hstep
    have hi : i < s.watchers.length := by
      simpa [withWatcher] using (List.getElem?_eq_some_iff.mp hw').1
    obtain rfl : w = w' := Option.some.inj ((List.getElem?_set_self hi).symm.trans hw')
    have hmove := Watcher.moves_of_step hmove
    have hunbroken : o.task.1.isBroken = false := by
      simpa [isBroken, Outcome.map, withWatcher, hi] using hwhole' (.watcher i)
    obtain ⟨hleaving, hqueue, hfinished⟩ := hmove.isLeaving_of_isLeaving hw hunbroken
    refine .inr ⟨.inl rfl, .beside o.task.1 hleaving ?_⟩
    simp only [Outcome.map, withWatcher, List.set_set, hqueue, hfinished, hmove.isFinished_eq]
    rfl
  · rcases step_of_withWatcher hstep ht with
      ⟨o, hbefore, rfl⟩ | ⟨htake, hclosing, consumers, shared, hdrains, heq⟩
    · have hunbroken : o.task.isBroken t = false :=
        (o.task.withWatcher_eq_of_ne i w ht).2.symm.trans (hwhole' t)
      exact .inl ⟨ht, o, hbefore, rfl, hwhole.of_step hbefore hunbroken, .beside w hw rfl⟩
    · -- The queue is at its end, so nobody is left who writes to it.
      have hended := hwired.isFinished_of_take htake
      refine .inr ⟨.inr hclosing, ?_⟩
      rw [heq]
      exact .drained rfl rfl rfl hended hdrains

/-- After the reader of the shared queue has ended, the workers of the lanes go on. -/
theorem step_drained (hended : ∀ w ∈ s'.watchers, w.isFinished = true)
    (hrelayer : s'.relayer = s.relayer) (hnow : s'.now = s.now)
    (hcancelled : s'.cancelled = s.cancelled) (hdrains : s.consumers.Drains s'.consumers)
    (hwhole : s.IsWhole)
    (hstep : s'.step env notice t nodes = some o') (hwhole' : o'.task.IsWhole) :
    (t ≠ .watcher i ∧ s'.handled? t = s.handled? t ∧ ∃ o, s.step env notice t nodes = some o ∧
        o.happenings = o'.happenings ∧ o.task.IsWhole ∧ o.task.Survives i o'.task) ∨
      o'.happenings.any Happening.isClosing = true ∧ s.Survives i o'.task := by
  generalize hconsumers : s.consumers = consumers at hdrains
  cases t with
  | watcher j =>
    -- All watchers have ended, and so have the router and the only worker.
    obtain ⟨w, o, hw, hmove, -⟩ := step_watcher_eq_some_iff.mp hstep
    have hactive := (Watcher.moves_of_step hmove).isFinished_eq
    rw [hended w (List.mem_of_getElem? hw)] at hactive
    cases hactive
  | router =>
    obtain ⟨router, lanes, o, hconsumers', hmove, -⟩ := step_router_eq_some_iff.mp hstep
    rw [hconsumers'] at hdrains
    cases hdrains
    cases hmove
  | worker =>
    obtain ⟨worker, o, hconsumers', hmove, -⟩ := step_worker_eq_some_iff.mp hstep
    rw [hconsumers'] at hdrains
    cases hdrains
    cases hmove
  | laneWorker j =>
    obtain ⟨router', lanes', lane', o, hconsumers', hlane', hmove, rfl⟩ :=
      step_laneWorker_eq_some_iff.mp hstep
    rw [hconsumers'] at hdrains
    cases hdrains with
    | @perDestination router lanes _ hlanes =>
      obtain ⟨lane, hlane, hdrain⟩ := Lane.exists_drains hlanes hlane'
      rw [hrelayer, hcancelled] at hmove
      cases hdrain with
      | ended hworker =>
        rw [hworker] at hmove
        cases hmove
      | left =>
        have hmove : lane.worker.step env s.relayer s.cancelled notice (lane.queue.leaveIf true)
            nodes = some o := hmove
        rcases Worker.step_of_leaveIf hmove with ⟨o, hbefore, rfl⟩ | ⟨-, -, rfl⟩
        · -- The worker does in its lane what it could do with the router still there.
          left
          have hstep := step_laneWorker_eq_some_iff.mpr
            ⟨router, lanes, lane, o, hconsumers, hlane, hbefore, rfl⟩
          refine ⟨by simp, ?_, _, hstep, rfl, hwhole.of_step hstep ?_, ?_⟩
          · simp only [handled?, hconsumers, hconsumers', hlane, hlane', Option.bind_some]
          · refine Eq.trans ?_ (hwhole' (.laneWorker j))
            simp [isBroken, List.getElem?_set_self', hlane, hlane', Outcome.map, leaving]
          · exact .drained hrelayer hnow hcancelled hended
              (.perDestination (Lane.forall₂_drains_set hlanes (.left _) j))
        · -- It ends, and would wait for the router otherwise.
          right
          have hset : lanes.set j lane = lanes := by
            obtain ⟨hj, rfl⟩ := List.getElem?_eq_some_iff.mp hlane
            exact List.set_getElem_self hj
          refine ⟨Worker.any_isClosing_close (lane.queue.leaveIf true) nodes, ?_⟩
          refine .drained hrelayer hnow hcancelled hended ?_
          rw [hconsumers, ← hset]
          exact .perDestination (Lane.forall₂_drains_set hlanes (.ended rfl) j)

/-- Who takes a step after the end of a watcher could take it without it, unless it is the watcher
itself or a reader that ends. -/
theorem step (h : s.Survives i s') (hwired : s'.Wired r topology capacity watches)
    (hwhole : s.IsWhole) (hstep : s'.step env notice t nodes = some o')
    (hwhole' : o'.task.IsWhole) :
    (t ≠ .watcher i ∧ s'.handled? t = s.handled? t ∧ ∃ o, s.step env notice t nodes = some o ∧
        o.happenings = o'.happenings ∧ o.task.IsWhole ∧ o.task.Survives i o'.task) ∨
      (t = .watcher i ∨ o'.happenings.any Happening.isClosing = true) ∧ s.Survives i o'.task := by
  cases h with
  | beside w leaving eq =>
    subst eq
    exact (step_beside leaving hwired hwhole hstep hwhole').imp_left fun ⟨ht, hsame⟩ =>
      ⟨ht, s.handled?_withWatcher i w t, hsame⟩
  | drained relayer now cancelled ended consumers =>
    exact (step_drained ended relayer now cancelled consumers hwhole hstep hwhole').imp_right
      fun ⟨hclosing, hsurvives⟩ => ⟨.inr hclosing, hsurvives⟩

end System.Survives

/-- Whether a turn is of another task than a watcher, and not the end of a reader. -/
def Turn.isToldBeside (i : Nat) (turn : Turn χ) : Bool :=
  match turn.task with
  | none => false
  | some t => t ≠ .watcher i && !turn.happenings.any Happening.isClosing

/-- A run in which a watcher takes no step, of which the others tell the given turns. -/
def Retells (i : Nat) (s : Service χ) (told : List (Turn χ)) (s₁ : Service χ) : Prop :=
  ∃ as turns, IsSilent i as ∧ s.Plays as turns s₁ ∧ turns.filter (Turn.isToldBeside i) = told

section

variable {env : Environment χ σ} {s s' s'' s₁' : Service χ} {nodes nodes₁ : σ} {a : Action}
  {as' : List Action} {turns' told told' : List (Turn χ)} {o o' : Outcome χ σ (Service χ)} {i : Nat}
  {r : Relayer χ} {topology : Topology} {capacity : Nat} {watches : List (Watch χ)}

namespace Retells

theorem refl (i : Nat) (s : Service χ) : Retells i s [] s := ⟨[], [], nofun, .refl s, rfl⟩

theorem trans (h : Retells i s told s') (h' : Retells i s' told' s'') :
    Retells i s (told ++ told') s'' := by
  obtain ⟨as, turns, hsilent, hplays, rfl⟩ := h
  obtain ⟨as', turns', hsilent', hplays', rfl⟩ := h'
  refine ⟨as ++ as', turns ++ turns', ?_, hplays.append hplays', List.filter_append _ _⟩
  exact List.forall_mem_append.mpr ⟨hsilent, hsilent'⟩

theorem of_act (h : s.act env a nodes = some o) (ha : a.task? ≠ some (.watcher i))
    (hwhole : o.task.system.IsWhole) :
    Retells i s ([s.turnOf a o].filter (Turn.isToldBeside i)) o.task :=
  ⟨[a], [s.turnOf a o], List.forall_mem_singleton.mpr ha, .cons h hwhole (.refl _), rfl⟩

end Retells

/-- A step after the end of a watcher is a step without it, or nothing that is told. -/
theorem System.Survives.exists_step {t : TaskId} {notice : Notice}
    (h : s.system.Survives i s'.system) (hwired : s'.system.Wired r topology capacity watches)
    (hact : s'.act env (.step t notice) nodes = some o') (hwhole : s.system.IsWhole)
    (hwhole' : o'.task.system.IsWhole) :
    ∃ s₁, Retells i s ([s'.turnOf (.step t notice) o'].filter (Turn.isToldBeside i)) s₁ ∧
      s₁.system.IsWhole ∧ s₁.system.Survives i o'.task.system := by
  obtain ⟨o, hstep, rfl⟩ := Option.map_eq_some_iff.mp hact
  rcases h.step hwired hwhole hstep hwhole' with
    ⟨ht, hhandled, o₁, hbefore, hsame, hwhole₁, hsurvives⟩ | ⟨hquiet, hsurvives⟩
  · -- The same turn is taken without the end of the watcher.
    refine ⟨{ s with system := o₁.task }, ?_, hwhole₁, hsurvives⟩
    have hact₁ : s.act env (.step t notice) nodes = some
        { task := { s with system := o₁.task }, nodes := o₁.nodes
          happenings := o₁.happenings } := by
      rw [act, hbefore, Option.map_some]
    have htask : Action.task? (.step t notice) ≠ some (.watcher i) :=
      fun h => ht (Option.some.inj h)
    have htold := Retells.of_act hact₁ htask hwhole₁
    simp only [turnOf, Action.task?, Option.bind_some, hhandled, hsame] at htold ⊢
    exact htold
  · refine ⟨s, ?_, hwhole, hsurvives⟩
    have huntold : (s'.turnOf (.step t notice)
        { task := { s' with system := o.task }, nodes := o.nodes
          happenings := o.happenings }).isToldBeside i = false := by
      rcases hquiet with rfl | hclosing
      · simp [Turn.isToldBeside, turnOf, Action.task?]
      · simp [Turn.isToldBeside, turnOf, Action.task?, hclosing]
    rw [List.filter_singleton, huntold]
    exact .refl i s

/-- What is not a step of a task makes no difference but to the clock and to cancellations. -/
theorem System.Survives.exists_aside (h : s.system.Survives i s'.system)
    (hact : s'.act env a nodes = some o') (ha : a.task? = none) (hwhole : s.system.IsWhole)
    (hwhole' : s'.system.IsWhole) :
    ∃ s₁, Retells i s [] s₁ ∧ s₁.system.IsWhole ∧ s₁.system.Survives i o'.task.system := by
  have hcancel : ∃ s₁, Retells i s [] s₁ ∧ s₁.system.IsWhole ∧
      s₁.system.Survives i { s'.system with cancelled := true } := by
    have hact : s.act env .cancel nodes = some { task := s.cancelAll, nodes } := rfl
    exact ⟨s.cancelAll, .of_act hact nofun hwhole, hwhole, h.cancel⟩
  cases a with
  | step => cases ha
  | elapse ms =>
    cases hact
    have hact : s.act env (.elapse ms) nodes = some
      { task := { s with system := { s.system with now := s.system.now + ms } }, nodes } := rfl
    exact ⟨_, .of_act hact nofun hwhole, hwhole, h.elapse ms⟩
  | cancel =>
    cases hact
    exact hcancel
  | stop =>
    rw [act] at hact
    split at hact
    · cases hact
      exact hcancel
    · cases hact
      exact hcancel
    · cases hact
  | join t =>
    obtain ⟨-, rfl⟩ := act_join_eq_some_iff.mp hact
    -- No task has broken down, so nothing is cancelled.
    have hunbroken : ¬(s'.stage = .running ∧ s'.system.isBroken t = true) := by
      rw [hwhole' t]
      simp
    refine ⟨s, .refl i s, hwhole, ?_⟩
    simpa only [join_eq, if_neg hunbroken] using h
  | finish =>
    refine ⟨s, .refl i s, hwhole, ?_⟩
    rw [act] at hact
    split at hact
    · split at hact
      · cases hact
        exact h
      · cases hact
        exact h
      · cases hact
    · cases hact

/-- Whatever happens after a watcher has come to leave, the others could have done it if the watcher
had taken no step. -/
theorem System.Survives.retells (h : s.system.Survives i s'.system)
    (hwired : s'.system.Wired r topology capacity watches) (hwhole : s.system.IsWhole)
    (hfollow : s'.follow env as' nodes = some (turns', s₁', nodes₁))
    (hwhole₁ : s₁'.system.IsWhole) :
    ∃ s₁, Retells i s (turns'.filter (Turn.isToldBeside i)) s₁ := by
  induction as' generalizing s s' nodes turns' with
  | nil =>
    cases hfollow
    exact ⟨s, .refl i s⟩
  | cons a as ih =>
    have hwhole' := isWhole_of_follow hfollow hwhole₁
    obtain ⟨o', hact, hfollow⟩ := Option.bind_eq_some_iff.mp hfollow
    obtain ⟨⟨turns, s'', nodes''⟩, hrest, ⟨⟩⟩ := Option.bind_eq_some_iff.mp hfollow
    have hwired' := hwired.change (changes_of_act hact)
    -- It is enough to tell the first turn and to go on.
    suffices hfirst : ∃ s₁,
        Retells i s ([s'.turnOf a o'].filter (Turn.isToldBeside i)) s₁ ∧
          s₁.system.IsWhole ∧ s₁.system.Survives i o'.task.system by
      obtain ⟨s₁, hfirst, hwhole, hsurvives⟩ := hfirst
      obtain ⟨s₂, hlater⟩ := ih hsurvives hwired' hwhole hrest
      refine ⟨s₂, ?_⟩
      rw [← List.singleton_append, List.filter_append]
      exact hfirst.trans hlater
    cases a with
    | elapse | cancel | join | finish | stop => exact h.exists_aside hact rfl hwhole hwhole'
    | step t notice =>
      exact h.exists_step hwired hact hwhole (isWhole_of_follow hrest hwhole₁)

end

/-! ### All together -/

/-- The failures of the watchers of a service do not matter to its other tasks. -/
structure IsolatesFailures (s₀ : Service χ) : Prop where
  /-- What is done in a run in which no task breaks down depends on the nodes only through their
  answers. -/
  plays : ∀ {σ : Type} (env : Environment χ σ) nodes₀ as turns s nodes,
    s₀.follow env as nodes₀ = some (turns, s, nodes) → s.system.IsWhole → s₀.Plays as turns s
  /-- Whenever a watcher asks its node, which for a poll it does when it is due, it may be answered
  with an error, and then it is leaving. -/
  fails : ∀ (s : Service χ) i w request e, s.system.IsWhole →
    s.system.watchers[i]? = some w → w.request? = some request →
    (∀ due, w.due? = some due → due ≤ s.system.now) →
      ∃ notice turn s', s.Plays [.step (.watcher i) notice] [turn] s' ∧
        callsAmong turn.happenings = [⟨w.watch.node, request, .error e⟩] ∧
        s'.system.isLeaving i = true
  /-- A watcher to which a node answers with an error, and which does not break down, is leaving. -/
  leaves : ∀ {σ : Type} (env : Environment χ σ) (s : Service χ) nodes i notice o,
    s.act env (.step (.watcher i) notice) nodes = some o → o.task.system.IsWhole →
    ∀ x e, .event (.exchange x) ∈ o.happenings → x.answer = .error e →
      o.task.system.isLeaving i = true
  /-- Whenever a step makes a watcher leave or end, everything that could be done next without a
  step of this watcher can still be done: the same tasks take the same turns, with the same calls,
  the same logs, and the same joins, and everybody else gets where he got before. -/
  ahead : ∀ as₀ turns₀ s i notice turn s', s₀.Plays as₀ turns₀ s →
    s.Plays [.step (.watcher i) notice] [turn] s' → s'.system.isLeaving i = true →
    ∀ as turns s₁, s.Plays as turns s₁ → IsSilent i as → s₁.system.IsWhole →
      ∃ as' w, as'.map Action.task? = as.map Action.task? ∧ w.isLeaving = true ∧
        s'.Plays as' turns (s₁.withWatcher i w)
  /-- And everything that the others do after this step, they could do without it: the other tasks
  take the same turns, until a reader ends because all watchers have ended. -/
  back : ∀ as₀ turns₀ s i notice turn s', s₀.Plays as₀ turns₀ s →
    s.Plays [.step (.watcher i) notice] [turn] s' → s'.system.isLeaving i = true →
    ∀ as' turns' s₁', s'.Plays as' turns' s₁' → s₁'.system.IsWhole →
      ∃ s₁, Retells i s (turns'.filter (Turn.isToldBeside i)) s₁

/-- An environment in which every question is answered with an error. -/
def refusing (e : ClientError) : Environment χ Unit where
  answer _ _ _ := (.error e, ())

theorem Watcher.exists_step_refusing {w : Watcher χ} {request : Request} {now : Nat}
    {cancelled : Bool} {q : Queue} (e : ClientError) (hrequest : w.request? = some request)
    (hdue : ∀ due, w.due? = some due → due ≤ now) :
    ∃ o, w.step (refusing e) now cancelled .later q () = some o ∧
      callsAmong o.happenings = [⟨w.watch.node, request, .error e⟩] ∧
      o.task.1.isLeaving = true := by
  cases hphase : w.phase with
  | installing =>
    rw [request?, hphase] at hrequest
    cases hrequest
    exact ⟨w.install (refusing e) now q (), by simp only [step, hphase], rfl, rfl⟩
  | waiting filter due =>
    rw [request?, hphase] at hrequest
    cases hrequest
    have hnow : ¬now < due := Nat.not_lt.mpr (hdue due (by rw [due?, hphase]))
    refine ⟨w.poll (refusing e) now filter due q (), ?_, rfl, rfl⟩
    simp [step, hphase, hnow]
  | uninstalling filter result =>
    rw [request?, hphase] at hrequest
    cases hrequest
    refine ⟨w.uninstall (refusing e) filter result q (), by simp only [step, hphase], ?_, rfl⟩
    cases result <;> rfl
  | forwarding | ended | broken =>
    rw [request?, hphase] at hrequest
    cases hrequest

theorem exists_plays_of_error {s : Service χ} {i : Nat} {w : Watcher χ} {request : Request}
    (e : ClientError) (hwhole : s.system.IsWhole) (hw : s.system.watchers[i]? = some w)
    (hrequest : w.request? = some request)
    (hdue : ∀ due, w.due? = some due → due ≤ s.system.now) :
    ∃ notice turn s', s.Plays [.step (.watcher i) notice] [turn] s' ∧
      callsAmong turn.happenings = [⟨w.watch.node, request, .error e⟩] ∧
      s'.system.isLeaving i = true := by
  obtain ⟨o, hmove, hcalls, hleaving⟩ := Watcher.exists_step_refusing e hrequest hdue
  have hstep := System.step_watcher_eq_some_iff.mpr ⟨w, o, hw, hmove, rfl⟩
  have hact := congrArg (Option.map fun o : Outcome χ Unit (System χ) =>
    o.map fun system => { s with system }) hstep
  have hi := (List.getElem?_eq_some_iff.mp hw).1
  have hleaves : System.isLeaving { s.system with
      watchers := s.system.watchers.set i o.task.1, shared := o.task.2 } i = true := by
    simpa [System.isLeaving, hi] using hleaving
  obtain ⟨w', hw', heq⟩ := System.eq_withWatcher_of_step hstep hleaves
  have hwhole' : (s.system.withWatcher i w').IsWhole := hwhole.withWatcher hw'
  rw [← heq] at hwhole'
  exact ⟨.later, _, _, .cons hact hwhole' (.refl _), hcalls, hleaves⟩

theorem Plays.exists_act {s s' : Service χ} {a : Action} {turn : Turn χ}
    (h : s.Plays [a] [turn] s') :
    ∃ nodes, ∃ o : Outcome χ (List (Exchange χ)) (Service χ),
      s.act .replay a nodes = some o ∧ o.task = s' := by
  obtain ⟨o, hact, h⟩ := Option.bind_eq_some_iff.mp (h [])
  obtain ⟨⟨turns, s₁, nodes₁⟩, hrest, heq⟩ := Option.bind_eq_some_iff.mp h
  cases hrest
  exact ⟨_, o, hact, congrArg (fun x => x.2.1) (Option.some.inj heq)⟩

/-- A step that makes a watcher leave is seen in nothing but the watcher. -/
theorem Plays.exists_withWatcher {s s' : Service χ} {i : Nat} {notice : Notice} {turn : Turn χ}
    (h : s.Plays [.step (.watcher i) notice] [turn] s') (hleaving : s'.system.isLeaving i = true) :
    s.system.isFinished (.watcher i) = false ∧
      ∃ w, w.isLeaving = true ∧ s' = s.withWatcher i w := by
  obtain ⟨nodes, o, hact, rfl⟩ := h.exists_act
  obtain ⟨o', hstep, rfl⟩ := Option.map_eq_some_iff.mp hact
  obtain ⟨w, hw, heq⟩ := System.eq_withWatcher_of_step hstep hleaving
  refine ⟨(System.moves_of_step hstep).isFinished_eq, w, hw, ?_⟩
  simp only [withWatcher, heq]

theorem isolatesFailures_launch (r : Relayer χ) (topology : Topology) (capacity period : Nat)
    (outboxes : List (ChainId × Address × χ)) :
    IsolatesFailures (launch r topology capacity period outboxes) where
  plays env nodes₀ as turns s nodes hfollow hwhole := plays_of_follow hfollow hwhole
  fails s i w request e hwhole hw hrequest hdue :=
    exists_plays_of_error e hwhole hw hrequest hdue
  leaves env s nodes i notice o hact hwhole x e hmem herror := by
    obtain ⟨o', hstep, rfl⟩ := Option.map_eq_some_iff.mp hact
    obtain ⟨w, o, hw, hmove, rfl⟩ := System.step_watcher_eq_some_iff.mp hstep
    have hi := (List.getElem?_eq_some_iff.mp hw).1
    have hunbroken : o.task.1.isBroken = false := by
      simpa [System.isBroken, Outcome.map, hi] using hwhole (.watcher i)
    have hleaving := (Watcher.moves_of_step hmove).isLeaving_of_error hunbroken hmem herror
    simpa [System.isLeaving, Outcome.map, hi] using hleaving
  ahead as₀ turns₀ s i notice turn s' hbefore hstep hleaving as turns s₁ hplays hsilent hwhole := by
    obtain ⟨hi, w, hw, rfl⟩ := hstep.exists_withWatcher hleaving
    obtain ⟨as', htasks, hplays'⟩ := plays_withWatcher hw (hplays []) hsilent hwhole hi
    exact ⟨as', w, htasks, hw, hplays'⟩
  back as₀ turns₀ s i notice turn s' hbefore hstep hleaving as' turns' s₁' hplays hwhole := by
    have hwired := wired_of_reaches (.of_follow .start ((hbefore.append hstep) []))
    obtain ⟨nodes, o, hact, rfl⟩ := hstep.exists_act
    obtain ⟨-, w, hw, heq⟩ := hstep.exists_withWatcher hleaving
    have hwhole' := isWhole_of_follow (hplays []) hwhole
    have hsurvives : s.system.Survives i o.task.system := .beside w hw (congrArg system heq)
    exact hsurvives.retells hwired (hwhole'.of_changes (changes_of_act hact)) (hplays []) hwhole

/-- A service is brought down by nothing but a task that has broken down, and its watchers fail
alone. -/
theorem supervised_and_isolated (env : Environment χ σ) (r : Relayer χ) (topology : Topology)
    (capacity period : Nat) (outboxes : List (ChainId × Address × χ)) (nodes₀ : σ) :
    IsSupervised env (launch r topology capacity period outboxes) nodes₀ ∧
      IsolatesFailures (launch r topology capacity period outboxes) :=
  ⟨isSupervised_launch env r topology capacity period outboxes nodes₀,
    isolatesFailures_launch r topology capacity period outboxes⟩

end Service

end CrossCall
