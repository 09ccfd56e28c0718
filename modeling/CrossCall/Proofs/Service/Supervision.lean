import Mathlib
import CrossCall.Proofs.Service.Calm

/-!
# What the supervisor does

The supervisor of the service joins the tasks in the order in which they end. As long as no task
breaks down it does not cancel the others, however many of them fail, and it returns after it has
joined all of them. A task that has broken down ends this: it returns with an error at the first
such task that it joins, after it has cancelled the others. When it is told to stop, it cancels all
tasks first and then joins what is left, whatever has become of it.

A task that has ended takes no more steps, so that what was true of it when it was joined stays
true.

## Main definitions

* `Service.IsTended` — what the supervisor knows of the tasks, by its stage
* `Service.IsSupervised` — the laws of the supervisor

## Main results

* `System.Changes.eq_of_isFinished` — a task that has ended stays as it is
* `Service.IsTended.act` — every action keeps what the supervisor knows
* `Service.isSupervised_launch` — a service keeps these laws from its launch on
-/

namespace CrossCall

variable {χ σ : Type}

namespace Service

/-! ### Tasks that have ended -/

namespace System

variable {env : Environment χ σ} {notice : Notice} {s s' : System χ} {nodes nodes' : σ}
  {t t' : TaskId} {o : Outcome χ σ (System χ)} {turn : Turn χ}

/-- Only a task that has not ended moves. -/
theorem Moves.isFinished_eq (h : System.Moves env notice s nodes t o) :
    s.isFinished t = false := by
  cases h with
  | watcher watcher step =>
    simpa [isFinished, watcher] using (Watcher.moves_of_step step).isFinished_eq
  | router consumers move => simpa [isFinished, consumers] using move.isFinished_eq
  | worker consumers move => simpa [isFinished, consumers] using move.isFinished_eq
  | laneWorker consumers lane_eq move =>
    simpa [isFinished, consumers, lane_eq] using move.isFinished_eq

/-- How far a consumer has come does not depend on the watchers. -/
theorem eq_of_consumers_eq (hconsumers : s'.consumers = s.consumers) (ht : ∀ i, t ≠ .watcher i) :
    s'.isFinished t = s.isFinished t ∧ s'.isBroken t = s.isBroken t := by
  cases t with
  | watcher i => exact absurd rfl (ht i)
  | router | worker | laneWorker =>
    cases hs : s.consumers <;> simp [isFinished, isBroken, hconsumers, hs]

/-- A move of a task leaves the others where they are. -/
theorem Moves.eq_of_ne (h : System.Moves env notice s nodes t o) (hne : t' ≠ t) :
    o.task.isFinished t' = s.isFinished t' ∧ o.task.isBroken t' = s.isBroken t' := by
  cases h with
  | @watcher i =>
    cases t' with
    | watcher j =>
      have hij : i ≠ j := fun h => hne (h ▸ rfl)
      simp [isFinished, isBroken, List.getElem?_set_ne hij]
    | router | worker | laneWorker => exact eq_of_consumers_eq rfl (by simp)
  | router consumers move =>
    cases t' with
    | laneWorker j =>
      have hworker := congrArg (fun ws : List (Worker χ) => ws[j]?) move.map_worker_eq
      simp only [List.getElem?_map] at hworker
      have hfinished := congrArg (Option.any Worker.isFinished) hworker
      have hbroken := congrArg (Option.any Worker.isBroken) hworker
      rw [Option.any_map, Option.any_map] at hfinished hbroken
      simpa only [isFinished, isBroken, consumers] using And.intro hfinished hbroken
    | router => exact absurd rfl hne
    | watcher | worker => simp [isFinished, isBroken, consumers]
  | worker consumers =>
    cases t' with
    | worker => exact absurd rfl hne
    | watcher | router | laneWorker => simp [isFinished, isBroken, consumers]
  | @laneWorker i router lanes lane o consumers =>
    cases t' with
    | laneWorker j =>
      have hij : i ≠ j := fun h => hne (h ▸ rfl)
      simp [isFinished, isBroken, consumers, List.getElem?_set_ne hij]
    | watcher | router | worker => simp [isFinished, isBroken, consumers]

/-- A task that has ended stays as it is. -/
theorem Changes.eq_of_isFinished (h : System.Changes env s nodes turn s' nodes')
    (hfinished : s.isFinished t = true) :
    s'.isFinished t = true ∧ s'.isBroken t = s.isBroken t := by
  cases h with
  | aside => exact ⟨hfinished, rfl⟩
  | @stepped t' notice o move =>
    have hne : t ≠ t' := by
      rintro rfl
      rw [move.isFinished_eq] at hfinished
      cases hfinished
    obtain ⟨hsame, hbroken⟩ := move.eq_of_ne hne
    exact ⟨hsame.trans hfinished, hbroken⟩

/-- There are always the same tasks. -/
theorem Changes.taskIds_eq (h : System.Changes env s nodes turn s' nodes') :
    s'.taskIds = s.taskIds := by
  cases h with
  | aside => rfl
  | stepped move =>
    cases move with
    | watcher => simp [taskIds]
    | worker consumers => simp [taskIds, consumers]
    | router consumers move =>
      have hlength := congrArg List.length move.map_worker_eq
      rw [List.length_map, List.length_map] at hlength
      simp [taskIds, consumers, hlength]
    | laneWorker consumers => simp [taskIds, consumers]

/-- A cancellation is not taken back. -/
theorem Changes.cancelled_of_cancelled (h : System.Changes env s nodes turn s' nodes')
    (hcancelled : s.cancelled = true) : s'.cancelled = true := by
  cases h with
  | aside kept => exact kept hcancelled
  | stepped move =>
    cases move with
    | watcher | router | worker | laneWorker => exact hcancelled

end System

end Service

namespace Service

variable {env : Environment χ σ} {s s' s₀ : Service χ} {nodes nodes' nodes₀ : σ} {a : Action}
  {o : Outcome χ σ (Service χ)} {turn : Turn χ} {turns : List (Turn χ)} {t : TaskId}

/-! ### Joining tasks -/

theorem allJoined_iff : s.allJoined = true ↔ ∀ t ∈ s.system.taskIds, t ∈ s.joined := by
  simp [allJoined]

/-- A task that has broken down ends the running of the service, and any other is only noted. -/
theorem join_eq (s : Service χ) (t : TaskId) :
    (s.join t).1 =
      if s.stage = .running ∧ s.system.isBroken t = true then
        (cancelAll { s with joined := t :: s.joined }).moveTo (.returned true)
      else { s with joined := t :: s.joined } := by
  rw [join]
  cases hstage : s.stage <;> cases hbroken : s.system.isBroken t <;> simp

/-- When a task can be joined, and what comes of it. -/
theorem act_join_eq_some_iff :
    s.act env (.join t) nodes = some o ↔
      (s.isWaiting = true ∧ t ∈ s.system.taskIds ∧ t ∉ s.joined ∧ s.system.isFinished t = true) ∧
        o = { task := (s.join t).1, nodes, happenings := (s.join t).2 } := by
  rw [act, Option.ite_none_right_eq_some, Option.some.injEq]
  exact and_congr_right fun _ => eq_comm

/-- What the supervisor knows of the tasks, by its stage. -/
structure IsTended (s : Service χ) : Prop where
  finished : ∀ t ∈ s.joined, s.system.isFinished t = true
  running : s.stage = .running → ∀ t ∈ s.joined, s.system.isBroken t = false
  returned : s.stage = .returned false →
    s.allJoined = true ∧ ∀ t ∈ s.joined, s.system.isBroken t = false
  failed : s.stage = .returned true → s.system.cancelled = true ∧
    ∃ t joined, s.joined = t :: joined ∧ s.system.isBroken t = true ∧
      ∀ t' ∈ joined, s.system.isBroken t' = false
  stopping : s.stage = .stopping ∨ s.stage = .stopped → s.system.cancelled = true
  stopped : s.stage = .stopped → s.allJoined = true

namespace IsTended

/-- While the supervisor stays where it is, it knows the same of the tasks. -/
theorem change (h : s.IsTended) (hstage : s'.stage = s.stage) (hjoined : s'.joined = s.joined)
    (hchange : System.Changes env s.system nodes turn s'.system nodes') : s'.IsTended := by
  have hall : s'.allJoined = s.allJoined := by
    rw [allJoined, allJoined, hchange.taskIds_eq, hjoined]
  -- All tasks that were joined have ended, and stay as they are.
  have hsame : ∀ t ∈ s.joined, s'.system.isBroken t = s.system.isBroken t :=
    fun t ht => (hchange.eq_of_isFinished (h.finished t ht)).2
  refine ⟨?_, ?_, ?_, ?_, ?_, ?_⟩
  · rw [hjoined]
    exact fun t ht => (hchange.eq_of_isFinished (h.finished t ht)).1
  · rw [hstage, hjoined]
    exact fun hrunning t ht => (hsame t ht).trans (h.running hrunning t ht)
  · rw [hstage, hall, hjoined]
    exact fun hreturned => ⟨(h.returned hreturned).1,
      fun t ht => (hsame t ht).trans ((h.returned hreturned).2 t ht)⟩
  · rw [hstage, hjoined]
    intro hfailed
    obtain ⟨hcancelled, t, joined, hcons, hbroken, hrest⟩ := h.failed hfailed
    rw [hcons] at hsame
    refine ⟨hchange.cancelled_of_cancelled hcancelled, t, joined, hcons, ?_, fun t' ht' => ?_⟩
    · rw [hsame t List.mem_cons_self, hbroken]
    · rw [hsame t' (List.mem_cons_of_mem _ ht'), hrest t' ht']
  · rw [hstage]
    exact fun hstopping => hchange.cancelled_of_cancelled (h.stopping hstopping)
  · rw [hstage, hall]
    exact h.stopped

/-- Joining a task adds to what the supervisor knows. -/
theorem join (h : s.IsTended) (hwaiting : s.isWaiting = true)
    (hfinished : s.system.isFinished t = true) : (s.join t).1.IsTended := by
  have hjoined : ∀ t' ∈ t :: s.joined, s.system.isFinished t' = true := by
    intro t' ht'
    rcases List.mem_cons.mp ht' with rfl | ht'
    · exact hfinished
    · exact h.finished t' ht'
  rw [join_eq]
  by_cases hfails : s.stage = .running ∧ s.system.isBroken t = true
  · -- It is the first that has broken down, since the service was still running.
    rw [if_pos hfails]
    refine ⟨hjoined, nofun, nofun, ?_, ?_, nofun⟩
    · exact fun _ => ⟨rfl, t, s.joined, rfl, hfails.2, h.running hfails.1⟩
    · exact fun _ => rfl
  · rw [if_neg hfails]
    rw [isWaiting] at hwaiting
    refine ⟨hjoined, fun hrunning t' ht' => ?_, fun hstage => ?_, fun hstage => ?_, h.stopping,
      fun hstage => ?_⟩
    · rcases List.mem_cons.mp ht' with rfl | ht'
      · rw [Bool.eq_false_iff]
        exact fun hbroken => hfails ⟨hrunning, hbroken⟩
      · exact h.running hrunning t' ht'
    all_goals
      -- The supervisor does not wait for tasks any more.
      rw [show s.stage = _ from hstage] at hwaiting
      cases hwaiting

/-- Every action keeps what the supervisor knows. -/
theorem act (h : s.IsTended) (hact : s.act env a nodes = some o) : o.task.IsTended := by
  have hchange := changes_of_act hact
  cases a with
  | step t notice =>
    obtain ⟨o', hstep, rfl⟩ := Option.map_eq_some_iff.mp hact
    exact h.change rfl rfl hchange
  | elapse | cancel =>
    cases hact
    exact h.change rfl rfl hchange
  | join t =>
    obtain ⟨⟨hwaiting, -, -, hfinished⟩, rfl⟩ := act_join_eq_some_iff.mp hact
    exact h.join hwaiting hfinished
  | finish =>
    rw [Service.act] at hact
    split at hact
    · rename_i hall
      split at hact
      · rename_i hrunning
        cases hact
        refine ⟨h.finished, ?_, fun _ => ⟨hall, h.running hrunning⟩, ?_, ?_, ?_⟩
        all_goals simp [moveTo]
      · rename_i hstopping
        cases hact
        refine ⟨h.finished, ?_, ?_, ?_, fun _ => h.stopping (.inl hstopping), fun _ => hall⟩
        all_goals simp [moveTo]
      · cases hact
    · cases hact
  | stop =>
    rw [Service.act] at hact
    split at hact
    · cases hact
      refine ⟨h.finished, ?_, ?_, ?_, fun _ => rfl, ?_⟩
      all_goals simp [moveTo]
    · cases hact
      refine ⟨h.finished, ?_, ?_, ?_, fun _ => rfl, ?_⟩
      all_goals simp [moveTo]
    · cases hact

theorem of_reaches (hstart : s₀.IsTended) (h : Reaches env s₀ nodes₀ turns s nodes) :
    s.IsTended := by
  induction h with
  | start => exact hstart
  | act before action ih => exact ih.act action

/-- Before the first action no task has been joined. -/
theorem launch (r : Relayer χ) (topology : Topology) (capacity period : Nat)
    (outboxes : List (ChainId × Address × χ)) :
    (launch r topology capacity period outboxes).IsTended :=
  ⟨nofun, fun _ => nofun, nofun, nofun, nofun, nofun⟩

end IsTended

/-! ### Cancelling tasks -/

/-- What is whole at the end of a sequence of actions has been whole before. -/
theorem isWhole_of_follow {as : List Action} (h : s.follow env as nodes = some (turns, s', nodes'))
    (hwhole : s'.system.IsWhole) : s.system.IsWhole := by
  induction as generalizing s nodes turns with
  | nil =>
    cases h
    exact hwhole
  | cons a as ih =>
    obtain ⟨o, hact, h⟩ := Option.bind_eq_some_iff.mp h
    obtain ⟨⟨turns', s'', nodes''⟩, hrest, ⟨⟩⟩ := Option.bind_eq_some_iff.mp h
    exact (ih hrest).of_changes (changes_of_act hact)

/-- While no task has broken down, nobody but who is asked to cancels the tasks. -/
theorem cancelled_eq_of_act (hact : s.act env a nodes = some o) (hwhole : s.system.IsWhole)
    (hcancel : a ≠ .cancel) (hstop : a ≠ .stop) : o.task.system.cancelled = s.system.cancelled := by
  cases a with
  | cancel => exact absurd rfl hcancel
  | stop => exact absurd rfl hstop
  | elapse =>
    cases hact
    rfl
  | step t notice =>
    obtain ⟨o', hstep, rfl⟩ := Option.map_eq_some_iff.mp hact
    have hmove := System.moves_of_step hstep
    cases hmove with
    | watcher | router | worker | laneWorker => rfl
  | join t =>
    obtain ⟨-, rfl⟩ := act_join_eq_some_iff.mp hact
    -- Only a task that has broken down makes the service cancel the others.
    have hwhole : ¬(s.stage = .running ∧ s.system.isBroken t = true) := by
      rw [hwhole t]
      simp
    simp only [join_eq, if_neg hwhole]
  | finish =>
    rw [act] at hact
    split at hact
    · split at hact
      · cases hact
        rfl
      · cases hact
        rfl
      · cases hact
    · cases hact

theorem cancelled_eq_of_follow {as : List Action}
    (h : s.follow env as nodes = some (turns, s', nodes')) (hwhole : s'.system.IsWhole)
    (hcancel : .cancel ∉ as) (hstop : .stop ∉ as) : s'.system.cancelled = s.system.cancelled := by
  induction as generalizing s nodes turns with
  | nil =>
    cases h
    rfl
  | cons a as ih =>
    have hwhole₀ := isWhole_of_follow h hwhole
    obtain ⟨o, hact, h⟩ := Option.bind_eq_some_iff.mp h
    obtain ⟨⟨turns', s'', nodes''⟩, hrest, ⟨⟩⟩ := Option.bind_eq_some_iff.mp h
    rw [List.mem_cons, not_or] at hcancel hstop
    rw [ih hrest hcancel.2 hstop.2, cancelled_eq_of_act hact hwhole₀ (Ne.symm hcancel.1)
      (Ne.symm hstop.1)]

/-! ### All together -/

/-- The laws of the supervisor of a service. -/
structure IsSupervised (env : Environment χ σ) (s₀ : Service χ) (nodes₀ : σ) : Prop where
  /-- As long as no task has broken down, the service does not cancel its tasks unless it is told
  to. -/
  going : ∀ as turns s nodes, s₀.follow env as nodes₀ = some (turns, s, nodes) →
    .cancel ∉ as → .stop ∉ as → s.system.IsWhole → s.system.cancelled = false
  /-- A running service joins any task that has ended. If it has broken down, the service cancels
  the others and returns with an error, and otherwise it goes on. -/
  joins : ∀ (s : Service χ) (nodes : σ) t, s.stage = .running → t ∈ s.system.taskIds →
    t ∉ s.joined → s.system.isFinished t = true → ∃ o, s.act env (.join t) nodes = some o ∧
      o.task.joined = t :: s.joined ∧
      (s.system.isBroken t = true →
        o.task.stage = .returned true ∧ o.task.system.cancelled = true) ∧
      (s.system.isBroken t = false → o.task.stage = .running ∧ o.task.system = s.system)
  /-- No task that a running service has joined has broken down. -/
  running : ∀ turns s nodes, Reaches env s₀ nodes₀ turns s nodes → s.stage = .running →
    ∀ t ∈ s.joined, s.system.isBroken t = false
  /-- When the service returns without an error, all tasks have ended, and none has broken down. -/
  returned : ∀ turns s nodes, Reaches env s₀ nodes₀ turns s nodes → s.stage = .returned false →
    ∀ t ∈ s.system.taskIds, s.system.isFinished t = true ∧ s.system.isBroken t = false
  /-- When the service returns with an error, the tasks are cancelled, and the last task that was
  joined is the first of them that has broken down. -/
  failed : ∀ turns s nodes, Reaches env s₀ nodes₀ turns s nodes → s.stage = .returned true →
    s.system.cancelled = true ∧ ∃ t joined, s.joined = t :: joined ∧
      s.system.isBroken t = true ∧ ∀ t' ∈ joined, s.system.isBroken t' = false
  /-- A service that is told to stop cancels all tasks. -/
  stops : ∀ (s : Service χ) (nodes : σ),
    s.stage = .running ∨ (∃ failed, s.stage = .returned failed) →
    ∃ o, s.act env .stop nodes = some o ∧ o.task.stage = .stopping ∧
      o.task.system.cancelled = true
  /-- While it stops it joins any task that has ended, in whatever way, and goes on. -/
  stopping : ∀ (s : Service χ) (nodes : σ) t, s.stage = .stopping → t ∈ s.system.taskIds →
    t ∉ s.joined → s.system.isFinished t = true → ∃ o, s.act env (.join t) nodes = some o ∧
      o.task = { s with joined := t :: s.joined }
  /-- It returns as soon as it has joined all tasks. -/
  finishes : ∀ (s : Service χ) (nodes : σ), (∀ t ∈ s.system.taskIds, t ∈ s.joined) →
    (s.stage = .running → ∃ o, s.act env .finish nodes = some o ∧
      o.task = s.moveTo (.returned false)) ∧
    (s.stage = .stopping → ∃ o, s.act env .finish nodes = some o ∧ o.task = s.moveTo .stopped)
  /-- A service that stops or has stopped has cancelled its tasks. -/
  cancelled : ∀ turns s nodes, Reaches env s₀ nodes₀ turns s nodes →
    s.stage = .stopping ∨ s.stage = .stopped → s.system.cancelled = true
  /-- When it has stopped, all tasks have ended. -/
  stopped : ∀ turns s nodes, Reaches env s₀ nodes₀ turns s nodes → s.stage = .stopped →
    ∀ t ∈ s.system.taskIds, s.system.isFinished t = true

theorem isSupervised_launch (env : Environment χ σ) (r : Relayer χ) (topology : Topology)
    (capacity period : Nat) (outboxes : List (ChainId × Address × χ)) (nodes₀ : σ) :
    IsSupervised env (launch r topology capacity period outboxes) nodes₀ := by
  have htended : ∀ {turns s nodes},
      Reaches env (launch r topology capacity period outboxes) nodes₀ turns s nodes →
      s.IsTended := IsTended.of_reaches (.launch r topology capacity period outboxes)
  -- What has been joined has ended.
  have hall : ∀ {s : Service χ}, s.IsTended → s.allJoined = true →
      ∀ t ∈ s.system.taskIds, t ∈ s.joined ∧ s.system.isFinished t = true :=
    fun h hjoined t ht => ⟨allJoined_iff.mp hjoined t ht,
      h.finished t (allJoined_iff.mp hjoined t ht)⟩
  refine
    { going := fun as turns s nodes h hcancel hstop hwhole =>
        cancelled_eq_of_follow h hwhole hcancel hstop
      joins := fun s nodes t hrunning hid hjoined hfinished => ?_
      running := fun turns s nodes h => (htended h).running
      returned := fun turns s nodes h hreturned t ht => ?_
      failed := fun turns s nodes h => (htended h).failed
      stops := fun s nodes hstage => ?_
      stopping := fun s nodes t hstopping hid hjoined hfinished => ?_
      finishes := fun s nodes hjoined => ?_
      cancelled := fun turns s nodes h => (htended h).stopping
      stopped := fun turns s nodes h hstopped t ht =>
        (hall (htended h) ((htended h).stopped hstopped) t ht).2 }
  · have hwaiting : s.isWaiting = true := by rw [isWaiting, hrunning]
    refine ⟨_, act_join_eq_some_iff.mpr ⟨⟨hwaiting, hid, hjoined, hfinished⟩, rfl⟩, ?_⟩
    rw [join_eq]
    cases hbroken : s.system.isBroken t with
    | true => simp [hrunning, moveTo, cancelAll]
    | false => simp [hrunning]
  · obtain ⟨hmem, hfinished⟩ := hall (htended h) ((htended h).returned hreturned).1 t ht
    exact ⟨hfinished, ((htended h).returned hreturned).2 t hmem⟩
  · rcases hstage with hstage | ⟨failed, hstage⟩
    · exact ⟨_, by rw [act, hstage], rfl, rfl⟩
    · exact ⟨_, by rw [act, hstage], rfl, rfl⟩
  · have hwaiting : s.isWaiting = true := by rw [isWaiting, hstopping]
    refine ⟨_, act_join_eq_some_iff.mpr ⟨⟨hwaiting, hid, hjoined, hfinished⟩, rfl⟩, ?_⟩
    rw [join_eq, if_neg (by simp [hstopping])]
  · have hallJoined := allJoined_iff.mpr hjoined
    constructor
    · intro hstage
      exact ⟨_, by rw [act, if_pos hallJoined, hstage], rfl⟩
    · intro hstage
      exact ⟨_, by rw [act, if_pos hallJoined, hstage], rfl⟩

end Service

end CrossCall
