import Mathlib
import CrossCall.Proofs.Service.Wiring

/-!
# Runs that nothing interrupts

A task that has broken down stays so, and a cancellation is not taken back. A state in which nothing
is cancelled and no task has broken down is therefore reached through such states only. In them a
task ends only after all that write to it have ended, so nobody is turned away.

## Main definitions

* `System.IsWhole` — no task has broken down
* `System.IsCalm` — nothing is cancelled either
* `System.IsAttended` — who ends, ends after those that write to it

## Main results

* `System.IsWhole.of_changes`, `System.IsCalm.of_changes` — what is calm was calm before
* `System.IsAttended.of_reaches` — calm states are attended
-/

namespace CrossCall.Service

variable {χ σ : Type}

/-! ### Who moves -/

/-- Only a worker that has not ended moves. -/
theorem Worker.Moves.isFinished_eq {env : Environment χ σ} {r : Relayer χ} {cancelled : Bool}
    {q : Queue} {nodes : σ} {w : Worker χ} {o : Outcome χ σ (Worker χ × Queue)}
    (h : w.Moves env r cancelled q nodes o) : w.isFinished = false := by
  cases h <;> rfl

/-- The router leaves the workers of the lanes alone. -/
theorem Router.Moves.map_worker_eq {cancelled : Bool} {routes : Routes χ} {nodes : σ}
    {router : Router} {o : Outcome χ σ (Router × Routes χ)}
    (h : router.Moves cancelled routes nodes o) :
    o.task.2.lanes.map (·.worker) = routes.lanes.map (·.worker) := by
  cases h with
  | closed | stopped =>
    simp [Routes.leave]
  | unrouted | routed | lost | abandoned => rfl
  | delivered =>
    simp only [Routes.setQueue, List.map_map]
    refine List.map_congr_left fun lane _ => ?_
    simp only [Function.comp_apply]
    split <;> rfl

theorem Watcher.isFinished_of_isBroken {w : Watcher χ} (h : w.isBroken = true) :
    w.isFinished = true := by
  rw [isBroken] at h
  rw [isFinished]
  split at h
  · rename_i hphase
    rw [hphase]
  · cases h

theorem Worker.isFinished_of_isBroken {w : Worker χ} (h : w.isBroken = true) :
    w.isFinished = true := by
  cases w with
  | broken => rfl
  | waiting | handling | ended => cases h

/-! ### Whole and calm states -/

/-- The workers among the consumers. -/
def Consumers.workers : Consumers χ → List (Worker χ)
  | single worker => [worker]
  | perDestination _ lanes => lanes.map (·.worker)

/-- No task has broken down. -/
def System.IsWhole (s : System χ) : Prop := ∀ t, s.isBroken t = false

/-- Nothing is cancelled, and no task has broken down. -/
structure System.IsCalm (s : System χ) : Prop where
  going : s.cancelled = false
  whole : s.IsWhole

theorem System.isWhole_iff {s : System χ} :
    s.IsWhole ↔ (∀ w ∈ s.watchers, w.isBroken = false) ∧
      ∀ w ∈ s.consumers.workers, w.isBroken = false := by
  constructor
  · intro h
    constructor
    · intro w hw
      obtain ⟨i, hi⟩ := List.mem_iff_getElem?.mp hw
      simpa [isBroken, hi] using h (.watcher i)
    · intro w hw
      cases hconsumers : s.consumers with
      | single worker =>
        rw [hconsumers, Consumers.workers] at hw
        simpa [isBroken, hconsumers, List.mem_singleton.mp hw] using h .worker
      | perDestination router lanes =>
        rw [hconsumers, Consumers.workers] at hw
        obtain ⟨lane, hlane, rfl⟩ := List.mem_map.mp hw
        obtain ⟨i, hi⟩ := List.mem_iff_getElem?.mp hlane
        simpa [isBroken, hconsumers, hi] using h (.laneWorker i)
  · rintro ⟨hwatchers, hworkers⟩ t
    rw [Bool.eq_false_iff]
    intro hbroken
    cases hconsumers : s.consumers with
    | single worker =>
      rw [hconsumers] at hworkers
      cases t with
      | watcher i =>
        obtain ⟨w, hw, hbroken⟩ := (Option.any_eq_true _ _).mp hbroken
        rw [hwatchers w (List.mem_of_getElem? hw)] at hbroken
        cases hbroken
      | worker =>
        simp [isBroken, hconsumers, hworkers worker (List.mem_singleton_self _)] at hbroken
      | router | laneWorker =>
        simp [isBroken, hconsumers] at hbroken
    | perDestination router lanes =>
      rw [hconsumers] at hworkers
      cases t with
      | watcher i =>
        obtain ⟨w, hw, hbroken⟩ := (Option.any_eq_true _ _).mp hbroken
        rw [hwatchers w (List.mem_of_getElem? hw)] at hbroken
        cases hbroken
      | laneWorker i =>
        simp only [isBroken, hconsumers] at hbroken
        obtain ⟨lane, hlane, hbroken⟩ := (Option.any_eq_true _ _).mp hbroken
        rw [hworkers lane.worker (List.mem_map_of_mem (List.mem_of_getElem? hlane))] at hbroken
        cases hbroken
      | router | worker =>
        simp [isBroken, hconsumers] at hbroken

/-- Replacing an element that does not have a property does not take the property from another. -/
theorem forall_mem_of_forall_mem_set {α : Type} {p : α → Prop} {as : List α} {i : Nat} {a b : α}
    (ha : as[i]? = some a) (hp : p a) (h : ∀ x ∈ as.set i b, p x) : ∀ x ∈ as, p x := by
  intro x hx
  obtain ⟨j, hj⟩ := List.mem_iff_getElem?.mp hx
  by_cases hij : i = j
  · subst hij
    rw [ha] at hj
    exact Option.some.inj hj ▸ hp
  · refine h x (List.mem_iff_getElem?.mpr ⟨j, ?_⟩)
    rwa [List.getElem?_set_ne hij]

variable {env : Environment χ σ} {s s' : System χ} {nodes nodes' : σ} {turn : Turn χ}

/-- What is whole has been whole before. -/
theorem System.IsWhole.of_changes (h : s'.IsWhole)
    (hchange : System.Changes env s nodes turn s' nodes') : s.IsWhole := by
  rw [System.isWhole_iff] at h ⊢
  obtain ⟨hwatchers, hworkers⟩ := h
  have hworker : ∀ {w : Worker χ}, w.isFinished = false → w.isBroken = false := by
    intro w hw
    rw [Bool.eq_false_iff] at hw ⊢
    exact mt Worker.isFinished_of_isBroken hw
  cases hchange with
  | aside => exact ⟨hwatchers, hworkers⟩
  | stepped move =>
    cases move with
    | @watcher i w o hw step =>
      have hgoing : w.isBroken = false := by
        rw [Bool.eq_false_iff]
        exact mt Watcher.isFinished_of_isBroken
          (Bool.eq_false_iff.mp (Watcher.moves_of_step step).isFinished_eq)
      exact ⟨forall_mem_of_forall_mem_set hw hgoing hwatchers, hworkers⟩
    | worker consumers move =>
      refine ⟨hwatchers, ?_⟩
      rw [consumers]
      intro w hw
      rw [List.mem_singleton.mp hw]
      exact hworker move.isFinished_eq
    | router consumers move =>
      refine ⟨hwatchers, ?_⟩
      have hmap := move.map_worker_eq
      simp only [Consumers.workers, hmap] at hworkers
      rw [consumers]
      exact hworkers
    | laneWorker consumers lane_eq move =>
      refine ⟨hwatchers, ?_⟩
      simp only [Consumers.workers, List.map_set] at hworkers
      rw [consumers]
      have hlane := congrArg (Option.map (·.worker)) lane_eq
      rw [← List.getElem?_map] at hlane
      exact forall_mem_of_forall_mem_set hlane (hworker move.isFinished_eq) hworkers

/-- What is calm has been calm before. -/
theorem System.IsCalm.of_changes (h : s'.IsCalm)
    (hchange : System.Changes env s nodes turn s' nodes') : s.IsCalm := by
  refine ⟨?_, h.whole.of_changes hchange⟩
  rw [Bool.eq_false_iff]
  intro hcancelled
  have hgoing := h.going
  cases hchange with
  | aside kept =>
    rw [kept hcancelled] at hgoing
    cases hgoing
  | stepped move =>
    cases move <;> simp [hcancelled] at hgoing

/-! ### Who ends last -/

/-- The reader of the shared queue ends after all watchers, and the workers of the lanes end after
the router. -/
structure System.IsAttended (s : System χ) : Prop where
  shared : s.consumers.isDone = true → s.shared.writers = 0
  lanes : ∀ {router lanes}, s.consumers = .perDestination router lanes →
    ∀ lane ∈ lanes, lane.worker.isFinished = true → router.isFinished = true

/-- A worker that nobody cancels ends when nobody writes to its queue any more. -/
theorem Worker.Moves.writers_eq_zero {r : Relayer χ} {q : Queue} {w : Worker χ}
    {o : Outcome χ σ (Worker χ × Queue)} (h : w.Moves env r false q nodes o)
    (hfinished : o.task.1.isFinished = true) (hwhole : o.task.1.isBroken = false) :
    q.writers = 0 := by
  cases h with
  | closed take => exact (of_take_eq_ended take).2
  | stopped stop => cases stop
  | broke => cases hwhole
  | took | fulfilled | rejected | asked | looked | noted => cases hfinished

/-- The router that nobody cancels ends when nobody writes to the shared queue any more. -/
theorem Router.Moves.writers_eq_zero {routes : Routes χ} {router : Router}
    {o : Outcome χ σ (Router × Routes χ)} (h : router.Moves false routes nodes o)
    (hfinished : o.task.1.isFinished = true) : routes.shared.writers = 0 := by
  cases h with
  | closed take => exact (of_take_eq_ended take).2
  | stopped stop | abandoned stop => cases stop
  | unrouted | routed | delivered | lost => cases hfinished

/-- A step of the router takes no writer from the shared queue. -/
theorem Router.Moves.writers_eq {cancelled : Bool} {routes : Routes χ} {router : Router}
    {o : Outcome χ σ (Router × Routes χ)} (h : router.Moves cancelled routes nodes o) :
    o.task.2.shared.writers = routes.shared.writers := by
  cases h with
  | closed | stopped | delivered | lost | abandoned => rfl
  | unrouted take | routed take => rw [eq_of_take take]

/-- Only a router that has not ended moves. -/
theorem Router.Moves.isFinished_eq {cancelled : Bool} {routes : Routes χ} {router : Router}
    {o : Outcome χ σ (Router × Routes χ)} (h : router.Moves cancelled routes nodes o) :
    router.isFinished = false := by
  cases h <;> rfl

namespace System.IsAttended

variable {r : Relayer χ} {topology : Topology} {capacity : Nat} {watches : List (Watch χ)}

/-- A change to a calm state keeps the tasks attended. -/
theorem change (h : s.IsAttended) (hwired : s.Wired r topology capacity watches)
    (hcalm : s'.IsCalm) (hchange : System.Changes env s nodes turn s' nodes') : s'.IsAttended := by
  have hgoing := (hcalm.of_changes hchange).going
  have hworkers := (System.isWhole_iff.mp hcalm.whole).2
  cases hchange with
  | aside => exact ⟨h.shared, h.lanes⟩
  | stepped move =>
    cases move with
    | @watcher i w o hw step =>
      refine ⟨fun hdone => ?_, h.lanes⟩
      have hzero := h.shared hdone
      -- The reader has ended, so the watcher cannot have been there to move.
      rcases (Watcher.moves_of_step step).queue_cases with ⟨-, hq⟩ | ⟨-, hq | ⟨log, hput⟩⟩
      · simp [hq, Queue.leave, hzero]
      · simp [hq, hzero]
      · simp [(eq_of_put hput).1, hzero]
    | @worker worker o consumers move =>
      rw [hgoing] at move
      refine ⟨fun hdone => ?_, fun hconsumers => by cases hconsumers⟩
      have hwhole : o.task.1.isBroken = false := hworkers _ (List.mem_singleton_self _)
      exact move.writers_eq.trans (move.writers_eq_zero hdone hwhole)
    | @router router lanes o consumers move =>
      rw [hgoing] at move
      refine ⟨fun hdone => move.writers_eq.trans (move.writers_eq_zero hdone), ?_⟩
      rintro _ _ ⟨⟩ lane hlane hfinished
      have hmem := List.mem_map_of_mem (f := fun l : Lane χ => l.worker) hlane
      rw [move.map_worker_eq] at hmem
      obtain ⟨lane', hlane', hworker⟩ := List.mem_map.mp hmem
      have hended := h.lanes consumers lane' hlane' (hworker ▸ hfinished)
      rw [move.isFinished_eq] at hended
      cases hended
    | @laneWorker i router lanes lane o consumers lane_eq move =>
      rw [hgoing] at move
      refine ⟨fun hdone => h.shared (by rwa [consumers]), ?_⟩
      rintro _ _ ⟨⟩ lane' hlane' hfinished
      rcases List.mem_or_eq_of_mem_set hlane' with hmem | rfl
      · exact h.lanes consumers lane' hmem hfinished
      · have hwhole : o.task.1.isBroken = false := hworkers _ (List.mem_map_of_mem hlane')
        have hwriters := move.writers_eq_zero hfinished hwhole
        have hfits := hwired.consumers
        rw [consumers] at hfits
        cases hfits with
        | perDestination ids inHand fits =>
          have hkept := (fits lane (List.mem_of_getElem? lane_eq)).kept.writers_eq
          rw [hwriters] at hkept
          by_contra hrouter
          simp [hrouter] at hkept

/-- The tasks are attended in every calm state that is reachable. -/
theorem of_reaches {period : Nat} {outboxes : List (ChainId × Address × χ)} {nodes₀ : σ}
    {turns : List (Turn χ)} {s : Service χ}
    (h : Reaches env (launch r topology capacity period outboxes) nodes₀ turns s nodes)
    (hcalm : s.system.IsCalm) : s.system.IsAttended := by
  refine (h.induction (motive := fun _ s _ => s.Wired r topology capacity
    (Service.watches period 0 outboxes) ∧ (s.IsCalm → s.IsAttended)) ?_ ?_).2 hcalm
  · refine ⟨wired_launch r topology capacity period outboxes, fun _ => ?_⟩
    constructor
    · intro hdone
      cases topology <;> cases hdone
    · intro router lanes hconsumers lane hlane hfinished
      cases topology with
      | single => cases hconsumers
      | perDestination =>
        cases hconsumers
        obtain ⟨id, -, rfl⟩ := List.mem_map.mp hlane
        cases hfinished
  · rintro turns s nodes turn s' nodes' ⟨hwired, hattended⟩ hchange
    refine ⟨hwired.change hchange, fun hcalm => ?_⟩
    exact (hattended (hcalm.of_changes hchange)).change hwired hcalm hchange

end System.IsAttended

end CrossCall.Service
