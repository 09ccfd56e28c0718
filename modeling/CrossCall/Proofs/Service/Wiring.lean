import Mathlib
import CrossCall.Proofs.Service.Lanes
import CrossCall.Proofs.Service.Runs

/-!
# How the tasks are wired

Whatever happens in a run, cancellations and breakdowns included, the tasks stay wired as they were
launched. Every queue keeps its capacity and holds no more than that, knows how many tasks still
write to it, and is read until its reader has ended, after which it stays empty. A lane holds logs
for its own chain only.

## Main definitions

* `Queue.Kept` — a queue with its capacity, its writers, and a reader that may have ended
* `Lane.Fits`, `Consumers.Fits` — the consumers of a topology
* `System.Wired` — the tasks of a service, wired to each other

## Main results

* `System.Wired.change` — every change keeps the wiring
* `Service.wired_of_reaches` — the tasks are wired in every reachable state
-/

namespace CrossCall

variable {χ σ : Type}

/-- Where one entry gives way to another that looks the same, the list looks the same. -/
theorem map_set_eq_map {α β : Type} {f : α → β} {l : List α} {i : Nat} {a b : α}
    (h : l[i]? = some a) (hf : f b = f a) : (l.set i b).map f = l.map f := by
  have hi : i < (l.map f).length := by simpa using (List.getElem?_eq_some_iff.mp h).1
  have hmap : (l.map f)[i] = f b := by
    rw [List.getElem_map, (List.getElem?_eq_some_iff.mp h).2, hf]
  rw [List.map_set, ← hmap, List.set_getElem_self]

/-! ### Queues -/

/-- A queue with its capacity, the number of its writers, and whether its reader has ended. -/
structure Queue.Kept (q : Queue) (capacity writers : Nat) (ended : Bool) : Prop where
  capacity_eq : q.capacity = capacity
  length_le : q.items.length ≤ capacity
  writers_eq : q.writers = writers
  hasReader_eq : q.hasReader = !ended
  items_eq : ended = true → q.items = []

namespace Queue.Kept

variable {q q' : Queue} {s : Sighting} {capacity writers : Nat} {ended : Bool}

theorem put (h : q.Kept capacity writers ended) (hput : q.put s = .queued q') :
    q'.Kept capacity writers ended := by
  have hlength := Queue.length_le_of_put hput
  obtain ⟨rfl, hreader⟩ := Service.eq_of_put hput
  refine ⟨h.capacity_eq, h.capacity_eq ▸ hlength, h.writers_eq, h.hasReader_eq, ?_⟩
  intro hended
  rw [h.hasReader_eq, hended] at hreader
  cases hreader

theorem take (h : q.Kept capacity writers ended) (htake : q.take = .taken s q') :
    q'.Kept capacity writers ended := by
  have hq := Service.eq_of_take htake
  have hlength := h.length_le
  have hitems := h.items_eq
  rw [hq] at hlength hitems
  refine ⟨?_, Nat.le_of_succ_le hlength, ?_, ?_, fun hended => absurd (hitems hended) (by simp)⟩
  · rw [← h.capacity_eq, hq]
  · rw [← h.writers_eq, hq]
  · rw [← h.hasReader_eq, hq]

theorem leave (h : q.Kept capacity writers ended) : q.leave.Kept capacity (writers - 1) ended :=
  ⟨h.capacity_eq, h.length_le, congrArg (· - 1) h.writers_eq, h.hasReader_eq, h.items_eq⟩

theorem abandon (h : q.Kept capacity writers ended) : q.abandon.Kept capacity writers true :=
  ⟨h.capacity_eq, Nat.zero_le _, h.writers_eq, rfl, fun _ => rfl⟩

/-- As long as its reader has not ended, a queue turns nobody away. -/
theorem put_ne_closed (h : q.Kept capacity writers false) (s : Sighting) : q.put s ≠ .closed := by
  intro hclosed
  have hreader := h.hasReader_eq
  rw [Service.of_put_eq_closed hclosed] at hreader
  cases hreader

end Queue.Kept

namespace Service

/-- A worker keeps the queue that it reads from. -/
theorem Worker.Moves.kept {env : Environment χ σ} {r : Relayer χ} {cancelled : Bool} {q : Queue}
    {nodes : σ} {w : Worker χ} {o : Outcome χ σ (Worker χ × Queue)} {capacity writers : Nat}
    (h : w.Moves env r cancelled q nodes o) (hq : q.Kept capacity writers w.isFinished) :
    o.task.2.Kept capacity writers o.task.1.isFinished := by
  cases h with
  | closed | stopped | broke => exact hq.abandon
  | took take => exact hq.take take
  | fulfilled | rejected | asked | looked | noted => exact hq

/-! ### Consumers -/

/-- Whether the reader of the shared queue has ended. -/
def Consumers.isDone : Consumers χ → Bool
  | single worker => worker.isFinished
  | perDestination router _ => router.isFinished

/-- A lane: the router writes to its queue, its worker reads from it, and all logs in it are for its
chain. -/
structure Lane.Fits (r : Relayer χ) (capacity : Nat) (router : Router) (lane : Lane χ) : Prop where
  kept : lane.queue.Kept capacity (if router.isFinished then 0 else 1) lane.worker.isFinished
  items : ∀ s ∈ lane.queue.items, r.route? s.log = some lane.destination
  inHand : ∀ s rest, lane.worker = .handling s rest → r.route? s.log = some lane.destination

theorem Lane.Fits.router {r : Relayer χ} {capacity : Nat} {router router' : Router} {lane : Lane χ}
    (h : lane.Fits r capacity router) (hrouter : router'.isFinished = router.isFinished) :
    lane.Fits r capacity router' :=
  ⟨hrouter ▸ h.kept, h.items, h.inHand⟩

/-- A step of its worker keeps a lane. -/
theorem Lane.Fits.move {env : Environment χ σ} {r : Relayer χ} {capacity : Nat} {router : Router}
    {lane : Lane χ} {cancelled : Bool} {nodes : σ} {o : Outcome χ σ (Worker χ × Queue)}
    (h : lane.Fits r capacity router)
    (hmove : lane.worker.Moves env r cancelled lane.queue nodes o) :
    Lane.Fits r capacity router { lane with worker := o.task.1, queue := o.task.2 } := by
  have hkept := hmove.kept h.kept
  obtain ⟨destination, queue, worker⟩ := lane
  obtain ⟨-, hitems, hinHand⟩ := h
  cases hmove with
  | closed | stopped | broke =>
    refine ⟨hkept, fun s hs => absurd hs List.not_mem_nil, ?_⟩
    rintro _ _ ⟨⟩
  | @took s q' take =>
    simp only at take hitems
    rw [eq_of_take take] at hitems
    refine ⟨hkept, fun s' hs' => hitems s' (List.mem_cons_of_mem _ hs'), ?_⟩
    rintro _ _ ⟨⟩
    exact hitems s List.mem_cons_self
  | fulfilled | rejected =>
    refine ⟨hkept, hitems, ?_⟩
    rintro _ _ ⟨⟩
  | asked | looked | noted =>
    refine ⟨hkept, hitems, ?_⟩
    rintro _ _ ⟨⟩
    exact hinHand _ _ rfl

/-- The consumers of a topology: one worker, or a router and a lane for every registered chain. -/
inductive Consumers.Fits (r : Relayer χ) (capacity : Nat) : Topology → Consumers χ → Prop
  | single (worker : Worker χ) : Fits r capacity .single (.single worker)
  | perDestination {router : Router} {lanes : List (Lane χ)}
      (ids : lanes.map (·.destination) = r.registry.ids)
      (inHand : ∀ id s, router = .routing id s → r.route? s.log = some id)
      (fits : ∀ lane ∈ lanes, lane.Fits r capacity router) :
      Fits r capacity .perDestination (.perDestination router lanes)

namespace Router.Moves

variable {r : Relayer χ} {capacity : Nat} {router : Router} {routes : Routes χ} {cancelled : Bool}
  {nodes : σ} {o : Outcome χ σ (Router × Routes χ)}

/-- The router keeps the queue that it reads from. -/
theorem kept {writers : Nat} (h : router.Moves cancelled routes nodes o)
    (hq : routes.shared.Kept capacity writers router.isFinished) :
    o.task.2.shared.Kept capacity writers o.task.1.isFinished := by
  cases h with
  | closed | stopped => exact hq.abandon
  | unrouted take | routed take => exact hq.take take
  | delivered | lost | abandoned => exact hq

/-- The router keeps the lanes, and puts into each what is for its chain. -/
theorem fits (h : router.Moves cancelled routes nodes o)
    (hfits : Consumers.Fits r capacity .perDestination (.perDestination router routes.lanes)) :
    Consumers.Fits r capacity .perDestination (.perDestination o.task.1 o.task.2.lanes) := by
  cases hfits with
  | perDestination hids hinHand hlanes =>
    -- The router leaves all lanes together, when it ends.
    have hleave : router = .waiting →
        Consumers.Fits r capacity .perDestination (.perDestination .ended routes.leave.lanes) := by
      rintro rfl
      refine .perDestination ?_ (fun _ _ hrouter => by cases hrouter) ?_
      · rw [← hids]
        simp [Routes.leave]
      · intro lane hlane
        obtain ⟨lane, hmem, rfl⟩ := List.mem_map.mp hlane
        exact ⟨(hlanes lane hmem).kept.leave, (hlanes lane hmem).items, (hlanes lane hmem).inHand⟩
    cases h with
    | closed | stopped => exact hleave rfl
    | unrouted =>
      exact .perDestination hids (fun _ _ hrouter => by cases hrouter) hlanes
    | routed take route =>
      refine .perDestination hids ?_ fun lane hlane => (hlanes lane hlane).router rfl
      rintro _ _ ⟨⟩
      rwa [Router.route?_eq hids] at route
    | @delivered destination s q q' lane put =>
      refine .perDestination ?_ (fun _ _ hrouter => by cases hrouter) ?_
      · rw [← hids]
        exact Routes.map_destination_setQueue _ destination _
      · intro lane' hlane'
        obtain ⟨l, hl, rfl⟩ := List.mem_map.mp hlane'
        have hl' : l.Fits r capacity .waiting := (hlanes l hl).router rfl
        by_cases hdestination : l.destination = destination
        · -- The log joins the others that are for the lane.
          have hnodup : (routes.lanes.map (·.destination)).Nodup := hids ▸ r.registry.nodup_ids
          obtain rfl := Routes.queue_eq_of_queue? hnodup hl (hdestination ▸ lane)
          rw [if_pos hdestination]
          refine ⟨hl'.kept.put put, ?_, hl'.inHand⟩
          intro s' hs'
          rw [(Queue.items_of_put put).1] at hs'
          rcases List.mem_append.mp hs' with hs' | hs'
          · exact hl'.items s' hs'
          · rw [List.mem_singleton.mp hs']
            exact (hinHand _ _ rfl).trans (congrArg some hdestination.symm)
        · rwa [if_neg hdestination]
    | lost | abandoned =>
      exact .perDestination hids (fun _ _ hrouter => by cases hrouter)
        fun lane hlane => (hlanes lane hlane).router rfl

end Router.Moves

/-! ### All tasks -/

/-- The watchers that have not ended. -/
def System.activeWatchers (s : System χ) : Nat := s.watchers.countP fun w => !w.isFinished

/-- The tasks of a service: the watchers that have not ended write to the shared queue, and the
consumers of the topology read from it. -/
structure System.Wired (r : Relayer χ) (topology : Topology) (capacity : Nat)
    (watches : List (Watch χ)) (s : System χ) : Prop where
  relayer : s.relayer = r
  watches : s.watchers.map (·.watch) = watches
  shared : s.shared.Kept capacity s.activeWatchers s.consumers.isDone
  consumers : s.consumers.Fits r capacity topology

namespace System.Wired

variable {env : Environment χ σ} {r : Relayer χ} {topology : Topology} {capacity : Nat}
  {watches : List (Watch χ)} {s s' : System χ} {nodes nodes' : σ}

theorem watch_eq (h : s.Wired r topology capacity watches) {i : Nat} {w : Watcher χ}
    (hw : s.watchers[i]? = some w) : watches[i]? = some w.watch := by
  rw [← h.watches, List.getElem?_map, hw, Option.map_some]

/-- A step of a watcher keeps the wiring. -/
theorem watcher (h : s.Wired r topology capacity watches) {i : Nat} {w : Watcher χ}
    (hw : s.watchers[i]? = some w) {o : Outcome χ σ (Watcher χ × Queue)}
    (hmove : w.Moves env s.now s.cancelled s.shared nodes o) :
    System.Wired r topology capacity watches
      { s with watchers := s.watchers.set i o.task.1, shared := o.task.2 } where
  relayer := h.relayer
  watches := (map_set_eq_map hw hmove.watch_eq).trans h.watches
  shared := by
    obtain ⟨hi, hget⟩ := List.getElem?_eq_some_iff.mp hw
    have hcount := List.countP_set (p := fun w : Watcher χ => !w.isFinished) (a := o.task.1) hi
    have hpositive : 0 < s.activeWatchers := by
      refine List.countP_pos_iff.mpr ⟨w, List.mem_of_getElem? hw, ?_⟩
      rw [hmove.isFinished_eq]
      rfl
    rw [hget, hmove.isFinished_eq] at hcount
    rcases hmove.queue_cases with ⟨hfinished, hq⟩ | ⟨hfinished, hq⟩
    · -- It has ended, and there is one writer less.
      have hactive : (s.watchers.set i o.task.1).countP (fun w => !w.isFinished) =
          s.activeWatchers - 1 := by
        rw [hcount, hfinished]
        rfl
      simp only [System.activeWatchers, hactive, hq]
      exact h.shared.leave
    · have hactive : (s.watchers.set i o.task.1).countP (fun w => !w.isFinished) =
          s.activeWatchers := by
        rw [hcount, hfinished]
        exact Nat.sub_add_cancel hpositive
      simp only [System.activeWatchers, hactive]
      rcases hq with hq | ⟨log, hput⟩
      · rw [hq]
        exact h.shared
      · exact h.shared.put hput
  consumers := h.consumers

/-- Every change keeps the wiring. -/
theorem change {turn : Turn χ} (h : s.Wired r topology capacity watches)
    (hchange : System.Changes env s nodes turn s' nodes') :
    s'.Wired r topology capacity watches := by
  cases hchange with
  | aside => exact ⟨h.relayer, h.watches, h.shared, h.consumers⟩
  | @stepped t notice o move =>
    have hshared := h.shared
    have hfits := h.consumers
    cases move with
    | watcher hw step => exact h.watcher hw (Watcher.moves_of_step step)
    | worker consumers move =>
      rw [consumers] at hshared hfits
      cases hfits
      exact ⟨h.relayer, h.watches, move.kept hshared, .single _⟩
    | router consumers move =>
      rw [consumers] at hshared hfits
      cases hfits
      exact ⟨h.relayer, h.watches, move.kept hshared, move.fits (.perDestination ‹_› ‹_› ‹_›)⟩
    | @laneWorker i router lanes lane o consumers lane_eq move =>
      rw [consumers] at hshared hfits
      cases hfits with
      | perDestination ids inHand hlanes =>
        rw [h.relayer] at move
        refine ⟨h.relayer, h.watches, hshared, .perDestination ?_ inHand ?_⟩
        · refine (map_set_eq_map lane_eq ?_).trans ids
          rfl
        · intro lane' hlane'
          rcases List.mem_or_eq_of_mem_set hlane' with hmem | rfl
          · exact hlanes lane' hmem
          · exact (hlanes lane (List.mem_of_getElem? lane_eq)).move move

end System.Wired

/-- The tasks are wired when they are launched. -/
theorem wired_launch (r : Relayer χ) (topology : Topology) (capacity period : Nat)
    (outboxes : List (ChainId × Address × χ)) :
    (launch r topology capacity period outboxes).system.Wired r topology capacity
      (watches period 0 outboxes) where
  relayer := rfl
  watches := by
    rw [launch, List.map_map]
    exact List.map_id _
  shared := by
    have hactive : (launch r topology capacity period outboxes).system.activeWatchers =
        (watches period 0 outboxes).length := by
      rw [System.activeWatchers, launch, List.countP_map]
      exact List.countP_eq_length.mpr fun _ _ => rfl
    rw [hactive]
    refine ⟨rfl, Nat.zero_le _, rfl, ?_, fun _ => rfl⟩
    cases topology <;> rfl
  consumers := by
    cases topology with
    | single => exact .single _
    | perDestination =>
      have hinHand : ∀ id s, Router.waiting = .routing id s → r.route? s.log = some id := by
        rintro _ _ ⟨⟩
      refine .perDestination ?_ hinHand ?_
      · rw [List.map_map]
        exact List.map_id _
      · intro lane hlane
        obtain ⟨id, -, rfl⟩ := List.mem_map.mp hlane
        refine ⟨⟨rfl, Nat.zero_le _, rfl, rfl, fun _ => rfl⟩, fun _ hs => absurd hs List.not_mem_nil,
          ?_⟩
        rintro _ _ ⟨⟩

/-- The tasks are wired in every reachable state. -/
theorem wired_of_reaches {env : Environment χ σ} {r : Relayer χ} {topology : Topology}
    {capacity period : Nat} {outboxes : List (ChainId × Address × χ)} {nodes₀ nodes : σ}
    {turns : List (Turn χ)} {s : Service χ}
    (h : Reaches env (launch r topology capacity period outboxes) nodes₀ turns s nodes) :
    s.system.Wired r topology capacity (watches period 0 outboxes) :=
  h.induction (motive := fun _ s _ => s.Wired r topology capacity (watches period 0 outboxes))
    (wired_launch r topology capacity period outboxes) fun hwired hchange => hwired.change hchange

end Service

end CrossCall
