import Mathlib
import CrossCall.Proofs.Service.Custody
import CrossCall.Proofs.Service.Detours

/-!
# Behind a slow destination

With a worker for every destination, a slow one holds up the others only when its queue is full. While
its worker is busy with one log, the router can still sort the logs in front of another one, as long
as those for the slow destination fit into its queue. Then the other log gets to its worker. If they
do not fit, the router waits in front of the full queue, and what comes after it stays in the shared
queue until the slow worker goes on.

## Main definitions

* `System.HasReached` — a log of the shared queue has come to the worker of its lane
* `System.CanPass` — the logs in front of a log can be sorted
* `System.IsHeldUp` — they do not fit into the queue of the slow lane

## Main results

* `System.CanPass.exists_reached` — a log that can pass gets to its worker
* `System.IsHeldUp.of_detour` — a log that is held up stays in the shared queue
* `Service.reaches_worker_iff` — a log gets past a busy worker exactly if those before it fit
-/

namespace CrossCall.Service

variable {χ σ : Type}

/-- A change of its routes by the others keeps a service wired. -/
theorem System.Wired.of_detour {env : Environment χ σ} {r : Relayer χ} {topology : Topology}
    {capacity : Nat} {watches : List (Watch χ)} {i : Nat} {x y : System χ × σ}
    (h : x.1.Wired r topology capacity watches) (hdetour : System.Detour env i x y) :
    y.1.Wired r topology capacity watches := by
  induction hdetour with
  | refl => exact h
  | tail _ hstep ih =>
    cases hstep with
    | step beside step => exact ih.change (.stepped (System.moves_of_step step))

/-- A log that was in the shared queue before `behind` has come to the worker of its lane. -/
def System.HasReached (s : System χ) (j : Nat) (log : Sighting) (behind : List Sighting) : Prop :=
  s.shared.items = behind ∧ ∃ lanes lane rest, s.consumers = .perDestination .waiting lanes ∧
    lanes[j]? = some lane ∧ lane.queue.items = [] ∧ lane.worker = .handling log rest

theorem logsFor_cons_of_route? {r : Relayer χ} {id : ChainId} {s : Sighting}
    (h : r.route? s.log = some id) (ss : List Sighting) :
    logsFor r id (s :: ss) = s :: logsFor r id ss :=
  List.filter_cons_of_pos (decide_eq_true h)

theorem logsFor_cons_of_ne {r : Relayer χ} {id : ChainId} {s : Sighting}
    (h : r.route? s.log ≠ some id) (ss : List Sighting) :
    logsFor r id (s :: ss) = logsFor r id ss :=
  List.filter_cons_of_neg (by simpa using h)

/-! ### Logs that can pass -/

/-- The logs in front of a log of the shared queue can be sorted while the worker of lane `i` is busy:
those for that lane fit into its queue, or are given up. -/
structure System.CanPass (s : System χ) (r : Relayer χ) (capacity : Nat)
    (watches : List (Watch χ)) (i j : Nat) (log : Sighting) (behind : List Sighting)
    (router : Router) (routes : Routes χ) (ahead : List Sighting) : Prop where
  wired : (s.withRoutes router routes).Wired r .perDestination capacity watches
  shared : routes.shared.items = ahead ++ log :: behind
  slow : ∃ lane, routes.lanes[i]? = some lane ∧ lane.worker.isFinished = false ∧
    (s.cancelled = true ∨ lane.queue.items.length +
      (logsFor r lane.destination (router.inHand ++ ahead)).length ≤ capacity)
  other : ∃ lane, routes.lanes[j]? = some lane ∧ lane.worker.isFinished = false ∧
    r.route? log.log = some lane.destination

namespace System.CanPass

variable {env : Environment χ σ} {r : Relayer χ} {capacity : Nat} {watches : List (Watch χ)}
  {i j : Nat} {log : Sighting} {ahead behind : List Sighting} {s : System χ} {router : Router}
  {routes : Routes χ}

theorem nodup (h : s.CanPass r capacity watches i j log behind router routes ahead) :
    (routes.lanes.map (·.destination)).Nodup := by
  cases h.wired.consumers with
  | perDestination ids inHand fits => exact ids ▸ r.registry.nodup_ids

theorem fits (h : s.CanPass r capacity watches i j log behind router routes ahead) {k : Nat}
    {lane : Lane χ} (hlane : routes.lanes[k]? = some lane) : lane.Fits r capacity router := by
  cases h.wired.consumers with
  | perDestination ids inHand fits => exact fits lane (List.mem_of_getElem? hlane)

/-- The other lane stays what it was where only another lane has changed, or only its queue. -/
theorem other_setLane (h : s.CanPass r capacity watches i j log behind router routes ahead) {k : Nat}
    {lane lane' : Lane χ} (hlane : routes.lanes[k]? = some lane)
    (hdestination : lane'.destination = lane.destination)
    (hfinished : lane'.worker.isFinished = lane.worker.isFinished) :
    ∃ l, (routes.setLane k lane').lanes[j]? = some l ∧ l.worker.isFinished = false ∧
      r.route? log.log = some l.destination := by
  obtain ⟨laneB, hlaneB, hliveB, hroute⟩ := h.other
  by_cases hkj : k = j
  · subst hkj
    obtain rfl := Option.some.inj (hlane.symm.trans hlaneB)
    exact ⟨lane', Routes.getElem?_setLane_self hlane lane', hfinished.trans hliveB,
      hdestination ▸ hroute⟩
  · refine ⟨laneB, ?_, hliveB, hroute⟩
    rwa [Routes.setLane, List.getElem?_set_ne hkj]

section

variable {sighting : Sighting} {lane : Lane χ}
  (h : s.CanPass r capacity watches i j log behind (.routing lane.destination sighting) routes ahead)

include h

/-- A log for the slow lane is given up, or it fits into the queue. -/
theorem exists_waiting_of_slow (hlane : routes.lanes[i]? = some lane) (env : Environment χ σ)
    (nodes : σ) :
    ∃ routes', System.Detour env i
        (s.withRoutes (.routing lane.destination sighting) routes, nodes)
        (s.withRoutes .waiting routes', nodes) ∧
      s.CanPass r capacity watches i j log behind .waiting routes' ahead := by
  obtain ⟨slow, hslow, hlive, hroom⟩ := h.slow
  obtain rfl := Option.some.inj (hlane.symm.trans hslow)
  have hkept := (h.fits hlane).kept
  have hsighting : r.route? sighting.log = some lane.destination := by
    cases h.wired.consumers with
    | perDestination ids inHand fits => exact inHand _ _ rfl
  rcases hroom with hcancelled | hroom
  · have hstep : Router.step s.cancelled .now (.routing lane.destination sighting) routes nodes =
        some { task := (.waiting, routes), nodes, happenings := [.dropped sighting] } := by
      simp [Router.step, hcancelled]
    have hdetour : System.Detour env i _ _ := System.detour_router hstep
    exact ⟨routes, hdetour, h.wired.of_detour hdetour, h.shared,
      ⟨lane, hlane, hlive, .inl hcancelled⟩, h.other⟩
  · have hlength : (logsFor r lane.destination (sighting :: ahead)).length =
        (logsFor r lane.destination ahead).length + 1 := by
      rw [logsFor_cons_of_route? hsighting, List.length_cons]
    have hroom' : lane.queue.items.length + (logsFor r lane.destination ahead).length + 1 ≤
        capacity := by
      simp only [Router.inHand, List.singleton_append, hlength] at hroom
      omega
    have hreader : lane.queue.hasReader = true := by
      rw [hkept.hasReader_eq, hlive]
      rfl
    have hdetour := System.detour_put env i s nodes h.nodup hlane hreader
      (by rw [hkept.capacity_eq]; omega) sighting
    refine ⟨_, hdetour, h.wired.of_detour hdetour, h.shared, ?_, h.other_setLane hlane rfl rfl⟩
    refine ⟨_, Routes.getElem?_setLane_self hlane _, hlive, .inr ?_⟩
    simp only [Router.inHand, List.nil_append, List.length_append, List.length_singleton]
    omega

/-- A log for another lane gets into its queue, and takes no room from those for the slow lane. -/
theorem exists_waiting_of_other (hunbroken : ∀ nodes, env.breaks nodes = false)
    (hpositive : 0 < capacity) {k : Nat} (hk : k ≠ i) (hlane : routes.lanes[k]? = some lane)
    (nodes : σ) :
    ∃ routes' nodes', System.Detour env i
        (s.withRoutes (.routing lane.destination sighting) routes, nodes)
        (s.withRoutes .waiting routes', nodes') ∧
      s.CanPass r capacity watches i j log behind .waiting routes' ahead := by
  obtain ⟨slow, hslow, hlive, hroom⟩ := h.slow
  obtain ⟨lane', nodes', hdestination, hfinished, -, hdetour⟩ :=
    System.exists_delivered hunbroken s nodes h.nodup hk hlane hpositive (h.fits hlane).kept
      sighting
  refine ⟨_, nodes', hdetour, h.wired.of_detour hdetour, h.shared, ?_,
    h.other_setLane hlane hdestination hfinished⟩
  refine ⟨slow, ?_, hlive, hroom.imp_right fun hroom => ?_⟩
  · rwa [Routes.setLane, List.getElem?_set_ne hk]
  · refine Nat.le_trans (Nat.add_le_add_left ?_ _) hroom
    exact (List.Sublist.filter _ (List.sublist_append_right _ _)).length_le

end

/-- The router can get rid of a log in its hands. -/
theorem exists_waiting_of_routing (hunbroken : ∀ nodes, env.breaks nodes = false)
    (hpositive : 0 < capacity) {id : ChainId} {sighting : Sighting}
    (h : s.CanPass r capacity watches i j log behind (.routing id sighting) routes ahead)
    (nodes : σ) :
    ∃ routes' nodes', System.Detour env i (s.withRoutes (.routing id sighting) routes, nodes)
        (s.withRoutes .waiting routes', nodes') ∧
      s.CanPass r capacity watches i j log behind .waiting routes' ahead := by
  obtain ⟨k, lane, hlane, rfl⟩ : ∃ (k : Nat) (lane : Lane χ), routes.lanes[k]? = some lane ∧
      lane.destination = id := by
    cases h.wired.consumers with
    | perDestination ids inHand fits =>
      have hmem := mem_ids_of_route? (inHand _ _ rfl)
      rw [← ids] at hmem
      obtain ⟨lane, hlane, rfl⟩ := List.mem_map.mp hmem
      obtain ⟨k, hk⟩ := List.mem_iff_getElem?.mp hlane
      exact ⟨k, lane, hk, rfl⟩
  by_cases hk : k = i
  · subst hk
    obtain ⟨routes', hdetour, hpass⟩ := h.exists_waiting_of_slow hlane env nodes
    exact ⟨routes', nodes, hdetour, hpass⟩
  · exact h.exists_waiting_of_other hunbroken hpositive hk hlane nodes

/-- The router can come to wait for the next log. -/
theorem exists_waiting (hunbroken : ∀ nodes, env.breaks nodes = false) (hpositive : 0 < capacity)
    (h : s.CanPass r capacity watches i j log behind router routes ahead) (nodes : σ) :
    ∃ routes' nodes', System.Detour env i (s.withRoutes router routes, nodes)
        (s.withRoutes .waiting routes', nodes') ∧
      s.CanPass r capacity watches i j log behind .waiting routes' ahead := by
  cases router with
  | waiting => exact ⟨routes, nodes, .refl, h⟩
  | routing id sighting => exact h.exists_waiting_of_routing hunbroken hpositive nodes
  | ended =>
    -- A router that has ended leaves nothing in the shared queue.
    have hempty : routes.shared.items = [] := h.wired.shared.items_eq rfl
    rw [h.shared] at hempty
    simp at hempty

/-- The router can take the next log that is in front. -/
theorem exists_next {sighting : Sighting}
    (h : s.CanPass r capacity watches i j log behind .waiting routes (sighting :: ahead))
    (env : Environment χ σ) (nodes : σ) :
    ∃ router' routes', System.Detour env i (s.withRoutes .waiting routes, nodes)
        (s.withRoutes router' routes', nodes) ∧
      s.CanPass r capacity watches i j log behind router' routes' ahead := by
  have hdetour := System.detour_fetch env i s nodes h.shared
  refine ⟨_, _, hdetour, h.wired.of_detour hdetour, rfl, ?_, h.other⟩
  obtain ⟨lane, hlane, hlive, hroom⟩ := h.slow
  refine ⟨lane, hlane, hlive, hroom.imp_right fun hroom => ?_⟩
  refine Nat.le_trans (Nat.add_le_add_left ?_ _) hroom
  cases hroute : Router.route? routes sighting with
  | none =>
    rw [Router.sort_of_route?_eq_none hroute]
    exact (List.Sublist.filter _ (List.sublist_cons_self _ _)).length_le
  | some id =>
    rw [Router.sort_of_route?_eq_some hroute]
    exact Nat.le_refl _

/-- A log that has come to the front gets to its worker. -/
theorem exists_reached_of_front (hunbroken : ∀ nodes, env.breaks nodes = false)
    (hpositive : 0 < capacity) (hji : j ≠ i)
    (h : s.CanPass r capacity watches i j log behind .waiting routes []) (nodes : σ) :
    ∃ y, System.Detour env i (s.withRoutes .waiting routes, nodes) y ∧
      y.1.HasReached j log behind := by
  obtain ⟨lane, hlane, hlive, hroute⟩ := h.other
  have hsort : (Router.sort routes log).1 = .routing lane.destination log := by
    refine Router.sort_of_route?_eq_some ?_
    cases h.wired.consumers with
    | perDestination ids inHand fits => rw [Router.route?_eq ids, hroute]
  have htake := System.detour_fetch env i s nodes h.shared
  rw [hsort] at htake
  let taken : Routes χ := { routes with shared := { routes.shared with items := behind } }
  have hlane' : taken.lanes[j]? = some lane := hlane
  have hnodup : (taken.lanes.map (·.destination)).Nodup := h.nodup
  -- The router empties its hands into the queue of the lane, and the worker takes the log from there.
  obtain ⟨lane', nodes', -, hfinished, hitems, hdeliver⟩ := System.exists_delivered hunbroken s nodes
    hnodup hji hlane' hpositive (h.fits hlane).kept log
  obtain ⟨nodes'', hlast⟩ := System.exists_take hunbroken s .waiting hji nodes'
    (Routes.getElem?_setLane_self hlane' lane') (hfinished.trans hlive) (hitems hlive)
  rw [Routes.setLane_setLane] at hlast
  refine ⟨_, (htake.trans hdeliver).trans hlast, rfl, _, _, _, rfl,
    Routes.getElem?_setLane_self hlane' _, rfl, rfl⟩

/-- A log that can pass gets to its worker. -/
theorem exists_reached (hunbroken : ∀ nodes, env.breaks nodes = false) (hpositive : 0 < capacity)
    (hji : j ≠ i) (h : s.CanPass r capacity watches i j log behind router routes ahead) (nodes : σ) :
    ∃ y, System.Detour env i (s.withRoutes router routes, nodes) y ∧
      y.1.HasReached j log behind := by
  induction ahead generalizing router routes nodes with
  | nil =>
    obtain ⟨routes', nodes', hdetour, hwaits⟩ := h.exists_waiting hunbroken hpositive nodes
    obtain ⟨y, hlast, hreached⟩ := hwaits.exists_reached_of_front hunbroken hpositive hji nodes'
    exact ⟨y, hdetour.trans hlast, hreached⟩
  | cons sighting ahead ih =>
    obtain ⟨routes', nodes', hdetour, hwaits⟩ := h.exists_waiting hunbroken hpositive nodes
    obtain ⟨router'', routes'', hnext, hpass⟩ := hwaits.exists_next env nodes'
    obtain ⟨y, hlast, hreached⟩ := ih hpass nodes'
    exact ⟨y, (hdetour.trans hnext).trans hlast, hreached⟩

end System.CanPass

/-! ### Logs that are held up -/

/-- The logs in front of a log of the shared queue cannot all be sorted while the worker of lane `i`
is busy: those for that lane do not fit into its queue, and nothing is given up. -/
structure System.IsHeldUp (s : System χ) (r : Relayer χ) (capacity : Nat)
    (watches : List (Watch χ)) (i : Nat) (log : Sighting) (behind : List Sighting)
    (router : Router) (lanes : List (Lane χ)) (ahead : List Sighting) : Prop where
  wired : s.Wired r .perDestination capacity watches
  going : s.cancelled = false
  consumers : s.consumers = .perDestination router lanes
  shared : s.shared.items = ahead ++ log :: behind
  slow : ∃ lane, lanes[i]? = some lane ∧ lane.worker.isFinished = false ∧
    capacity < lane.queue.items.length +
      (logsFor r lane.destination (router.inHand ++ ahead)).length

namespace System.IsHeldUp

variable {env : Environment χ σ} {r : Relayer χ} {capacity : Nat} {watches : List (Watch χ)}
  {i : Nat} {log : Sighting} {ahead behind : List Sighting} {s : System χ} {router : Router}
  {lanes : List (Lane χ)}

/-- What the router takes is in front of the log. -/
theorem exists_ahead (h : s.IsHeldUp r capacity watches i log behind .waiting lanes ahead)
    {s' : Sighting} {shared : Queue} (htake : s.shared.take = .taken s' shared) :
    ∃ ahead', ahead = s' :: ahead' ∧ shared.items = ahead' ++ log :: behind := by
  have hitems := (Queue.items_of_take htake).1
  rw [h.shared] at hitems
  cases ahead with
  | cons a ahead' =>
    obtain ⟨rfl, hbehind⟩ := List.cons.inj hitems
    exact ⟨ahead', rfl, hbehind.symm⟩
  | nil =>
    -- With nothing in front, what the lane's queue holds would be too much for it.
    obtain ⟨lane, hlane, -, hfull⟩ := h.slow
    have hfits := h.wired.consumers
    rw [h.consumers] at hfits
    cases hfits with
    | perDestination ids inHand fits =>
      have hlength := (fits lane (List.mem_of_getElem? hlane)).kept.length_le
      exact absurd hfull (Nat.not_lt.mpr hlength)

/-- The router does not get as far as to the log. -/
theorem move (h : s.IsHeldUp r capacity watches i log behind router lanes ahead) {nodes : σ}
    {o : Outcome χ σ (Router × Routes χ)}
    (hmove : Router.Moves s.cancelled { shared := s.shared, lanes } nodes router o) :
    ∃ ahead', o.task.2.shared.items = ahead' ++ log :: behind ∧
      ∃ lane, o.task.2.lanes[i]? = some lane ∧ lane.worker.isFinished = false ∧
        capacity < lane.queue.items.length +
          (logsFor r lane.destination (o.task.1.inHand ++ ahead')).length := by
  obtain ⟨lane, hlane, hlive, hfull⟩ := h.slow
  rw [h.going] at hmove
  have hfits := h.wired.consumers
  rw [h.consumers] at hfits
  cases hfits with
  | perDestination ids inHand fits =>
    have hmem := List.mem_of_getElem? hlane
    have hnodup : (lanes.map (·.destination)).Nodup := ids ▸ r.registry.nodup_ids
    have hkept := (fits lane hmem).kept
    rw [hlive] at hkept
    cases hmove with
    | closed take =>
      have hempty := (of_take_eq_ended take).1
      simp only [h.shared] at hempty
      simp at hempty
    | stopped stop | abandoned stop => cases stop
    | @unrouted s' shared text take route =>
      obtain ⟨ahead', rfl, hshared⟩ := h.exists_ahead take
      have hids : ({ shared := s.shared, lanes } : Routes χ).lanes.map (·.destination) =
          r.registry.ids := ids
      have hne : r.route? s'.log ≠ some lane.destination := by
        rw [← Router.route?_eq hids, route]
        exact (Option.some_ne_none _).symm
      simp only [Router.inHand, List.nil_append, logsFor_cons_of_ne hne] at hfull
      exact ⟨ahead', hshared, lane, hlane, hlive, hfull⟩
    | @routed s' shared destination take route =>
      obtain ⟨ahead', rfl, hshared⟩ := h.exists_ahead take
      exact ⟨ahead', hshared, lane, hlane, hlive, hfull⟩
    | @delivered destination s' q q' queue put =>
      have hroute := inHand _ _ rfl
      by_cases hdestination : lane.destination = destination
      · -- A log for the slow lane takes up the room that was counted for it.
        subst hdestination
        obtain rfl := Routes.queue_eq_of_queue? hnodup hmem queue
        refine ⟨ahead, h.shared, { lane with queue := q' }, ?_, hlive, ?_⟩
        · rw [Routes.setQueue_eq hnodup hlane]
          exact Routes.getElem?_setLane_self hlane _
        · simp only [Router.inHand, List.singleton_append, logsFor_cons_of_route? hroute,
            List.length_cons, List.nil_append, (Queue.items_of_put put).1,
            List.length_append] at hfull ⊢
          omega
      · have hne : r.route? s'.log ≠ some lane.destination := by
          rw [hroute]
          exact fun h => hdestination (Option.some.inj h).symm
        refine ⟨ahead, h.shared, lane, ?_, hlive, ?_⟩
        · rw [Routes.setQueue, List.getElem?_map, hlane, Option.map_some, if_neg hdestination]
        · simpa only [Router.inHand, List.singleton_append, List.nil_append,
            logsFor_cons_of_ne hne] using hfull
    | @lost destination s' gone =>
      have hne : r.route? s'.log ≠ some lane.destination := by
        rw [inHand _ _ rfl]
        rintro ⟨⟩
        exact hkept.put_ne_closed s' (gone _ (Routes.queue?_eq hnodup hlane))
      refine ⟨ahead, h.shared, lane, hlane, hlive, ?_⟩
      simpa only [Router.inHand, List.singleton_append, List.nil_append,
        logsFor_cons_of_ne hne] using hfull

/-- A log that is held up stays so as long as the worker of the slow lane takes no step. -/
theorem step (h : s.IsHeldUp r capacity watches i log behind router lanes ahead) {nodes : σ}
    {y : System χ × σ} (hstep : System.StepsBeside env i s nodes y) :
    ∃ router' lanes' ahead', y.1.IsHeldUp r capacity watches i log behind router' lanes' ahead' := by
  cases hstep with
  | @step t notice o beside step =>
    have hmoves := System.moves_of_step step
    have hwired := h.wired.change (.stepped hmoves)
    cases hmoves with
    | watcher => exact beside.elim
    | worker => exact beside.elim
    | @router router' lanes' o' consumers move =>
      rw [h.consumers] at consumers
      cases consumers
      obtain ⟨ahead', hshared, hslow⟩ := h.move move
      exact ⟨_, _, ahead', hwired, h.going, rfl, hshared, hslow⟩
    | @laneWorker j router' lanes' lane o' consumers lane_eq move =>
      rw [h.consumers] at consumers
      cases consumers
      obtain ⟨slow, hslow, hfull⟩ := h.slow
      refine ⟨_, _, ahead, hwired, h.going, rfl, h.shared, slow, ?_, hfull⟩
      have hji : j ≠ i := beside
      rwa [List.getElem?_set_ne hji]

/-- A log that is held up stays in the shared queue, whatever the others do. -/
theorem of_detour (h : s.IsHeldUp r capacity watches i log behind router lanes ahead) {nodes : σ}
    {y : System χ × σ} (hdetour : System.Detour env i (s, nodes) y) :
    ∃ router' lanes' ahead', y.1.IsHeldUp r capacity watches i log behind router' lanes' ahead' := by
  induction hdetour with
  | refl => exact ⟨router, lanes, ahead, h⟩
  | tail _ hstep ih =>
    obtain ⟨router', lanes', ahead', hheld⟩ := ih
    exact hheld.step hstep

end System.IsHeldUp

/-! ### Past a busy worker -/

/-- Whether the logs in front of a log can be sorted while a lane is busy: they fit into its queue, or
the service has been cancelled, and what does not fit is given up. -/
def System.HasRoom (s : System χ) (r : Relayer χ) (capacity : Nat) (lane : Lane χ)
    (ahead : List Sighting) : Prop :=
  s.cancelled = true ∨ lane.queue.items.length +
    (logsFor r lane.destination (s.consumers.inHand ++ ahead)).length ≤ capacity

variable {env : Environment χ σ} {r : Relayer χ} {capacity period : Nat}
  {outboxes : List (ChainId × Address × χ)} {nodes₀ nodes : σ} {turns : List (Turn χ)}
  {s : Service χ}

/-- While the worker of lane `i` is busy with a log, another log in the shared queue, for a lane whose
worker has not ended, gets to that worker through steps of the others exactly if those before it for
the busy lane fit into its queue. If they do not, the log stays in the shared queue, whatever the
others do. -/
theorem reaches_worker_iff (hunbroken : ∀ nodes, env.breaks nodes = false)
    (hpositive : 0 < capacity)
    (h : Reaches env (launch r .perDestination capacity period outboxes) nodes₀ turns s nodes)
    {router : Router} {lanes : List (Lane χ)}
    (hconsumers : s.system.consumers = .perDestination router lanes) {i j : Nat}
    {busy other : Lane χ} (hbusy : lanes[i]? = some busy) (hother : lanes[j]? = some other)
    {sighting : Sighting} {rest : Session χ (Except FulfillmentError Submission)}
    (hhandling : busy.worker = .handling sighting rest) (hlive : other.worker.isFinished = false)
    {log : Sighting} {ahead behind : List Sighting}
    (hshared : s.system.shared.items = ahead ++ log :: behind)
    (hroute : r.route? log.log = some other.destination)
    (hdifferent : other.destination ≠ busy.destination) :
    ((∃ y, System.Detour env i (s.system, nodes) y ∧ y.1.HasReached j log behind) ↔
        s.system.HasRoom r capacity busy ahead) ∧
      (¬ s.system.HasRoom r capacity busy ahead → ∀ y, System.Detour env i (s.system, nodes) y →
        ∃ ahead', y.1.shared.items = ahead' ++ log :: behind) := by
  have hwired := wired_of_reaches h
  have hbusyLive : busy.worker.isFinished = false := by
    rw [hhandling]
    rfl
  have hji : j ≠ i := by
    rintro rfl
    exact hdifferent (congrArg Lane.destination (Option.some.inj (hother.symm.trans hbusy)))
  have hinHand : s.system.consumers.inHand = router.inHand := by
    rw [hconsumers]
    rfl
  have hstays : ¬ s.system.HasRoom r capacity busy ahead → ∀ y,
      System.Detour env i (s.system, nodes) y →
        ∃ ahead', y.1.shared.items = ahead' ++ log :: behind := by
    intro hroom y hdetour
    rw [System.HasRoom, hinHand, not_or, Bool.not_eq_true, Nat.not_le] at hroom
    have hheld : s.system.IsHeldUp r capacity (watches period 0 outboxes) i log behind router lanes
        ahead :=
      ⟨hwired, hroom.1, hconsumers, hshared, busy, hbusy, hbusyLive, hroom.2⟩
    obtain ⟨_, _, ahead', hheld'⟩ := hheld.of_detour hdetour
    exact ⟨ahead', hheld'.shared⟩
  refine ⟨⟨?_, ?_⟩, hstays⟩
  · rintro ⟨y, hdetour, hbehind, -⟩
    by_contra hroom
    obtain ⟨ahead', hstill⟩ := hstays hroom y hdetour
    rw [hbehind] at hstill
    have hlength := congrArg List.length hstill
    simp at hlength
    omega
  · intro hroom
    rw [System.HasRoom, hinHand] at hroom
    have heq := System.eq_withRoutes hconsumers
    have hpass : s.system.CanPass r capacity (watches period 0 outboxes) i j log behind router
        { shared := s.system.shared, lanes } ahead :=
      ⟨heq ▸ hwired, hshared, ⟨busy, hbusy, hbusyLive, hroom⟩, other, hother, hlive, hroute⟩
    obtain ⟨y, hdetour, hreached⟩ := hpass.exists_reached hunbroken hpositive hji nodes
    rw [← heq] at hdetour
    exact ⟨y, hdetour, hreached⟩

/-! ### A crowded service -/

namespace TwoChains

/-- Some messages for the second chain, and one for the first after them. -/
def crowd (count : Nat) : List Log :=
  List.replicate count (sighting message.encodeLog.1 message.encodeLog.2).log ++
    [(sighting { message with destinationChain := 1 }.encodeLog.1
      { message with destinationChain := 1 }.encodeLog.2).log]

/-- A node that shows these messages. -/
def crowding (count : Nat) : Environment Bool Unit where
  answer _ _ q := match q with
    | .newFilter _ => (.ok 0, ())
    | .filterChanges _ => (.ok (crowd count), ())
    | _ => (.error (.transport ""), ())

/-- The worker of the second lane takes the first message and goes no further, and the second one
waits in its queue. -/
def busyActions : List Service.Action :=
  steps 3 (.watcher 0) ++ steps 2 .router ++ steps 1 (.laneWorker 1) ++ steps 1 (.watcher 0) ++
    steps 2 .router ++ steps 1 (.watcher 0)

/-- A third message is in the hands of the router, and the one for the first chain behind it. -/
def crowdedActions : List Service.Action := busyActions ++ steps 1 .router ++ steps 1 (.watcher 0)

/-- Whether the worker of the second lane is busy while a log for the first one is in the shared
queue, and whether the log before it fits into the queue of the busy lane. -/
def isBehind (fits : Bool) (s : Service Bool) : Bool :=
  match s.system.consumers, s.system.shared.items with
  | .perDestination router [other, busy], [log] =>
    match other.worker, busy.worker with
    | .waiting, .handling _ _ =>
      !s.system.cancelled && relayer.route? log.log == some other.destination &&
        other.destination != busy.destination &&
        decide (busy.queue.items.length +
          (logsFor relayer busy.destination router.inHand).length ≤ 1) == fits
    | _, _ => false
  | _, _ => false

theorem exists_of_isBehind {fits : Bool} {s : Service Bool} (h : isBehind fits s = true) :
    ∃ router other busy log seen rest,
      s.system.consumers = .perDestination router [other, busy] ∧ s.system.shared.items = [log] ∧
        other.worker = .waiting ∧ busy.worker = .handling seen rest ∧
        s.system.cancelled = false ∧ relayer.route? log.log = some other.destination ∧
        other.destination ≠ busy.destination ∧
        (busy.queue.items.length + (logsFor relayer busy.destination router.inHand).length ≤ 1 ↔
          fits = true) := by
  rw [isBehind] at h
  split at h
  · rename_i router other busy log hconsumers hitems
    split at h
    · rename_i seen rest hother hbusy
      simp only [Bool.and_eq_true, Bool.not_eq_true', beq_iff_eq, bne_iff_ne] at h
      obtain ⟨⟨⟨hgoing, hroute⟩, hdifferent⟩, hfits⟩ := h
      exact ⟨router, other, busy, log, seen, rest, hconsumers, hitems, hother, hbusy, hgoing, hroute,
        hdifferent, by rw [← hfits, decide_eq_true_iff]⟩
    · cases h
  · cases h

/-- The worker of the first lane waits for a log that is in the shared queue, and does not get it as
long as the busy worker of the second lane takes no step. -/
theorem held_up_of_crowdedActions :
    ∃ turns s nodes router other busy log seen rest,
      Reaches (crowding 3) pollingService () turns s nodes ∧
        s.system.consumers = .perDestination router [other, busy] ∧
        s.system.shared.items = [log] ∧ relayer.route? log.log = some other.destination ∧
        other.worker = .waiting ∧ busy.worker = .handling seen rest ∧
        (∀ y, System.Detour (crowding 3) 1 (s.system, nodes) y → log ∈ y.1.shared.items) ∧
        ¬ ∃ y, System.Detour (crowding 3) 1 (s.system, nodes) y ∧ y.1.HasReached 0 log [] := by
  have hrun : ((pollingService.follow (crowding 3) crowdedActions ()).any fun t =>
      isBehind false t.2.1) = true := by decide +kernel
  obtain ⟨⟨turns, s, nodes⟩, hfollow, hbehind⟩ := (Option.any_eq_true _ _).mp hrun
  have hreaches : Reaches (crowding 3) pollingService () turns s nodes := by
    simpa using Reaches.start.of_follow hfollow
  obtain ⟨router, other, busy, log, seen, rest, hconsumers, hitems, hother, hbusy, hgoing, hroute, -,
    hfull⟩ := exists_of_isBehind hbehind
  have hheld : s.system.IsHeldUp relayer 1 (watches 1 0 polledOutboxes) 1 log [] router
      [other, busy] [] := by
    refine ⟨wired_of_reaches hreaches, hgoing, hconsumers, hitems, busy, rfl, by rw [hbusy]; rfl, ?_⟩
    rw [List.append_nil]
    exact Nat.not_le.mp fun hle => Bool.false_ne_true (hfull.mp hle)
  have hstays : ∀ y, System.Detour (crowding 3) 1 (s.system, nodes) y →
      log ∈ y.1.shared.items := by
    intro y hdetour
    obtain ⟨_, _, ahead', hheld'⟩ := hheld.of_detour hdetour
    rw [hheld'.shared]
    exact List.mem_append_right _ List.mem_cons_self
  refine ⟨turns, s, nodes, router, other, busy, log, seen, rest, hreaches, hconsumers, hitems, hroute,
    hother, hbusy, hstays, ?_⟩
  rintro ⟨y, hdetour, hreached, -⟩
  have hstill := hstays y hdetour
  rw [hreached] at hstill
  cases hstill

theorem passes_of_busyActions :
    ∃ turns s nodes log, Reaches (crowding 2) pollingService () turns s nodes ∧
      s.system.shared.items = [log] ∧
      ∃ y, System.Detour (crowding 2) 1 (s.system, nodes) y ∧ y.1.HasReached 0 log [] := by
  have hrun : ((pollingService.follow (crowding 2) busyActions ()).any fun t =>
      isBehind true t.2.1) = true := by decide +kernel
  obtain ⟨⟨turns, s, nodes⟩, hfollow, hbehind⟩ := (Option.any_eq_true _ _).mp hrun
  have hreaches : Reaches (crowding 2) pollingService () turns s nodes := by
    simpa using Reaches.start.of_follow hfollow
  obtain ⟨router, other, busy, log, seen, rest, hconsumers, hitems, hother, hbusy, -, hroute,
    hdifferent, hfits⟩ := exists_of_isBehind hbehind
  have hlive : other.worker.isFinished = false := by
    rw [hother]
    rfl
  have hshared : s.system.shared.items = [] ++ log :: [] := hitems
  have hreach := (reaches_worker_iff (fun _ => rfl) Nat.one_pos hreaches hconsumers (i := 1) (j := 0)
    rfl rfl hbusy hlive hshared hroute hdifferent).1
  refine ⟨turns, s, nodes, log, hreaches, hitems, hreach.mpr (.inr ?_)⟩
  rw [hconsumers, List.append_nil]
  exact hfits.mpr rfl

end TwoChains

end CrossCall.Service
