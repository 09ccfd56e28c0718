import Mathlib
import CrossCall.Proofs.Service.Wiring

/-!
# Ways past a worker

While the worker of one lane is busy, the router and the workers of the other lanes can go on. A
worker that nothing breaks can bring the log in its hands to an end and take the next one, so that it
can empty its queue. The router can then put a log into the queue of any other lane, whatever has
become of that lane's worker.

## Main definitions

* `TaskId.IsBeside` — the router and the workers of the other lanes
* `System.Detour` — the ways on which only these take steps

## Main results

* `System.exists_take`, `System.exists_drained` — a worker can take the next log, and all of them
* `System.exists_delivered` — the router can get rid of a log for another lane
-/

namespace CrossCall.Service

variable {χ σ : Type}

/-! ### Steps of the others -/

/-- The router and the workers of all lanes but one. -/
def TaskId.IsBeside (i : Nat) : TaskId → Prop
  | router => True
  | laneWorker j => j ≠ i
  | watcher _ | worker => False

/-- A step of the router or of the worker of another lane. -/
inductive System.StepsBeside (env : Environment χ σ) (i : Nat) (s : System χ) (nodes : σ) :
    System χ × σ → Prop
  | step {t : TaskId} {notice : Notice} {o : Outcome χ σ (System χ)} (beside : t.IsBeside i)
      (step : s.step env notice t nodes = some o) : StepsBeside env i s nodes (o.task, o.nodes)

/-- The ways on which the worker of one lane takes no step, nor does a watcher. -/
abbrev System.Detour (env : Environment χ σ) (i : Nat) : System χ × σ → System χ × σ → Prop :=
  Relation.ReflTransGen fun x y => System.StepsBeside env i x.1 x.2 y

namespace Routes

/-- The routes with another lane in the place of one. -/
def setLane (r : Routes χ) (j : Nat) (lane : Lane χ) : Routes χ :=
  { r with lanes := r.lanes.set j lane }

theorem setLane_setLane (r : Routes χ) (j : Nat) (lane lane' : Lane χ) :
    (r.setLane j lane).setLane j lane' = r.setLane j lane' := by
  rw [setLane, setLane, setLane, List.set_set]

theorem getElem?_setLane_self {r : Routes χ} {j : Nat} {lane : Lane χ}
    (h : r.lanes[j]? = some lane) (lane' : Lane χ) :
    (r.setLane j lane').lanes[j]? = some lane' :=
  List.getElem?_set_self (List.getElem?_eq_some_iff.mp h).1

end Routes

namespace System

/-- The system with another state of the router and of what it works with. -/
def withRoutes (s : System χ) (router : Router) (routes : Routes χ) : System χ :=
  { s with consumers := .perDestination router routes.lanes, shared := routes.shared }

theorem eq_withRoutes {s : System χ} {router : Router} {lanes : List (Lane χ)}
    (h : s.consumers = .perDestination router lanes) :
    s = s.withRoutes router { shared := s.shared, lanes } := by
  rw [withRoutes, ← h]

variable {env : Environment χ σ} {i : Nat} {routes : Routes χ}

theorem detour_router {s : System χ} {router : Router} {nodes : σ} {notice : Notice}
    {o : Outcome χ σ (Router × Routes χ)}
    (h : router.step s.cancelled notice routes nodes = some o) :
    Detour env i (s.withRoutes router routes, nodes) (s.withRoutes o.task.1 o.task.2, o.nodes) := by
  have hstep : (s.withRoutes router routes).step env notice .router nodes =
      some { task := s.withRoutes o.task.1 o.task.2, nodes := o.nodes
             happenings := o.happenings } := by
    simp only [step, stepRouter, withRoutes]
    exact Option.bind_eq_some_iff.mpr ⟨o, h, rfl⟩
  exact .single (.step (by trivial) hstep)

theorem detour_lane (s : System χ) (router : Router) {nodes : σ} {j : Nat} (hj : j ≠ i)
    {lane : Lane χ} (hlane : routes.lanes[j]? = some lane) {notice : Notice} {w : Worker χ}
    {q : Queue} {nodes' : σ} {happenings : List (Happening χ)}
    (h : lane.worker.step env s.relayer s.cancelled notice lane.queue nodes =
      some ⟨(w, q), nodes', happenings⟩) :
    Detour env i (s.withRoutes router routes, nodes)
      (s.withRoutes router (routes.setLane j { lane with worker := w, queue := q }), nodes') := by
  have hstep : (s.withRoutes router routes).step env notice (.laneWorker j) nodes =
      some { task := s.withRoutes router
               (routes.setLane j { lane with worker := w, queue := q })
             nodes := nodes', happenings } := by
    simp only [step, stepLane, withRoutes]
    exact Option.bind_eq_some_iff.mpr ⟨lane, hlane, Option.bind_eq_some_iff.mpr ⟨_, h, rfl⟩⟩
  have hbeside : TaskId.IsBeside i (.laneWorker j) := hj
  exact .single (.step hbeside hstep)

/-! ### Workers go on -/

section

variable (hunbroken : ∀ nodes, env.breaks nodes = false) (s : System χ) (router : Router)
  {j : Nat} (hj : j ≠ i)

include hunbroken hj

/-- A worker can bring the log in its hands to an end. -/
theorem exists_waiting (nodes : σ) {lane : Lane χ} (hlane : routes.lanes[j]? = some lane)
    {sighting : Sighting} {rest : Session χ (Except FulfillmentError Submission)}
    (hworker : lane.worker = .handling sighting rest) :
    ∃ nodes', Detour env i (s.withRoutes router routes, nodes)
      (s.withRoutes router (routes.setLane j { lane with worker := .waiting }), nodes') := by
  induction rest generalizing routes lane nodes with
  | done outcome =>
    have hstep : ∃ happenings, lane.worker.step env s.relayer s.cancelled .later lane.queue nodes =
        some ⟨(.waiting, lane.queue), nodes, happenings⟩ := by
      rw [hworker]
      cases outcome <;> exact ⟨_, rfl⟩
    obtain ⟨happenings, hstep⟩ := hstep
    exact ⟨nodes, detour_lane s router hj hlane hstep⟩
  | ask node request next ih =>
    have hstep : lane.worker.step env s.relayer s.cancelled .later lane.queue nodes =
        some ⟨(.handling sighting (next (env.answer nodes node request).1), lane.queue),
          (env.answer nodes node request).2,
          [.event (.exchange ⟨node, request, (env.answer nodes node request).1⟩)]⟩ := by
      rw [hworker]
      simp [Worker.step, Worker.advance, ask, hunbroken]
    obtain ⟨nodes', hdetour⟩ := ih _ (env.answer nodes node request).2
      (Routes.getElem?_setLane_self hlane
        { lane with worker := .handling sighting (next (env.answer nodes node request).1) }) rfl
    rw [Routes.setLane_setLane] at hdetour
    exact ⟨nodes', (detour_lane s router hj hlane hstep).trans hdetour⟩
  | cancelled next ih =>
    have hstep : lane.worker.step env s.relayer s.cancelled .later lane.queue nodes =
        some ⟨(.handling sighting (next s.cancelled), lane.queue), nodes, []⟩ := by
      rw [hworker]
      rfl
    obtain ⟨nodes', hdetour⟩ := ih _ nodes (Routes.getElem?_setLane_self hlane
      { lane with worker := .handling sighting (next s.cancelled) }) rfl
    rw [Routes.setLane_setLane] at hdetour
    exact ⟨nodes', (detour_lane s router hj hlane hstep).trans hdetour⟩
  | note n next ih =>
    have hstep : lane.worker.step env s.relayer s.cancelled .later lane.queue nodes =
        some ⟨(.handling sighting next, lane.queue), nodes, [.event (.note n)]⟩ := by
      rw [hworker]
      rfl
    obtain ⟨nodes', hdetour⟩ := ih nodes (Routes.getElem?_setLane_self hlane
      { lane with worker := .handling sighting next }) rfl
    rw [Routes.setLane_setLane] at hdetour
    exact ⟨nodes', (detour_lane s router hj hlane hstep).trans hdetour⟩

/-- A worker that has not ended can take the next log from its queue. -/
theorem exists_take (nodes : σ) {lane : Lane χ} (hlane : routes.lanes[j]? = some lane)
    (hlive : lane.worker.isFinished = false) {sighting : Sighting} {items : List Sighting}
    (hitems : lane.queue.items = sighting :: items) :
    ∃ nodes', Detour env i (s.withRoutes router routes, nodes)
      (s.withRoutes router (routes.setLane j
        { lane with
          worker := .handling sighting (s.relayer.handle sighting.chain sighting.log)
          queue := { lane.queue with items } }), nodes') := by
  have htake : ∀ nodes, (Worker.waiting (χ := χ)).step env s.relayer s.cancelled .later lane.queue
      nodes = some ⟨(.handling sighting (s.relayer.handle sighting.chain sighting.log),
        { lane.queue with items }), nodes, [.handed sighting]⟩ := by
    intro nodes
    simp [Worker.step, Worker.fetch, Queue.take, hitems]
  cases hworker : lane.worker with
  | waiting =>
    rw [← hworker] at htake
    exact ⟨nodes, detour_lane s router hj hlane (htake nodes)⟩
  | handling sighting' rest =>
    obtain ⟨nodes', hdetour⟩ := exists_waiting hunbroken s router hj nodes hlane hworker
    have hlast := detour_lane s router hj
      (Routes.getElem?_setLane_self hlane { lane with worker := .waiting }) (htake nodes')
    rw [Routes.setLane_setLane] at hlast
    exact ⟨nodes', hdetour.trans hlast⟩
  | ended | broken =>
    rw [hworker] at hlive
    cases hlive

/-- A worker that has not ended can empty its queue. -/
theorem exists_drained (nodes : σ) {lane : Lane χ} (hlane : routes.lanes[j]? = some lane)
    (hlive : lane.worker.isFinished = false) :
    ∃ w nodes', w.isFinished = false ∧ Detour env i (s.withRoutes router routes, nodes)
      (s.withRoutes router (routes.setLane j
        { lane with worker := w, queue := { lane.queue with items := [] } }), nodes') := by
  induction hitems : lane.queue.items generalizing routes lane nodes with
  | nil =>
    refine ⟨lane.worker, nodes, hlive, ?_⟩
    have hsame : routes.setLane j { lane with queue := { lane.queue with items := [] } } =
        routes := by
      rw [← hitems]
      obtain ⟨hlt, hget⟩ := List.getElem?_eq_some_iff.mp hlane
      rw [Routes.setLane, ← hget, List.set_getElem_self]
    rw [hsame]
  | cons sighting items ih =>
    obtain ⟨nodes', hdetour⟩ := exists_take hunbroken s router hj nodes hlane hlive hitems
    have hnext := Routes.getElem?_setLane_self hlane
      { lane with
        worker := .handling sighting (s.relayer.handle sighting.chain sighting.log)
        queue := { lane.queue with items } }
    obtain ⟨w, nodes'', hw, hrest⟩ := ih nodes' hnext rfl rfl
    rw [Routes.setLane_setLane] at hrest
    exact ⟨w, nodes'', hw, hdetour.trans hrest⟩

end

end System

/-! ### The router goes on -/

namespace Routes

theorem queue?_eq {r : Routes χ} (hnodup : (r.lanes.map (·.destination)).Nodup) {k : Nat}
    {lane : Lane χ} (hlane : r.lanes[k]? = some lane) :
    r.queue? lane.destination = some lane.queue := by
  have hmem := List.mem_of_getElem? hlane
  obtain ⟨q, hq⟩ := Option.isSome_iff_exists.mp
    (isSome_queue?_iff.mpr (List.mem_map_of_mem (f := fun l : Lane χ => l.destination) hmem))
  rw [hq, queue_eq_of_queue? hnodup hmem hq]

/-- Where destinations are distinct, the queue of a destination is set in its lane. -/
theorem setQueue_eq {r : Routes χ} (hnodup : (r.lanes.map (·.destination)).Nodup) {k : Nat}
    {lane : Lane χ} (hlane : r.lanes[k]? = some lane) (q : Queue) :
    r.setQueue lane.destination q = r.setLane k { lane with queue := q } := by
  have hlanes : (r.setQueue lane.destination q).lanes =
      r.lanes.set k { lane with queue := q } := by
    refine List.ext_getElem? fun m => ?_
    rw [setQueue, List.getElem?_map]
    by_cases hm : k = m
    · subst hm
      rw [List.getElem?_set_self (List.getElem?_eq_some_iff.mp hlane).1, hlane]
      simp
    · rw [List.getElem?_set_ne hm]
      cases hlane' : r.lanes[m]? with
      | none => rfl
      | some lane' =>
        -- Another lane has another destination.
        have hne : lane'.destination ≠ lane.destination := by
          intro hdestination
          have hk : (r.lanes.map (·.destination))[k]? = some lane.destination := by
            rw [List.getElem?_map, hlane, Option.map_some]
          have hm' : (r.lanes.map (·.destination))[m]? = some lane.destination := by
            rw [List.getElem?_map, hlane', Option.map_some, hdestination]
          obtain ⟨_, hget⟩ := List.getElem?_eq_some_iff.mp hk
          obtain ⟨_, hget'⟩ := List.getElem?_eq_some_iff.mp hm'
          exact hm (hnodup.getElem_inj_iff.mp (hget.trans hget'.symm))
        simp [hne]
  rw [setQueue] at hlanes ⊢
  rw [setLane, ← hlanes]

end Routes

theorem Router.sort_of_route?_eq_none {routes : Routes χ} {s : Sighting}
    (h : Router.route? routes s = none) : (Router.sort routes s).1 = .waiting := by
  rw [Router.route?] at h
  rw [Router.sort]
  cases hdecode : PostedMessage.decodeLog s.log with
  | error e => rfl
  | ok m => cases hqueue : routes.queue? m.destinationId <;> simp_all

theorem Router.sort_of_route?_eq_some {routes : Routes χ} {s : Sighting} {id : ChainId}
    (h : Router.route? routes s = some id) : (Router.sort routes s).1 = .routing id s := by
  rw [Router.route?] at h
  rw [Router.sort]
  cases hdecode : PostedMessage.decodeLog s.log with
  | error e => simp [hdecode] at h
  | ok m => cases hqueue : routes.queue? m.destinationId <;> simp_all

namespace System

variable {env : Environment χ σ} {i : Nat} {routes : Routes χ}

/-- The router takes the next log from the shared queue. -/
theorem detour_fetch (env : Environment χ σ) (i : Nat) (s : System χ) (nodes : σ)
    {sighting : Sighting} {items : List Sighting}
    (hitems : routes.shared.items = sighting :: items) :
    Detour env i (s.withRoutes .waiting routes, nodes)
      (s.withRoutes (Router.sort routes sighting).1
        { routes with shared := { routes.shared with items } }, nodes) := by
  have hstep : Router.step s.cancelled .later .waiting routes nodes =
      some { task := ((Router.sort routes sighting).1,
               { routes with shared := { routes.shared with items } })
             nodes, happenings := (Router.sort routes sighting).2 } := by
    simp [Router.step, Router.fetch, Queue.take, hitems]
  exact detour_router hstep

/-- The router puts a log into the queue of a lane with room for it. -/
theorem detour_put (env : Environment χ σ) (i : Nat) (s : System χ) (nodes : σ)
    (hnodup : (routes.lanes.map (·.destination)).Nodup) {k : Nat}
    {lane : Lane χ} (hlane : routes.lanes[k]? = some lane) (hreader : lane.queue.hasReader = true)
    (hroom : lane.queue.items.length < lane.queue.capacity) (sighting : Sighting) :
    Detour env i (s.withRoutes (.routing lane.destination sighting) routes, nodes)
      (s.withRoutes .waiting (routes.setLane k
        { lane with queue := { lane.queue with items := lane.queue.items ++ [sighting] } }),
        nodes) := by
  have hput : lane.queue.put sighting =
      .queued { lane.queue with items := lane.queue.items ++ [sighting] } := by
    simp [Queue.put, hreader, hroom]
  have hstep : Router.step s.cancelled .later (.routing lane.destination sighting) routes nodes =
      some { task := (.waiting, routes.setQueue lane.destination
               { lane.queue with items := lane.queue.items ++ [sighting] })
             nodes, happenings := [.queued sighting] } := by
    simp [Router.step, Router.deliver, Routes.queue?_eq hnodup hlane, hput]
  rw [← Routes.setQueue_eq hnodup hlane]
  exact detour_router hstep

/-- The router can get rid of a log for another lane, whatever its worker does: if the worker has not
ended, the log is then the only one in the lane's queue. -/
theorem exists_delivered (hunbroken : ∀ nodes, env.breaks nodes = false) (s : System χ) (nodes : σ)
    (hnodup : (routes.lanes.map (·.destination)).Nodup) {k : Nat} (hk : k ≠ i) {lane : Lane χ}
    (hlane : routes.lanes[k]? = some lane) {capacity writers : Nat} (hpositive : 0 < capacity)
    (hkept : lane.queue.Kept capacity writers lane.worker.isFinished) (sighting : Sighting) :
    ∃ lane' nodes', lane'.destination = lane.destination ∧
      lane'.worker.isFinished = lane.worker.isFinished ∧
      (lane.worker.isFinished = false → lane'.queue.items = [sighting]) ∧
      Detour env i (s.withRoutes (.routing lane.destination sighting) routes, nodes)
        (s.withRoutes .waiting (routes.setLane k lane'), nodes') := by
  cases hfinished : lane.worker.isFinished with
  | true =>
    -- Nobody reads the queue any more, and the log is dropped.
    have hput : lane.queue.put sighting = .closed := by
      simp [Queue.put, hkept.hasReader_eq, hfinished]
    have hstep : Router.step s.cancelled .later (.routing lane.destination sighting) routes nodes =
        some { task := (.waiting, routes), nodes
               happenings := [.dropped sighting,
                 Router.line .warn "Destination queue closed, dropping message"] } := by
      simp [Router.step, Router.deliver, Routes.queue?_eq hnodup hlane, hput]
    have hsame : routes.setLane k lane = routes := by
      obtain ⟨hlt, hget⟩ := List.getElem?_eq_some_iff.mp hlane
      rw [Routes.setLane, ← hget, List.set_getElem_self]
    refine ⟨lane, nodes, rfl, hfinished, (fun h => Bool.noConfusion h), ?_⟩
    rw [hsame]
    exact detour_router hstep
  | false =>
    obtain ⟨w, nodes', hw, hdrained⟩ := exists_drained hunbroken s
      (.routing lane.destination sighting) hk nodes hlane hfinished
    have hreader : lane.queue.hasReader = true := by
      rw [hkept.hasReader_eq, hfinished]
      rfl
    have hnodup' : ((routes.setLane k
        { lane with worker := w, queue := { lane.queue with items := [] } }).lanes.map
          (·.destination)).Nodup := by
      rw [Routes.setLane, map_set_eq_map hlane]
      · exact hnodup
      · rfl
    have hput := detour_put env i s nodes' hnodup' (Routes.getElem?_setLane_self hlane
      { lane with worker := w, queue := { lane.queue with items := [] } }) hreader
      (by simpa [hkept.capacity_eq] using hpositive) sighting
    rw [Routes.setLane_setLane] at hput
    exact ⟨{ lane with worker := w, queue := { lane.queue with items := [sighting] } }, nodes', rfl,
      hw, fun _ => rfl, hdrained.trans hput⟩

end System

end CrossCall.Service
