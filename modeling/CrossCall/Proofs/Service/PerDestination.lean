import Mathlib
import CrossCall.Proofs.Service.Lanes

/-!
# A worker for every destination at work

The router and the workers of the lanes take steps in any order, while logs come in. Every such step
keeps the topology, and advances the forecasts: a worker takes from the front of its own, and the
router only moves logs along. A run to the end has done all that was forecast at its start.

## Main definitions

* `Scene.afterRouter`, `Scene.afterWorker` — the scene after a step of the router and of a worker
* `Scene.Sorted` — what a run to the end comes to

## Main results

* `Scene.HasLanes.move` — a move keeps the topology and advances the forecasts
* `Scene.follow_perDestination` — every run to the end comes to the same
-/

namespace CrossCall.Service.Scene

variable {χ σ : Type} {clients : Clients χ} {r : Relayer χ} {router : Router}
  {lanes : List (Lane χ)}

/-! ### The router's part -/

/-- The scene after a step of the router. -/
def afterRouter (x : Scene χ σ) (o : Outcome χ σ (Router × Routes χ)) : Scene χ σ where
  system :=
    { x.system with
      consumers := .perDestination o.task.1 o.task.2.lanes
      shared := o.task.2.shared }
  feed := x.feed
  nodes := o.nodes

/-- The log that the router takes was the first of the pending ones. -/
theorem pending_of_take {x : Scene χ σ} {s : Sighting} {shared : Queue}
    (take : x.system.shared.take = .taken s shared) :
    x.pending .waiting = s :: (shared.items ++ x.feed) := by
  rw [pending, eq_of_take take]
  rfl

/-- The queue of a destination is that of its lane. -/
theorem HasLanes.queue_eq {x : Scene χ σ} (h : HasLanes r x router lanes) {lane : Lane χ}
    (hlane : lane ∈ lanes) {q : Queue}
    (hq : Routes.queue? { shared := x.system.shared, lanes } lane.destination = some q) :
    lane.queue = q := by
  have hnodup : (lanes.map (·.destination)).Nodup := h.ids ▸ r.registry.nodup_ids
  exact Routes.queue_eq_of_queue? hnodup hlane hq

/-- A chain has one lane only. -/
theorem HasLanes.index_eq {x : Scene χ σ} (h : HasLanes r x router lanes) {i j : Nat}
    {lane lane' : Lane χ} (hi : lanes[i]? = some lane) (hj : lanes[j]? = some lane')
    (hdestination : lane.destination = lane'.destination) : i = j := by
  have hi' : r.registry.ids[i]? = some lane.destination := by
    rw [← h.ids, List.getElem?_map, hi, Option.map_some]
  have hj' : r.registry.ids[j]? = some lane.destination := by
    rw [← h.ids, List.getElem?_map, hj, Option.map_some, hdestination]
  exact Registry.index_eq_of_getElem? hi' hj'

/-- Once the router has ended there is nothing left for the lanes. -/
theorem HasLanes.pending_eq_nil {x : Scene χ σ} (h : HasLanes r x router lanes)
    (hended : router = .ended) : x.pending router = [] := by
  obtain ⟨hitems, hfeed⟩ := h.ended hended
  rw [pending, hitems, hfeed, hended]
  rfl

/-- The router never loses a log in its hands: its lane is there, and attended as long as the router
is at work. -/
theorem HasLanes.exists_queue {x : Scene χ σ} {id : ChainId} {s : Sighting}
    (h : HasLanes r x (.routing id s) lanes) :
    ∃ q, Routes.queue? { shared := x.system.shared, lanes } id = some q ∧ q.put s ≠ .closed := by
  have hlane : (Routes.queue? { shared := x.system.shared, lanes } id).isSome := by
    rw [Routes.isSome_queue?_iff, h.ids]
    exact mem_ids_of_route? (h.inHand _ _ rfl)
  obtain ⟨q, hq⟩ := Option.isSome_iff_exists.mp hlane
  obtain ⟨lane, hmem, -, rfl⟩ := Routes.mem_of_queue?_eq_some hq
  refine ⟨lane.queue, hq, ?_⟩
  intro hclosed
  cases (h.sound lane hmem).attended (.inr (of_put_eq_closed hclosed))

/-- A step of the router keeps the topology. -/
theorem HasLanes.afterRouter {x : Scene χ σ} (h : HasLanes r x router lanes)
    {o : Outcome χ σ (Router × Routes χ)}
    (hmove : router.Moves false { shared := x.system.shared, lanes } x.nodes o) :
    HasLanes r (x.afterRouter o) o.task.1 o.task.2.lanes := by
  have hroute : ∀ s, Router.route? { shared := x.system.shared, lanes } s = r.route? s.log :=
    Router.route?_eq h.ids
  -- What is the same after every step is stated once; the cases differ in the rest.
  have hafter : ∀ {o : Outcome χ σ (Router × Routes χ)},
      o.task.2.lanes.map (·.destination) = r.registry.ids →
      (o.task.2.shared.writers = 0 → x.feed = []) →
      (o.task.1 = .ended → o.task.2.shared.items = [] ∧ x.feed = []) →
      (∀ id s, o.task.1 = .routing id s → r.route? s.log = some id) →
      (∀ lane ∈ o.task.2.lanes, lane.IsSound r o.task.1) →
      HasLanes r (x.afterRouter o) o.task.1 o.task.2.lanes :=
    fun hids hclosed hended hhand hsound =>
      ⟨h.relayer, h.calm, h.unwatched, rfl, hids, hclosed, hended, hhand, hsound⟩
  cases hmove with
  | closed take =>
    -- Nothing was pending, and all lanes have lost their writer.
    obtain ⟨-, hwriters⟩ := of_take_eq_ended take
    have hfeed := h.closed hwriters
    refine hafter ?_ (fun _ => hfeed) (fun _ => ⟨rfl, hfeed⟩)
      (fun _ _ hrouter => by cases hrouter) ?_
    · rw [← h.ids]
      simp [Routes.leave]
    · intro lane hlane
      obtain ⟨lane', hlane', rfl⟩ := List.mem_map.mp hlane
      exact ⟨fun _ => rfl, (h.sound lane' hlane').keeps, (h.sound lane' hlane').items⟩
  | @unrouted s shared text take route =>
    refine hafter h.ids (fun hwriters => h.closed ?_) (fun hrouter => by cases hrouter)
      (fun _ _ hrouter => by cases hrouter) h.sound
    rw [(eq_of_take take : x.system.shared = _)]
    exact hwriters
  | @routed s shared destination take route =>
    refine hafter h.ids (fun hwriters => h.closed ?_) (fun hrouter => by cases hrouter) ?_ ?_
    · rw [(eq_of_take take : x.system.shared = _)]
      exact hwriters
    · rintro _ _ ⟨⟩
      rwa [hroute] at route
    · exact fun lane hlane => (h.sound lane hlane).router fun hrouter => by cases hrouter
  | stopped stop => cases stop
  | @delivered destination s q q' lane put =>
    obtain ⟨rfl, -⟩ := eq_of_put put
    refine hafter ?_ h.closed (fun hrouter => by cases hrouter)
      (fun _ _ hrouter => by cases hrouter) ?_
    · rw [← h.ids]
      exact Routes.map_destination_setQueue _ destination _
    · intro lane' hlane'
      obtain ⟨l, hl, rfl⟩ := List.mem_map.mp hlane'
      have hsound : l.IsSound r .waiting :=
        (h.sound l hl).router fun hrouter => by cases hrouter
      split
      · -- The log joins the others that are for the lane.
        rename_i hdestination
        obtain rfl := h.queue_eq hl (hdestination ▸ lane)
        refine ⟨hsound.attended, hsound.keeps, ?_⟩
        intro s' hs'
        rcases List.mem_append.mp hs' with hs' | hs'
        · exact hsound.items s' hs'
        · rw [List.mem_singleton.mp hs']
          exact (h.inHand _ _ rfl).trans (congrArg some hdestination.symm)
      · exact hsound
  | lost gone =>
    obtain ⟨q, hq, hput⟩ := h.exists_queue
    exact absurd (gone q hq) hput
  | abandoned stop => cases stop

/-- A step of the router moves a log on or drops one that is in the list of no lane. -/
theorem HasLanes.advances_afterRouter {x : Scene χ (χ → List Request)}
    (h : HasLanes r x router lanes) {o : Outcome χ (χ → List Request) (Router × Routes χ)}
    (hmove : router.Moves false { shared := x.system.shared, lanes } x.nodes o) :
    Advances clients r x (x.afterRouter o) router o.task.1 lanes o.task.2.lanes
      [{ task := some .router, happenings := o.happenings }] := by
  have htask : ∀ i, some TaskId.router ≠ some (.laneWorker i) := fun i htask => by cases htask
  have hroute : ∀ s, Router.route? { shared := x.system.shared, lanes } s = r.route? s.log :=
    Router.route?_eq h.ids
  cases hmove with
  | closed take =>
    obtain ⟨hitems, hwriters⟩ := of_take_eq_ended take
    have hpending : x.pending .waiting = [] := by
      rw [pending, (hitems : x.system.shared.items = _), h.closed hwriters]
      rfl
    have hpending' : ∀ {o : Outcome χ (χ → List Request) (Router × Routes χ)},
        o.task.2.shared.items = [] → (x.afterRouter o).pending .ended = [] := by
      intro o ho
      rw [pending, Scene.afterRouter, ho, h.closed hwriters]
      rfl
    refine .of_map (fun l => { l with queue := l.queue.leave }) (fun _ => rfl) (fun _ => rfl) ?_ rfl
      ?_ htask rfl rfl
    · intro lane _
      rw [hpending, hpending' rfl]
      rfl
    · rw [hpending, hpending' rfl]
      rfl
  | @unrouted s shared text take route =>
    -- The log was pending for no lane.
    rw [hroute] at route
    have hpending := pending_of_take take
    refine .of_logsFor ?_ rfl ?_ htask rfl rfl
    · intro lane _
      rw [hpending, logsFor, logsFor, List.filter_cons_of_neg (by simp [route])]
      rfl
    · rw [hpending, logsForNone, List.filter_cons_of_pos (by simp [route])]
      rfl
  | @routed s shared destination take route =>
    -- The log goes from the queue into the router's hands, where it is still the first.
    have hpending := pending_of_take take
    refine .of_logsFor ?_ rfl ?_ htask rfl rfl
    · intro lane _
      rw [hpending]
      rfl
    · rw [hpending]
      rfl
  | stopped stop => cases stop
  | @delivered destination s q q' lane put =>
    obtain ⟨rfl, -⟩ := eq_of_put put
    have hs := h.inHand _ _ rfl
    have hpending : x.pending (.routing destination s) =
        s :: (x.system.shared.items ++ x.feed) := rfl
    refine .of_map (fun l => if l.destination = destination then
      { l with queue := { q with items := q.items ++ [s] } } else l) ?_ ?_ ?_ rfl ?_ htask rfl rfl
    · intro l
      split <;> rfl
    · intro l
      split <;> rfl
    · intro l hl
      rw [hpending, logsFor, logsFor]
      split
      · -- The log was the first of those that the lane waited for.
        rename_i hdestination
        obtain rfl := h.queue_eq hl (hdestination ▸ lane)
        rw [List.filter_cons_of_pos (by simp [hs, hdestination])]
        exact List.append_assoc ..
      · rename_i hdestination
        rw [List.filter_cons_of_neg (by simpa [hs] using Ne.symm hdestination)]
        rfl
    · rw [hpending, logsForNone, List.filter_cons_of_neg (by simp [hs])]
      rfl
  | lost gone =>
    obtain ⟨q, hq, hput⟩ := h.exists_queue
    exact absurd (gone q hq) hput
  | abandoned stop => cases stop

/-! ### The workers' part -/

/-- The scene after a step of the worker of a lane. -/
def afterWorker (x : Scene χ σ) (router : Router) (lanes : List (Lane χ)) (i : Nat) (lane : Lane χ)
    (o : Outcome χ σ (Worker χ × Queue)) : Scene χ σ where
  system :=
    { x.system with
      consumers := .perDestination router
        (lanes.set i { lane with worker := o.task.1, queue := o.task.2 }) }
  feed := x.feed
  nodes := o.nodes

/-- A step of a worker keeps the topology. -/
theorem HasLanes.afterWorker {env : Environment χ σ} (hunbroken : ∀ s, env.breaks s = false)
    {x : Scene χ σ} (h : HasLanes r x router lanes) {i : Nat} {lane : Lane χ}
    (hlane : lanes[i]? = some lane) {o : Outcome χ σ (Worker χ × Queue)}
    (hmove : lane.worker.Moves env r false lane.queue x.nodes o) :
    HasLanes r (x.afterWorker router lanes i lane o) router
      (lanes.set i { lane with worker := o.task.1, queue := o.task.2 }) where
  relayer := h.relayer
  calm := h.calm
  unwatched := h.unwatched
  consumers := rfl
  ids := by
    have hdestination : (lanes.map (·.destination))[i]? = some lane.destination := by
      rw [List.getElem?_map, hlane, Option.map_some]
    obtain ⟨hi, hget⟩ := List.getElem?_eq_some_iff.mp hdestination
    rw [← h.ids, List.map_set, ← hget, List.set_getElem_self]
  closed := h.closed
  ended := h.ended
  inHand := h.inHand
  sound := by
    intro lane' hlane'
    rcases List.mem_or_eq_of_mem_set hlane' with hmem | rfl
    · exact h.sound lane' hmem
    · exact (h.sound lane (List.mem_of_getElem? hlane)).move hunbroken hmove

/-- A step of a worker takes from the front of its own forecast and changes no other. -/
theorem HasLanes.advances_afterWorker [DecidableEq χ]
    (hclients : (r.registry.chains.map (·.client)).Nodup) {x : Scene χ (χ → List Request)}
    (h : HasLanes r x router lanes) {i : Nat} {lane : Lane χ} (hlane : lanes[i]? = some lane)
    {o : Outcome χ (χ → List Request) (Worker χ × Queue)}
    (hmove : lane.worker.Moves clients.environment r false lane.queue x.nodes o) :
    Advances clients r x (x.afterWorker router lanes i lane o) router router lanes
      (lanes.set i { lane with worker := o.task.1, queue := o.task.2 })
      [{ task := some (.laneWorker i), handled := lane.worker.handled?
         happenings := o.happenings }] where
  forecast := by
    intro j lane' hlane'
    have hsound := h.sound lane (List.mem_of_getElem? hlane)
    obtain ⟨hi, -⟩ := List.getElem?_eq_some_iff.mp hlane
    by_cases hij : i = j
    · -- Its own lane, at whose client the worker talks.
      subst hij
      obtain rfl : lane = lane' := Option.some.inj (hlane.symm.trans hlane')
      refine ⟨_, List.getElem?_set_self hi, rfl, ?_⟩
      rintro client hclient
      have hkeeps : lane.worker.KeepsTo (· = client) := by
        intro s next hworker
        refine (hsound.keeps s next hworker).mono (fun node hnode => ?_) fun _ h => h
        exact hnode.eq hclient
      have hmore : lane.queue.take = .ended →
          logsFor r lane.destination (x.pending router) = [] := by
        intro hended
        rw [h.pending_eq_nil (hsound.attended (.inl (of_take_eq_ended hended).2))]
        rfl
      rw [turnsOf_of_eq rfl]
      exact Worker.forecast_move (clients.alone_mirrors client) (fun _ => ⟨rfl, rfl⟩) hmove hkeeps
        hmore _
    · -- Another lane, of whose client the worker is not heard.
      refine ⟨lane', by rw [List.getElem?_set_ne hij, hlane'], rfl, ?_⟩
      intro client hclient
      have hother : ¬ IsClientOf r lane.destination client := by
        intro hclient'
        have hdestination : lane.destination = lane'.destination := hclient'.id_eq hclients hclient
        exact hij (h.index_eq hlane hlane' hdestination)
      have hnodes : o.nodes client = x.nodes client := hmove.nodes_eq hsound.keeps hother
      rw [turnsOf_of_ne (by simpa using hij), laneForecast, laneForecast, ← hnodes]
      rfl
  unrouted := by
    rw [droppedIn, List.flatMap_singleton, Turn.dropped, hmove.dropped_eq]
    rfl
  others := by
    intro turn hturn
    rw [List.mem_singleton.mp hturn]
    exact .inr ⟨i, (List.getElem?_eq_some_iff.mp hlane).1, rfl⟩

/-! ### Runs -/

/-- A move keeps the topology and advances the forecasts. -/
theorem HasLanes.move [DecidableEq χ] (hclients : (r.registry.chains.map (·.client)).Nodup)
    {x x' : Scene χ (χ → List Request)} (h : HasLanes r x router lanes) {turn : Turn χ}
    (hmove : x.Moves clients.environment turn x') :
    ∃ router' lanes', HasLanes r x' router' lanes' ∧
      Advances clients r x x' router router' lanes lanes' [turn] := by
  cases hmove with
  | @arrived s feed shared feed_eq put =>
    obtain ⟨rfl, -⟩ := eq_of_put put
    -- The log goes from the front of the feed to the end of the queue.
    have hpending : ({ x.withShared { x.system.shared with items := x.system.shared.items ++ [s] }
        with feed } : Scene χ (χ → List Request)).pending router = x.pending router := by
      simp [pending, withShared, feed_eq]
    refine ⟨router, lanes, ⟨h.relayer, h.calm, h.unwatched, h.consumers, h.ids, ?_, ?_, h.inHand,
      h.sound⟩, .of_logsFor (fun lane _ => by rw [hpending]) rfl ?_ (fun i => by simp) rfl rfl⟩
    · intro hwriters
      have hfeed := h.closed hwriters
      rw [feed_eq] at hfeed
      cases hfeed
    · intro hended
      have hfeed := (h.ended hended).2
      rw [feed_eq] at hfeed
      cases hfeed
    · rw [hpending]
      rfl
  | closed feed_eq =>
    exact ⟨router, lanes, ⟨h.relayer, h.calm, h.unwatched, h.consumers, h.ids, fun _ => feed_eq,
      h.ended, h.inHand, h.sound⟩, .of_logsFor (fun _ _ => rfl) rfl rfl (fun i => by simp) rfl rfl⟩
  | @stepped t notice o move =>
    cases move with
    | watcher watcher =>
      rw [h.unwatched] at watcher
      cases watcher
    | worker consumers =>
      rw [h.consumers] at consumers
      cases consumers
    | @router router' lanes' o consumers move =>
      obtain ⟨rfl, rfl⟩ : router = router' ∧ lanes = lanes' := by
        rw [h.consumers] at consumers
        exact Consumers.perDestination.inj consumers
      rw [h.calm] at move
      exact ⟨o.task.1, o.task.2.lanes, h.afterRouter move, h.advances_afterRouter move⟩
    | @laneWorker i router' lanes' lane o consumers lane_eq move =>
      obtain ⟨rfl, rfl⟩ : router = router' ∧ lanes = lanes' := by
        rw [h.consumers] at consumers
        exact Consumers.perDestination.inj consumers
      rw [h.relayer, h.calm] at move
      have hhandled : x.system.handled? (.laneWorker i) = lane.worker.handled? := by
        simp [System.handled?, h.consumers, lane_eq]
      rw [hhandled]
      exact ⟨router, _, h.afterWorker (fun _ => rfl) lane_eq move,
        h.advances_afterWorker hclients lane_eq move⟩

theorem HasLanes.length_eq {x : Scene χ σ} (h : HasLanes r x router lanes) :
    lanes.length = r.registry.ids.length := by
  rw [← h.ids, List.length_map]

theorem HasLanes.follow [DecidableEq χ] (hclients : (r.registry.chains.map (·.client)).Nodup)
    {x y : Scene χ (χ → List Request)} (h : HasLanes r x router lanes) {ms : List Move}
    {turns : List (Turn χ)} (hfollow : x.follow clients.environment ms = some (turns, y)) :
    ∃ router' lanes', HasLanes r y router' lanes' ∧
      Advances clients r x y router router' lanes lanes' turns := by
  revert router lanes
  refine follow_induction
    (motive := fun x turns y => ∀ {router lanes}, HasLanes r x router lanes →
      ∃ router' lanes', HasLanes r y router' lanes' ∧
        Advances clients r x y router router' lanes lanes' turns)
    ?_ ?_ hfollow
  · intro x router lanes h
    exact ⟨router, lanes, h, .refl⟩
  · intro x turn x' turns y hmove ih router lanes h
    obtain ⟨router', lanes', h', hadvances⟩ := h.move hclients hmove
    obtain ⟨router'', lanes'', h'', hadvances'⟩ := ih h'
    have hlength : lanes'.length = lanes.length := h'.length_eq.trans h.length_eq.symm
    exact ⟨router'', lanes'', h'', hadvances.trans hlength hadvances'⟩

/-- When all have ended, the router has. -/
theorem HasLanes.ended_of_isOver {x : Scene χ σ} (h : HasLanes r x router lanes)
    (hover : x.isOver = true) : router = .ended := by
  have hall := List.all_eq_true.mp hover .router (by simp [System.taskIds, h.consumers])
  have hfinished : router.isFinished = true := by
    simpa [System.isFinished, h.consumers] using hall
  cases router with
  | ended => rfl
  | waiting => cases hfinished
  | routing => cases hfinished

/-- When all have ended, no lane's worker will do anything more. -/
theorem HasLanes.laneForecast_of_isOver {x : Scene χ (χ → List Request)}
    (h : HasLanes r x router lanes) (hover : x.isOver = true) {i : Nat} {lane : Lane χ}
    (hlane : lanes[i]? = some lane) (client : χ) :
    x.laneForecast clients r router lane client = ([], []) := by
  obtain ⟨hi, -⟩ := List.getElem?_eq_some_iff.mp hlane
  have hall := List.all_eq_true.mp hover (.laneWorker i) (by simp [System.taskIds, h.consumers, hi])
  have hfinished : lane.worker.isFinished = true := by
    simpa [System.isFinished, h.consumers, hlane] using hall
  rw [laneForecast]
  cases hworker : lane.worker with
  | waiting | handling =>
    rw [hworker] at hfinished
    cases hfinished
  | ended | broken => rfl

/-- The lanes before the first log has come in. -/
def startLanes (r : Relayer χ) (capacity : Nat) : List (Lane χ) :=
  r.registry.ids.map fun destination => { destination, queue := { capacity, writers := 1 } }

theorem hasLanes_start (r : Relayer χ) (capacity : Nat) (feed : List Sighting) (nodes : σ) :
    HasLanes r (start r .perDestination capacity feed nodes) .waiting (startLanes r capacity) where
  relayer := rfl
  calm := rfl
  unwatched := rfl
  consumers := rfl
  ids := by
    rw [startLanes, List.map_map]
    exact List.map_id _
  closed hwriters := by cases hwriters
  ended hended := by cases hended
  inHand _ _ hrouter := by cases hrouter
  sound := by
    intro lane hlane
    obtain ⟨id, -, rfl⟩ := List.mem_map.mp hlane
    refine ⟨?_, ?_, fun _ hs => absurd hs List.not_mem_nil⟩
    · rintro (hwriters | hreader)
      · cases hwriters
      · cases hreader
    · rintro _ _ ⟨⟩

/-- What a run with a lane for every destination comes to: each lane's worker handles the logs for
its chain one after the other, beside the memory of that chain's client, the logs for no registered
chain are dropped, and nobody else handles a log or leaves a fact. -/
structure Sorted (clients : Clients χ) (r : Relayer χ) (feed : List Sighting)
    (asked : χ → List Request) (turns : List (Turn χ)) : Prop where
  handled : ∀ i id client, r.registry.ids[i]? = some id → IsClientOf r id client →
    handledIn (turnsOf (.laneWorker i) turns) =
      ((r.drain (logsFor r id feed)).run clients.alone (asked client)).1
  facts : ∀ i id client, r.registry.ids[i]? = some id → IsClientOf r id client →
    facts (eventsIn (turnsOf (.laneWorker i) turns)) =
      facts ((r.drain (logsFor r id feed)).run clients.alone (asked client)).2.2
  dropped : droppedIn turns = logsForNone r feed
  others : ∀ turn ∈ turns, turn.handled = none ∧ CrossCall.facts turn.events = [] ∨
    ∃ i < r.registry.ids.length, turn.task = some (.laneWorker i)

/-- Every run to the end comes to that, in whatever order the tasks take turns. -/
theorem follow_perDestination [DecidableEq χ]
    (hclients : (r.registry.chains.map (·.client)).Nodup) {capacity : Nat} {feed : List Sighting}
    {asked : χ → List Request} {turns : List (Turn χ)}
    (hturns : Finishes clients.environment r .perDestination capacity feed asked turns) :
    Sorted clients r feed asked turns := by
  obtain ⟨ms, y, hfollow, hover⟩ := hturns
  have hstart := hasLanes_start r capacity feed asked
  obtain ⟨router, lanes, hend, hadvances⟩ := hstart.follow hclients hfollow
  have hpending : y.pending router = [] := hend.pending_eq_nil (hend.ended_of_isOver hover)
  -- At the end there is nothing left of any forecast, so the turns are the whole of it.
  have hwhole : ∀ i id client, r.registry.ids[i]? = some id → IsClientOf r id client →
      (((r.drain (logsFor r id feed)).run clients.alone (asked client)).1,
        CrossCall.facts ((r.drain (logsFor r id feed)).run clients.alone (asked client)).2.2) =
      (handledIn (turnsOf (.laneWorker i) turns),
        CrossCall.facts (eventsIn (turnsOf (.laneWorker i) turns))) := by
    intro i id client hid hclient
    have hlane : (startLanes r capacity)[i]? =
        some { destination := id, queue := { capacity, writers := 1 } } := by
      rw [startLanes, List.getElem?_map, hid, Option.map_some]
    obtain ⟨lane, hlane', -, hforecast⟩ := hadvances.forecast i _ hlane
    have hlast := hforecast client hclient
    rwa [hend.laneForecast_of_isOver hover hlane' client, foldr_before, List.append_nil,
      List.append_nil] at hlast
  refine ⟨?_, ?_, ?_, ?_⟩
  · intro i id client hid hclient
    exact (Prod.mk.inj (hwhole i id client hid hclient)).1.symm
  · intro i id client hid hclient
    exact (Prod.mk.inj (hwhole i id client hid hclient)).2.symm
  · have hunrouted := hadvances.unrouted
    rw [hpending] at hunrouted
    exact (hunrouted.trans (List.append_nil _)).symm
  · intro turn hturn
    rw [← hstart.length_eq]
    exact hadvances.others turn hturn

end CrossCall.Service.Scene
