import Mathlib
import CrossCall.Proofs.Service.Follow

/-!
# A worker for every destination

With a lane for every destination the router takes the logs from the shared queue and sorts them
into the lanes, where the workers take turns in any order. The forecast of a worker then counts what
the router has not sorted yet but will put into its lane. The router moves logs along this list
without changing it, and drops those that are in the list of no lane.

## Main definitions

* `Lane.IsSound` — a lane is attended while the router is at work, and its logs are its own
* `Scene.HasLanes` — the topology in an environment where nothing is cancelled
* `Scene.Advances` — what some turns take from the forecasts

## Main results

* `Lane.IsSound.move` — a step of its worker keeps a lane sound
* `Scene.Advances.trans` — turns after others
* `Scene.Advances.of_map`, `Scene.Advances.of_logsFor` — logs that move on change no forecast
-/

namespace CrossCall

variable {χ σ : Type}

namespace Registry

/-- A chain is registered once. -/
theorem index_eq_of_getElem? {registry : Registry χ} {i j : Nat} {id : ChainId}
    (hi : registry.ids[i]? = some id) (hj : registry.ids[j]? = some id) : i = j := by
  obtain ⟨hlt, hget⟩ := List.getElem?_eq_some_iff.mp hi
  obtain ⟨hlt', hget'⟩ := List.getElem?_eq_some_iff.mp hj
  exact (registry.nodup_ids.getElem_inj_iff).mp (hget.trans hget'.symm)

end Registry

namespace Service

/-! ### Routes -/

namespace Routes

theorem mem_of_queue?_eq_some {routes : Routes χ} {id : ChainId} {q : Queue}
    (h : routes.queue? id = some q) :
    ∃ lane ∈ routes.lanes, lane.destination = id ∧ lane.queue = q := by
  obtain ⟨lane, hfind, rfl⟩ := Option.map_eq_some_iff.mp h
  exact ⟨lane, List.mem_of_find?_eq_some hfind, by simpa using List.find?_some hfind, rfl⟩

theorem isSome_queue?_iff {routes : Routes χ} {id : ChainId} :
    (routes.queue? id).isSome ↔ id ∈ routes.lanes.map (·.destination) := by
  simp [queue?]

/-- Where destinations are distinct, the queue of a destination is that of its lane. -/
theorem queue_eq_of_queue? {routes : Routes χ} (hnodup : (routes.lanes.map (·.destination)).Nodup)
    {lane : Lane χ} (hlane : lane ∈ routes.lanes) {q : Queue}
    (h : routes.queue? lane.destination = some q) : lane.queue = q := by
  obtain ⟨lane', hlane', hdestination, rfl⟩ := mem_of_queue?_eq_some h
  rw [List.inj_on_of_nodup_map hnodup hlane hlane' hdestination.symm]

theorem map_destination_setQueue (routes : Routes χ) (id : ChainId) (q : Queue) :
    (routes.setQueue id q).lanes.map (·.destination) = routes.lanes.map (·.destination) := by
  rw [setQueue, List.map_map]
  refine List.map_congr_left fun lane _ => ?_
  simp only [Function.comp_apply]
  split <;> rfl

end Routes

/-- The router sorts logs by the registered chain that they are for. -/
theorem Router.route?_eq {r : Relayer χ} {routes : Routes χ}
    (hids : routes.lanes.map (·.destination) = r.registry.ids) (s : Sighting) :
    Router.route? routes s = r.route? s.log := by
  rw [Router.route?, Relayer.route?]
  cases PostedMessage.decodeLog s.log with
  | error e => rfl
  | ok m =>
    have hsome : (routes.queue? m.destinationId).isSome =
        (r.registry.get? m.destinationId).isSome := by
      rw [Bool.eq_iff_iff, Routes.isSome_queue?_iff, Registry.isSome_get?_iff, hids]
    simp only [hsome]

/-- A log is only for a registered chain. -/
theorem mem_ids_of_route? {r : Relayer χ} {log : Log} {id : ChainId} (h : r.route? log = some id) :
    id ∈ r.registry.ids := by
  rw [Relayer.route?] at h
  split at h
  · cases h
  · split at h
    · rename_i hsome
      cases h
      exact Registry.isSome_get?_iff.mp hsome
    · cases h

/-- The log in the hands of the router. -/
def Router.inHand : Router → List Sighting
  | routing _ s => [s]
  | _ => []

/-! ### Lanes -/

/-- The client of a chain. -/
def IsClientOf (r : Relayer χ) (id : ChainId) (node : χ) : Prop :=
  ∃ destination, r.registry.get? id = some destination ∧ destination.client = node

theorem exists_isClientOf {r : Relayer χ} {id : ChainId} (h : id ∈ r.registry.ids) :
    ∃ client, IsClientOf r id client := by
  obtain ⟨registration, hget⟩ := Option.isSome_iff_exists.mp (Registry.isSome_get?_iff.mpr h)
  exact ⟨registration.client, registration, hget, rfl⟩

theorem IsClientOf.eq {r : Relayer χ} {id : ChainId} {node node' : χ} (h : IsClientOf r id node)
    (h' : IsClientOf r id node') : node = node' := by
  obtain ⟨destination, hget, rfl⟩ := h
  obtain ⟨destination', hget', rfl⟩ := h'
  rw [Option.some.inj (hget.symm.trans hget')]

/-- A node is the client of one chain only. -/
theorem IsClientOf.id_eq {r : Relayer χ} (hclients : (r.registry.chains.map (·.client)).Nodup)
    {id id' : ChainId} {node : χ} (h : IsClientOf r id node) (h' : IsClientOf r id' node) :
    id = id' := by
  obtain ⟨destination, hget, rfl⟩ := h
  obtain ⟨destination', hget', hclient⟩ := h'
  exact Relayer.eq_of_client_eq hclients hget hget' hclient.symm

/-- The lane's reader and its writer are there as long as the router has not ended, the worker keeps
to the client of the destination, and the waiting logs are for the destination. -/
structure Lane.IsSound (r : Relayer χ) (router : Router) (lane : Lane χ) : Prop where
  attended : lane.queue.writers = 0 ∨ lane.queue.hasReader = false → router = .ended
  keeps : lane.worker.KeepsTo (IsClientOf r lane.destination)
  items : ∀ s ∈ lane.queue.items, r.route? s.log = some lane.destination

theorem Lane.IsSound.router {r : Relayer χ} {router router' : Router} {lane : Lane χ}
    (h : lane.IsSound r router) (hrouter : router = .ended → router' = .ended) :
    lane.IsSound r router' :=
  ⟨fun hgone => hrouter (h.attended hgone), h.keeps, h.items⟩

/-- A worker that does not ask a node leaves its memory alone. -/
theorem Worker.Moves.nodes_eq [DecidableEq χ] {clients : Clients χ} {r : Relayer χ}
    {cancelled : Bool} {q : Queue} {asked : χ → List Request} {w : Worker χ}
    {o : Outcome χ (χ → List Request) (Worker χ × Queue)}
    (h : w.Moves clients.environment r cancelled q asked o) {P : χ → Prop} (hw : w.KeepsTo P)
    {n : χ} (hn : ¬ P n) : o.nodes n = asked n := by
  cases h with
  | @asked s node request next unbroken =>
    have hne : n ≠ node := by
      rintro rfl
      exact hn (hw s _ rfl).1
    simp [Clients.environment, hne]
  | @broke s node request next breaks =>
    cases breaks
  | closed | took | stopped | fulfilled | rejected | looked | noted => rfl

/-- A worker drops nothing. -/
theorem Worker.Moves.dropped_eq {env : Environment χ σ} {r : Relayer χ} {cancelled : Bool}
    {q : Queue} {nodes : σ} {w : Worker χ} {o : Outcome χ σ (Worker χ × Queue)}
    (h : w.Moves env r cancelled q nodes o) :
    o.happenings.filterMap Happening.dropped? = [] := by
  cases h <;> rfl

/-- A step of its worker keeps a lane sound. -/
theorem Lane.IsSound.move {env : Environment χ σ} (hunbroken : ∀ s, env.breaks s = false)
    {r : Relayer χ} {router : Router} {lane : Lane χ} (h : lane.IsSound r router) {nodes : σ}
    {o : Outcome χ σ (Worker χ × Queue)}
    (hmove : lane.worker.Moves env r false lane.queue nodes o) :
    Lane.IsSound r router { lane with worker := o.task.1, queue := o.task.2 } := by
  obtain ⟨destination, queue, worker⟩ := lane
  obtain ⟨hattended, hkeeps, hitems⟩ := h
  cases hmove with
  | closed take =>
    -- The reader leaves, but only after the writer has.
    have hwriters := (of_take_eq_ended take).2
    refine ⟨fun _ => hattended (.inl hwriters), ?_, by simp [Queue.abandon]⟩
    rintro _ _ ⟨⟩
  | @took s q' take =>
    -- The log is for the lane's chain, and is handled at that chain's client.
    simp only at take
    rw [eq_of_take take] at hattended hitems
    refine ⟨hattended, ?_, fun s' hs' => hitems s' (List.mem_cons_of_mem _ hs')⟩
    rintro _ next ⟨⟩
    refine Relayer.handle_within.mono ?_ fun _ h => h
    rintro node ⟨id, registration, hroute, hget, rfl⟩
    obtain rfl : destination = id :=
      Option.some.inj ((hitems s List.mem_cons_self).symm.trans hroute)
    exact ⟨registration, hget, rfl⟩
  | stopped stop => cases stop
  | fulfilled | rejected =>
    refine ⟨hattended, ?_, hitems⟩
    rintro _ _ ⟨⟩
  | asked unbroken =>
    refine ⟨hattended, ?_, hitems⟩
    rintro _ _ ⟨⟩
    exact (hkeeps _ _ rfl).2 _
  | broke breaks =>
    rw [hunbroken] at breaks
    cases breaks
  | looked =>
    refine ⟨hattended, ?_, hitems⟩
    rintro _ _ ⟨⟩
    exact hkeeps _ _ rfl _
  | noted =>
    refine ⟨hattended, ?_, hitems⟩
    rintro _ _ ⟨⟩
    exact (hkeeps _ _ rfl).2

/-! ### The topology -/

/-- The logs among `ss` that are for a chain. -/
def logsFor (r : Relayer χ) (id : ChainId) (ss : List Sighting) : List Sighting :=
  ss.filter fun s => r.route? s.log = some id

/-- The logs among `ss` that are for no registered chain. -/
def logsForNone (r : Relayer χ) (ss : List Sighting) : List Sighting :=
  ss.filter fun s => r.route? s.log = none

/-- The turns of a task. -/
def turnsOf (t : TaskId) (turns : List (Turn χ)) : List (Turn χ) :=
  turns.filter fun turn => turn.task = some t

theorem turnsOf_of_eq {t : TaskId} {turn : Turn χ} (h : turn.task = some t) :
    turnsOf t [turn] = [turn] := by
  simp [turnsOf, h]

theorem turnsOf_of_ne {t : TaskId} {turn : Turn χ} (h : turn.task ≠ some t) :
    turnsOf t [turn] = [] := by
  simp [turnsOf, h]

namespace Scene

/-- The router reads from the shared queue, which is not closed before the last log has come in, and
there is a sound lane for every registered chain. -/
structure HasLanes (r : Relayer χ) (x : Scene χ σ) (router : Router) (lanes : List (Lane χ)) :
    Prop where
  relayer : x.system.relayer = r
  calm : x.system.cancelled = false
  unwatched : x.system.watchers = []
  consumers : x.system.consumers = .perDestination router lanes
  ids : lanes.map (·.destination) = r.registry.ids
  closed : x.system.shared.writers = 0 → x.feed = []
  ended : router = .ended → x.system.shared.items = [] ∧ x.feed = []
  inHand : ∀ id s, router = .routing id s → r.route? s.log = some id
  sound : ∀ lane ∈ lanes, lane.IsSound r router

/-- The logs that are in no lane yet. -/
def pending (x : Scene χ σ) (router : Router) : List Sighting :=
  router.inHand ++ (x.system.shared.items ++ x.feed)

/-- What the worker of a lane will still do, beside the memory of one client. -/
def laneForecast (clients : Clients χ) (r : Relayer χ) (x : Scene χ (χ → List Request))
    (router : Router) (lane : Lane χ) (client : χ) : List Handled × List (Event χ) :=
  lane.worker.forecast clients.alone r
    (lane.queue.items ++ logsFor r lane.destination (x.pending router)) (x.nodes client)

/-- What some turns take from what is to come. Every lane's forecast loses what its worker did in
its own turns, the pending logs lose those that were dropped, and nobody else than the workers of
the lanes handles logs or leaves facts. -/
structure Advances (clients : Clients χ) (r : Relayer χ) (x x' : Scene χ (χ → List Request))
    (router router' : Router) (lanes lanes' : List (Lane χ)) (turns : List (Turn χ)) : Prop where
  forecast : ∀ (i : Nat) (lane : Lane χ), lanes[i]? = some lane →
    ∃ lane', lanes'[i]? = some lane' ∧ lane'.destination = lane.destination ∧
      ∀ client, IsClientOf r lane.destination client →
        x.laneForecast clients r router lane client =
          (turnsOf (.laneWorker i) turns).foldr Turn.before
            (x'.laneForecast clients r router' lane' client)
  unrouted : logsForNone r (x.pending router) =
    droppedIn turns ++ logsForNone r (x'.pending router')
  others : ∀ turn ∈ turns, turn.handled = none ∧ facts turn.events = [] ∨
    ∃ i < lanes.length, turn.task = some (.laneWorker i)

namespace Advances

variable {clients : Clients χ} {r : Relayer χ} {x x' x'' : Scene χ (χ → List Request)}
  {router router' router'' : Router} {lanes lanes' lanes'' : List (Lane χ)}
  {turns turns' : List (Turn χ)}

theorem refl : Advances clients r x x router router lanes lanes [] where
  forecast _ lane hlane := ⟨lane, hlane, rfl, fun _ _ => rfl⟩
  unrouted := rfl
  others _ h := absurd h List.not_mem_nil

theorem trans (h : Advances clients r x x' router router' lanes lanes' turns)
    (hlength : lanes'.length = lanes.length)
    (h' : Advances clients r x' x'' router' router'' lanes' lanes'' turns') :
    Advances clients r x x'' router router'' lanes lanes'' (turns ++ turns') where
  forecast := by
    intro i lane hlane
    obtain ⟨lane', hlane', hdestination, hforecast⟩ := h.forecast i lane hlane
    obtain ⟨lane'', hlane'', hdestination', hforecast'⟩ := h'.forecast i lane' hlane'
    refine ⟨lane'', hlane'', hdestination'.trans hdestination, ?_⟩
    intro client hclient
    rw [hforecast client hclient, hforecast' client (hdestination ▸ hclient), turnsOf, turnsOf,
      turnsOf, List.filter_append, List.foldr_append]
  unrouted := by
    rw [h.unrouted, h'.unrouted, droppedIn, droppedIn, droppedIn, List.flatMap_append,
      List.append_assoc]
  others := by
    intro turn hturn
    rcases List.mem_append.mp hturn with hturn | hturn
    · exact h.others turn hturn
    · rw [← hlength]
      exact h'.others turn hturn

/-- Logs that move towards their lanes, or are dropped, change no forecast. -/
theorem of_map {turn : Turn χ} (f : Lane χ → Lane χ)
    (hdestination : ∀ lane, (f lane).destination = lane.destination)
    (hworker : ∀ lane, (f lane).worker = lane.worker)
    (hitems : ∀ lane ∈ lanes,
      (f lane).queue.items ++ logsFor r lane.destination (x'.pending router') =
        lane.queue.items ++ logsFor r lane.destination (x.pending router))
    (hnodes : x'.nodes = x.nodes)
    (hunrouted : logsForNone r (x.pending router) =
      turn.dropped ++ logsForNone r (x'.pending router'))
    (htask : ∀ i, turn.task ≠ some (.laneWorker i)) (hhandled : turn.handled = none)
    (hfacts : facts turn.events = []) :
    Advances clients r x x' router router' lanes (lanes.map f) [turn] where
  forecast := by
    intro i lane hlane
    refine ⟨f lane, by rw [List.getElem?_map, hlane, Option.map_some], hdestination lane, ?_⟩
    intro client _
    rw [turnsOf_of_ne (htask i), laneForecast, laneForecast, hdestination, hworker, hnodes,
      hitems lane (List.mem_of_getElem? hlane)]
    rfl
  unrouted := by
    rw [hunrouted, droppedIn, List.flatMap_singleton]
  others := by
    intro turn' hturn
    rw [List.mem_singleton.mp hturn]
    exact .inl ⟨hhandled, hfacts⟩

/-- Logs that come nearer to the lanes which they are for, or are dropped, change no forecast. -/
theorem of_logsFor {turn : Turn χ}
    (hlogs : ∀ lane ∈ lanes, logsFor r lane.destination (x'.pending router') =
      logsFor r lane.destination (x.pending router))
    (hnodes : x'.nodes = x.nodes)
    (hunrouted : logsForNone r (x.pending router) =
      turn.dropped ++ logsForNone r (x'.pending router'))
    (htask : ∀ i, turn.task ≠ some (.laneWorker i)) (hhandled : turn.handled = none)
    (hfacts : facts turn.events = []) :
    Advances clients r x x' router router' lanes lanes [turn] := by
  have hmap : Advances clients r x x' router router' lanes (lanes.map id) [turn] :=
    of_map id (fun _ => rfl) (fun _ => rfl) (fun lane hlane => by rw [hlogs lane hlane, id]) hnodes
      hunrouted htask hhandled hfacts
  rwa [List.map_id] at hmap

end Advances

end Scene

end Service

end CrossCall
