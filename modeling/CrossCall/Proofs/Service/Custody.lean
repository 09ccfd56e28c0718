import Mathlib
import CrossCall.Proofs.Service.Recounting
import CrossCall.Proofs.Service.Topologies

/-!
# Where the logs are

A log that a watcher polled is in its batch, in the shared queue, in the hands of the router, or in
the queue of a lane, until it is handed to the relayer or dropped. As long as nothing interrupts the
run, no log gets lost on this way, none is doubled, and those that one watcher saw for one
destination do not overtake each other. A worker handles what it is handed to the end before it
takes the next log.

What the tasks hold is one list, which is ordered by how near a log is to the relayer. A step moves
a log along this list past logs of other destinations only, so that the part of one watcher and one
destination stays as it is, but for what is polled at its end and what is settled at its front.

## Main definitions

* `seenFor` — the logs that a watcher saw for a destination
* `System.held` — the logs that the tasks hold, in order
* `polledIn`, `settledIn` — the logs that were polled, and those that were handed on or dropped
* `Custody` — where the logs are after a run

## Main results

* `System.Keeps.of_changes` — no change loses, doubles, or reorders a log
* `Service.custody_of_reaches` — where the logs are in every state that a calm run reaches
-/

namespace CrossCall

variable {χ σ : Type}

/-- The chain that a log names as its destination, if it can be read. -/
def destination? (log : Log) : Option ChainId :=
  (PostedMessage.decodeLog log).toOption.map PostedMessage.destinationId

theorem route?_eq_of_destination? {r : Relayer χ} {log log' : Log}
    (h : destination? log = destination? log') : r.route? log = r.route? log' := by
  rw [destination?, destination?] at h
  rw [Relayer.route?, Relayer.route?]
  cases hlog : PostedMessage.decodeLog log with
  | error e =>
    cases hlog' : PostedMessage.decodeLog log' with
    | error e' => rfl
    | ok m' => simp [hlog, hlog', Except.toOption] at h
  | ok m =>
    cases hlog' : PostedMessage.decodeLog log' with
    | error e' => simp [hlog, hlog', Except.toOption] at h
    | ok m' =>
      have hid : m.destinationId = m'.destinationId := by
        simpa [hlog, hlog', Except.toOption] using h
      simp only [hid]

namespace Service

/-! ### The logs of one watcher for one destination -/

/-- Whether a log was seen by a watcher and names a destination. -/
def IsSeenFor (i : Nat) (id : Option ChainId) (s : Sighting) : Prop :=
  s.watcher = i ∧ destination? s.log = id

instance (i : Nat) (id : Option ChainId) (s : Sighting) : Decidable (IsSeenFor i id s) :=
  inferInstanceAs (Decidable (_ ∧ _))

/-- The logs that a watcher saw for a destination. -/
def seenFor (i : Nat) (id : Option ChainId) (ss : List Sighting) : List Sighting :=
  ss.filter fun s => IsSeenFor i id s

section

variable {i : Nat} {id : Option ChainId} {ss ss' : List Sighting}

theorem seenFor_append : seenFor i id (ss ++ ss') = seenFor i id ss ++ seenFor i id ss' :=
  List.filter_append ..

theorem seenFor_eq_nil_of_watcher (h : ∀ s ∈ ss, s.watcher ≠ i) : seenFor i id ss = [] :=
  List.filter_eq_nil_iff.mpr fun s hs hseen => h s hs (of_decide_eq_true hseen).1

/-- Logs can pass logs that are for other destinations. -/
theorem seenFor_comm (h : ∀ s ∈ ss, ∀ s' ∈ ss', destination? s.log ≠ destination? s'.log) :
    seenFor i id ss ++ seenFor i id ss' = seenFor i id ss' ++ seenFor i id ss := by
  -- One of the two lists holds no log for the destination.
  by_cases hss : seenFor i id ss = []
  · rw [hss, List.nil_append, List.append_nil]
  · obtain ⟨s, hs⟩ := List.exists_mem_of_ne_nil _ hss
    obtain ⟨hmem, hseen⟩ := List.mem_filter.mp hs
    have hss' : seenFor i id ss' = [] := by
      refine List.filter_eq_nil_iff.mpr fun s' hs' hseen' => h s hmem s' hs' ?_
      exact (of_decide_eq_true hseen).2.trans (of_decide_eq_true hseen').2.symm
    rw [hss', List.nil_append, List.append_nil]

end

/-! ### What the tasks hold -/

/-- The log in the hands of the router, if there is one. -/
def Consumers.inHand : Consumers χ → List Sighting
  | single _ => []
  | perDestination router _ => router.inHand

namespace System

/-- The logs that are on their way to the relayer: in the queues of the lanes, in the hands of the
router, and in the shared queue. -/
def inTransit (s : System χ) : List Sighting :=
  s.consumers.lanes.flatMap (·.queue.items) ++ (s.consumers.inHand ++ s.shared.items)

/-- The polled logs that are not in the shared queue yet. -/
def batches (s : System χ) : List Sighting := s.watchers.flatMap Watcher.batch

/-- The logs that the tasks hold. -/
def held (s : System χ) : List Sighting := s.inTransit ++ s.batches

end System

/-! ### What is recorded of the logs -/

/-- The logs that a watcher polled in a turn, as it saw them. -/
def Turn.polled (watches : List (Watch χ)) (t : Turn χ) : List Sighting :=
  match t.task with
  | some (.watcher i) => watches[i]?.toList.flatMap fun w =>
    (t.happenings.flatMap Happening.polled).map w.sighting
  | _ => []

/-- The logs that the watchers polled in some turns, in order. -/
def polledIn (watches : List (Watch χ)) (turns : List (Turn χ)) : List Sighting :=
  turns.flatMap (Turn.polled watches)

/-- The log that left the tasks: it was handed to the relayer, or the router dropped it. -/
def Happening.settled? : Happening χ → Option Sighting
  | handed s | dropped s => some s
  | _ => none

/-- The logs that left the tasks in a turn. -/
def Turn.settled (t : Turn χ) : List Sighting := t.happenings.filterMap Happening.settled?

/-- The logs that left the tasks in some turns, in order. -/
def settledIn (turns : List (Turn χ)) : List Sighting := turns.flatMap Turn.settled

/-- Whether the consumers of a topology hand a log to the relayer. The router drops those that are
for no registered chain. -/
def handsOn (r : Relayer χ) : Topology → Sighting → Bool
  | .single, _ => true
  | .perDestination, s => (r.route? s.log).isSome

/-! ### What turns do to the logs -/

/-- What some turns do to the logs: those of one watcher for one destination stay in order, but for
what is polled at the end and what is settled at the front, and what is settled is handed to the
relayer if it is to be handed on. -/
structure System.Keeps (r : Relayer χ) (topology : Topology) (watches : List (Watch χ))
    (s : System χ) (turns : List (Turn χ)) (s' : System χ) : Prop where
  order : ∀ i id, seenFor i id (s.held ++ polledIn watches turns) =
    seenFor i id (settledIn turns ++ s'.held)
  handed : handedIn turns = (settledIn turns).filter fun s => handsOn r topology s
  dropped : droppedIn turns = (settledIn turns).filter fun s => !handsOn r topology s

theorem Happening.IsLine.settled?_eq {h : Happening χ} (hline : h.IsLine) : h.settled? = none := by
  obtain ⟨level, target, text, rfl⟩ := hline
  rfl

theorem Watcher.watcher_of_mem_batch {w : Watcher χ} {s : Sighting} (h : s ∈ w.batch) :
    s.watcher = w.watch.id := by
  rw [batch] at h
  split at h
  · obtain ⟨log, -, rfl⟩ := List.mem_map.mp h
    rfl
  · cases h

section

variable {env : Environment χ σ} {nodes : σ}

/-- A watcher settles nothing. -/
theorem Watcher.Moves.settled?_eq {now : Nat} {cancelled : Bool} {w : Watcher χ} {q : Queue}
    {o : Outcome χ σ (Watcher χ × Queue)} (h : w.Moves env now cancelled q nodes o) :
    ∀ x ∈ o.happenings, x.settled? = none ∧ x.handed? = none ∧ x.dropped? = none := by
  have hline : ∀ {x : Happening χ}, x.IsLine →
      x.settled? = none ∧ x.handed? = none ∧ x.dropped? = none :=
    fun hx => ⟨hx.settled?_eq, hx.handed?_eq, hx.dropped?_eq⟩
  have hannounced : (announced : Happening χ).IsLine := Happening.isLine_line _ _ _
  intro x hx
  cases h with
  | uninstalled phase answer_eq unbroken lines_eq =>
    rcases List.mem_cons.mp hx with rfl | hx
    · exact ⟨rfl, rfl, rfl⟩
    · exact hline (lines_eq x hx)
  | installed | broke | polled | failed =>
    rw [List.mem_singleton.mp hx]
    exact ⟨rfl, rfl, rfl⟩
  | stopped =>
    rw [List.mem_singleton.mp hx]
    exact ⟨rfl, rfl, rfl⟩
  | interrupted =>
    rw [List.mem_singleton.mp hx]
    exact hline hannounced
  | paused => cases hx
  | refused =>
    simp only [List.mem_cons, List.not_mem_nil, or_false] at hx
    rcases hx with rfl | rfl <;> exact ⟨rfl, rfl, rfl⟩
  | forwarded =>
    simp only [List.mem_cons, List.not_mem_nil, or_false] at hx
    rcases hx with rfl | rfl | rfl <;> exact ⟨rfl, rfl, rfl⟩
  | refusedLog =>
    simp only [List.mem_cons, List.not_mem_nil, or_false] at hx
    rcases hx with rfl | rfl <;> exact ⟨rfl, rfl, rfl⟩

/-- The router hands nothing on and asks nobody. -/
theorem Router.Moves.quiet {cancelled : Bool} {routes : Routes χ} {router : Router}
    {o : Outcome χ σ (Router × Routes χ)} (h : router.Moves cancelled routes nodes o) :
    o.happenings.filterMap Happening.handed? = [] ∧
      ∀ e, .event (.exchange e) ∉ o.happenings := by
  cases h with
  | closed | unrouted | routed | stopped | delivered | lost | abandoned =>
    exact ⟨rfl, by simp [line, Happening.line]⟩

/-- Only workers hand logs to the relayer. -/
theorem System.Changes.exists_isWorker_of_handed {s s' : System χ} {nodes' : σ} {turn : Turn χ}
    (h : System.Changes env s nodes turn s' nodes') (hhanded : turn.handed ≠ []) :
    ∃ t, turn.task = some t ∧ t.IsWorker := by
  cases h with
  | aside kept lines =>
    refine absurd (List.filterMap_eq_nil_iff.mpr ?_) hhanded
    exact fun x hx => (lines x hx).handed?_eq
  | stepped move =>
    cases move with
    | watcher hw step =>
      refine absurd (List.filterMap_eq_nil_iff.mpr ?_) hhanded
      exact fun x hx => ((Watcher.moves_of_step step).settled?_eq x hx).2.1
    | router consumers move => exact absurd move.quiet.1 hhanded
    | worker | laneWorker => exact ⟨_, rfl, trivial⟩

/-- What a worker settles, it takes from the front of its queue and hands to the relayer. -/
theorem Worker.Moves.settled_append {r : Relayer χ} {q : Queue} {w : Worker χ}
    {o : Outcome χ σ (Worker χ × Queue)} (h : w.Moves env r false q nodes o)
    (hwhole : o.task.1.isBroken = false) :
    o.happenings.filterMap Happening.settled? ++ o.task.2.items = q.items ∧
      o.happenings.filterMap Happening.handed? = o.happenings.filterMap Happening.settled? ∧
      o.happenings.filterMap Happening.dropped? = [] := by
  refine ⟨?_, ?_, h.dropped_eq⟩
  · cases h with
    | closed take =>
      rw [(of_take_eq_ended take).1]
      rfl
    | took take =>
      rw [eq_of_take take]
      rfl
    | stopped stop => cases stop
    | broke => cases hwhole
    | fulfilled | rejected | asked | looked | noted => rfl
  · cases h <;> rfl

/-- The lanes with one of them in front of the others. -/
theorem seenFor_flatMap_queue {r : Relayer χ} {capacity : Nat} {router : Router}
    {before after : List (Lane χ)} {lane : Lane χ}
    (hfits : Consumers.Fits r capacity .perDestination
      (.perDestination router (before ++ lane :: after)))
    (ss : List Sighting) (hss : ∀ s ∈ ss, r.route? s.log = some lane.destination)
    (others : List (Lane χ)) (hothers : ∀ l ∈ others, l ∈ before ∨ l ∈ after) (i : Nat)
    (id : Option ChainId) :
    seenFor i id (others.flatMap (·.queue.items)) ++ seenFor i id ss =
      seenFor i id ss ++ seenFor i id (others.flatMap (·.queue.items)) := by
  cases hfits with
  | perDestination ids inHand fits =>
    refine seenFor_comm fun s hs s' hs' hsame => ?_
    obtain ⟨l, hl, hs⟩ := List.mem_flatMap.mp hs
    have hroute : r.route? s.log = some l.destination := by
      refine (fits l ?_).items s hs
      rcases hothers l hl with h | h
      · exact List.mem_append_left _ h
      · exact List.mem_append_right _ (List.mem_cons_of_mem _ h)
    have hdestination : l.destination = lane.destination := by
      rw [route?_eq_of_destination? hsame, hss s' hs'] at hroute
      exact (Option.some.inj hroute).symm
    -- But the destinations of the lanes are distinct.
    have hnodup := ids ▸ r.registry.nodup_ids
    rw [List.map_append, List.map_cons, List.nodup_middle, List.nodup_cons] at hnodup
    refine hnodup.1 (hdestination ▸ ?_)
    rw [List.mem_append]
    exact (hothers l hl).imp List.mem_map_of_mem List.mem_map_of_mem

/-- A lane and its queue, among the others. -/
theorem Routes.exists_of_queue? {routes : Routes χ}
    (hnodup : (routes.lanes.map (·.destination)).Nodup) {id : ChainId} {q : Queue}
    (h : routes.queue? id = some q) :
    ∃ before lane after, routes.lanes = before ++ lane :: after ∧ lane.destination = id ∧
      lane.queue = q ∧ ∀ q', (routes.setQueue id q').lanes =
        before ++ { lane with queue := q' } :: after := by
  obtain ⟨lane, hmem, rfl, hq⟩ := mem_of_queue?_eq_some h
  obtain ⟨before, after, hlanes⟩ := List.append_of_mem hmem
  refine ⟨before, lane, after, hlanes, rfl, hq, fun q' => ?_⟩
  rw [hlanes, List.map_append, List.map_cons, List.nodup_middle, List.nodup_cons,
    List.mem_append, not_or] at hnodup
  have hothers : ∀ ls : List (Lane χ), lane.destination ∉ ls.map (·.destination) →
      ls.map (fun l => if l.destination = lane.destination then { l with queue := q' } else l) =
        ls := by
    intro ls hls
    refine (List.map_congr_left fun l hl => if_neg ?_).trans (List.map_id _)
    intro hdestination
    exact hls (hdestination ▸ List.mem_map_of_mem hl)
  rw [setQueue, hlanes, List.map_append, List.map_cons, hothers _ hnodup.1.1, hothers _ hnodup.1.2,
    if_pos rfl]

/-- The router moves the logs on without a change of their order, and drops those for no registered
chain, as long as the workers of the lanes are there. -/
theorem Router.Moves.keeps {r : Relayer χ} {capacity : Nat} {router : Router} {routes : Routes χ}
    {o : Outcome χ σ (Router × Routes χ)} (h : router.Moves false routes nodes o)
    (hfits : Consumers.Fits r capacity .perDestination (.perDestination router routes.lanes))
    (hattended : ∀ lane ∈ routes.lanes, lane.worker.isFinished = false) :
    (∀ i id, seenFor i id (routes.lanes.flatMap (·.queue.items) ++
        (router.inHand ++ routes.shared.items)) =
      seenFor i id (o.happenings.filterMap Happening.settled? ++
        (o.task.2.lanes.flatMap (·.queue.items) ++ (o.task.1.inHand ++ o.task.2.shared.items)))) ∧
      o.happenings.filterMap Happening.handed? = [] ∧
      o.happenings.filterMap Happening.dropped? = o.happenings.filterMap Happening.settled? ∧
      ∀ s ∈ o.happenings.filterMap Happening.settled?, r.route? s.log = none := by
  have hfits' := hfits
  cases hfits' with
  | perDestination ids inHand fits =>
    cases h with
    | closed take =>
      refine ⟨fun i id => ?_, rfl, rfl, by simp [Happening.settled?, line, Happening.line]⟩
      change _ = seenFor i id ([] ++ _)
      simp [Routes.leave, Queue.leave, Queue.abandon, (of_take_eq_ended take).1, Router.inHand,
        List.flatMap_map]
    | @unrouted s shared text take route =>
      have hroute : r.route? s.log = none := (Router.route?_eq ids s).symm.trans route
      refine ⟨fun i id => ?_, rfl, rfl, ?_⟩
      · have hcomm : seenFor i id (routes.lanes.flatMap (·.queue.items)) ++ seenFor i id [s] =
            seenFor i id [s] ++ seenFor i id (routes.lanes.flatMap (·.queue.items)) := by
          refine seenFor_comm fun s' hs' s'' hs'' hsame => ?_
          obtain ⟨lane, hlane, hs'⟩ := List.mem_flatMap.mp hs'
          have hroute' := (fits lane hlane).items s' hs'
          rw [route?_eq_of_destination? hsame, List.mem_singleton.mp hs'', hroute] at hroute'
          cases hroute'
        have hshared : routes.shared.items = [s] ++ shared.items := by
          rw [eq_of_take take]
          rfl
        have hsettled : ([.dropped s, line .warn text] : List (Happening χ)).filterMap
            Happening.settled? = [s] := rfl
        simp only [hshared, hsettled, Router.inHand, seenFor_append, ← List.append_assoc] at hcomm ⊢
        rw [← hcomm]
        simp [seenFor]
      · intro s' hs'
        rw [List.mem_singleton.mp hs']
        exact hroute
    | @routed s shared destination take route =>
      refine ⟨fun i id => ?_, rfl, rfl, by simp [Happening.settled?, line, Happening.line]⟩
      rw [eq_of_take take]
      rfl
    | stopped stop | abandoned stop => cases stop
    | @delivered destination s q q' lane put =>
      refine ⟨fun i id => ?_, rfl, rfl, by simp [Happening.settled?]⟩
      obtain ⟨before, lane, after, hlanes, rfl, rfl, hset⟩ :=
        Routes.exists_of_queue? (ids ▸ r.registry.nodup_ids) lane
      have hcomm := seenFor_flatMap_queue (hlanes ▸ hfits) [s]
        (fun s' hs' => List.mem_singleton.mp hs' ▸ inHand _ _ rfl) after (fun l hl => .inr hl) i id
      have hsettled : ([.queued s] : List (Happening χ)).filterMap Happening.settled? = [] := rfl
      simp only [hset, hlanes, hsettled, (eq_of_put put).1, Router.inHand, seenFor_append,
        List.flatMap_append, List.flatMap_cons, List.append_assoc, List.nil_append] at hcomm ⊢
      rw [← List.append_assoc (seenFor i id [s]), ← hcomm]
      simp [seenFor, Routes.setQueue]
    | @lost destination s gone =>
      -- The lane of the log is there and is read.
      have hmem : destination ∈ routes.lanes.map (·.destination) := by
        rw [ids]
        exact mem_ids_of_route? (inHand _ _ rfl)
      obtain ⟨q, hq⟩ := Option.isSome_iff_exists.mp (Routes.isSome_queue?_iff.mpr hmem)
      obtain ⟨lane, hlane, rfl, rfl⟩ := Routes.mem_of_queue?_eq_some hq
      have hkept := (fits lane hlane).kept
      rw [hattended lane hlane] at hkept
      exact absurd (gone _ hq) (hkept.put_ne_closed s)

end

/-! ### What a change keeps -/

/-- The watches of a service are numbered. -/
theorem map_id_watches (period first : Nat) (outboxes : List (ChainId × Address × χ)) :
    (watches period first outboxes).map (·.id) = List.range' first outboxes.length := by
  induction outboxes generalizing first with
  | nil => rfl
  | cons o outboxes ih =>
    obtain ⟨chain, outbox, node⟩ := o
    rw [watches, List.map_cons, ih, List.length_cons, List.range'_succ]

/-- An element of a list between those before and after it, and another one in its place. -/
theorem exists_eq_append_of_getElem? {α : Type} {as : List α} {i : Nat} {a : α}
    (h : as[i]? = some a) (b : α) :
    ∃ before after, as = before ++ a :: after ∧ as.set i b = before ++ b :: after := by
  obtain ⟨hi, rfl⟩ := List.getElem?_eq_some_iff.mp h
  obtain ⟨before, after, has, -, hset⟩ := List.exists_of_set hi
  exact ⟨before, after, has, hset⟩

namespace System.Keeps

variable {env : Environment χ σ} {r : Relayer χ} {topology : Topology} {capacity : Nat}
  {watches : List (Watch χ)} {s s' : System χ} {nodes nodes' : σ} {turn : Turn χ}

theorem single
    (horder : ∀ i id, seenFor i id (s.held ++ turn.polled watches) =
      seenFor i id (turn.settled ++ s'.held))
    (hhanded : turn.handed = turn.settled.filter fun s => handsOn r topology s)
    (hdropped : turn.dropped = turn.settled.filter fun s => !handsOn r topology s) :
    Keeps r topology watches s [turn] s' where
  order := by
    intro i id
    rw [polledIn, settledIn, List.flatMap_singleton, List.flatMap_singleton]
    exact horder i id
  handed := by
    rw [handedIn, settledIn, List.flatMap_singleton, List.flatMap_singleton]
    exact hhanded
  dropped := by
    rw [droppedIn, settledIn, List.flatMap_singleton, List.flatMap_singleton]
    exact hdropped

theorem refl : Keeps r topology watches s [] s where
  order i id := by
    rw [polledIn, settledIn, List.flatMap_nil, List.flatMap_nil, List.append_nil, List.nil_append]
  handed := rfl
  dropped := rfl

theorem trans {s'' : System χ} {turns turns' : List (Turn χ)}
    (h : Keeps r topology watches s turns s') (h' : Keeps r topology watches s' turns' s'') :
    Keeps r topology watches s (turns ++ turns') s'' where
  order := by
    intro i id
    have hfirst := h.order i id
    have hlast := h'.order i id
    rw [polledIn, settledIn] at hfirst hlast ⊢
    rw [List.flatMap_append, List.flatMap_append]
    simp only [seenFor_append, List.append_assoc] at hfirst hlast ⊢
    rw [← List.append_assoc, hfirst, List.append_assoc, hlast]
  handed := by
    rw [handedIn_append, h.handed, h'.handed, settledIn, settledIn, settledIn,
      List.flatMap_append, List.filter_append]
  dropped := by
    rw [droppedIn_append, h.dropped, h'.dropped, settledIn, settledIn, settledIn,
      List.flatMap_append, List.filter_append]

/-- As long as a watcher has not ended, the shared queue is read. -/
theorem hasReader_of_moves (hwired : s.Wired r topology capacity watches)
    (hattended : s.IsAttended) {i : Nat} {w : Watcher χ} (hw : s.watchers[i]? = some w)
    {o : Outcome χ σ (Watcher χ × Queue)}
    (hmove : w.Moves env s.now s.cancelled s.shared nodes o) : s.shared.hasReader = true := by
  rw [hwired.shared.hasReader_eq, Bool.not_eq_true']
  by_contra hdone
  have hwriters := hattended.shared (Bool.eq_true_of_not_eq_false hdone)
  rw [hwired.shared.writers_eq, System.activeWatchers, List.countP_eq_zero] at hwriters
  have hactive := hwriters w (List.mem_of_getElem? hw)
  rw [hmove.isFinished_eq] at hactive
  exact hactive rfl

/-- The watchers before and after one of them are other watchers. -/
theorem id_ne_of_watchers (hnodup : (watches.map (·.id)).Nodup)
    (hwired : s.Wired r topology capacity watches) {before after : List (Watcher χ)}
    {w : Watcher χ} (hwatchers : s.watchers = before ++ w :: after) {l : Watcher χ}
    (hl : l ∈ before ∨ l ∈ after) : l.watch.id ≠ w.watch.id := by
  have hids : ((before ++ w :: after).map fun l => l.watch.id).Nodup := by
    rw [← hwatchers]
    rw [← hwired.watches, List.map_map] at hnodup
    exact hnodup
  rw [List.map_append, List.map_cons, List.nodup_middle, List.nodup_cons] at hids
  intro hid
  refine hids.1 (hid ▸ ?_)
  rw [List.mem_append]
  exact hl.imp (List.mem_map_of_mem (f := fun l : Watcher χ => l.watch.id))
    (List.mem_map_of_mem (f := fun l : Watcher χ => l.watch.id))

/-- A step of a watcher adds what it polled to its own logs. -/
theorem watcher (hnodup : (watches.map (·.id)).Nodup)
    (hwired : s.Wired r topology capacity watches) (hcalm : s.IsCalm) (hattended : s.IsAttended)
    {i : Nat} {w : Watcher χ} (hw : s.watchers[i]? = some w) {o : Outcome χ σ (Watcher χ × Queue)}
    (hmove : w.Moves env s.now s.cancelled s.shared nodes o)
    (hwhole : o.task.1.isBroken = false) {handled : Option Handled} :
    Keeps r topology watches s
      [{ task := some (.watcher i), handled, happenings := o.happenings }]
      { s with watchers := s.watchers.set i o.task.1, shared := o.task.2 } := by
  obtain ⟨before, after, hwatchers, hset⟩ := exists_eq_append_of_getElem? hw o.task.1
  have hsettled := hmove.settled?_eq
  have hreader := hasReader_of_moves hwired hattended hw hmove
  have hitems := hmove.items_batch_eq hcalm.going hreader hwhole
  have hpolled : Turn.polled watches
      { task := some (.watcher i), handled, happenings := o.happenings } =
        (o.happenings.flatMap Happening.polled).map w.watch.sighting := by
    simp [Turn.polled, hwired.watch_eq hw]
  refine single (fun j id => ?_) ?_ ?_
  · have hkept := congrArg (seenFor j id) hitems
    have hnone : Turn.settled { task := some (.watcher i), handled, happenings := o.happenings } =
        [] := List.filterMap_eq_nil_iff.mpr fun x hx => (hsettled x hx).1
    have hbatches : s.watchers.flatMap Watcher.batch =
        before.flatMap Watcher.batch ++ (w.batch ++ after.flatMap Watcher.batch) := by
      rw [hwatchers, List.flatMap_append, List.flatMap_cons]
    have hbatches' : (s.watchers.set i o.task.1).flatMap Watcher.batch =
        before.flatMap Watcher.batch ++ (o.task.1.batch ++ after.flatMap Watcher.batch) := by
      rw [hset, List.flatMap_append, List.flatMap_cons]
    simp only [hnone, hpolled, System.held, System.inTransit, System.batches, hbatches, hbatches',
      seenFor_append, List.append_assoc, List.nil_append] at hkept ⊢
    by_cases hj : j = w.watch.id
    · -- The logs of the watcher itself: nobody else holds a batch with them.
      have hnil : ∀ ls : List (Watcher χ), (∀ l ∈ ls, l ∈ before ∨ l ∈ after) →
          seenFor j id (ls.flatMap Watcher.batch) = [] := by
        intro ls hls
        refine seenFor_eq_nil_of_watcher fun s' hs' => ?_
        obtain ⟨l, hl, hs'⟩ := List.mem_flatMap.mp hs'
        rw [Watcher.watcher_of_mem_batch hs', hj]
        exact id_ne_of_watchers hnodup hwired hwatchers (hls l hl)
      rw [hnil before fun l hl => .inl hl, hnil after fun l hl => .inr hl]
      simp only [List.append_nil, List.nil_append, hkept]
    · -- The logs of another watcher: this one neither polls nor forwards them.
      have hnil : ∀ ss : List Sighting, (∀ s ∈ ss, s.watcher = w.watch.id) →
          seenFor j id ss = [] := by
        intro ss hss
        refine seenFor_eq_nil_of_watcher fun s' hs' hwatcher => hj ?_
        rw [← hwatcher, hss s' hs']
      have hbatch' : seenFor j id o.task.1.batch = [] := by
        refine hnil _ fun s' hs' => ?_
        rw [Watcher.watcher_of_mem_batch hs', hmove.watch_eq]
      have hpolls : seenFor j id ((o.happenings.flatMap Happening.polled).map w.watch.sighting) =
          [] := by
        refine hnil _ fun s' hs' => ?_
        obtain ⟨log, -, rfl⟩ := List.mem_map.mp hs'
        rfl
      rw [hnil w.batch fun s' hs' => Watcher.watcher_of_mem_batch hs', hbatch', hpolls] at hkept ⊢
      simp only [List.append_nil, List.nil_append] at hkept ⊢
      rw [hkept]
  · rw [Turn.handed, Turn.settled, List.filterMap_eq_nil_iff.mpr fun x hx => (hsettled x hx).1,
      List.filterMap_eq_nil_iff.mpr fun x hx => (hsettled x hx).2.1, List.filter_nil]
  · rw [Turn.dropped, Turn.settled, List.filterMap_eq_nil_iff.mpr fun x hx => (hsettled x hx).1,
      List.filterMap_eq_nil_iff.mpr fun x hx => (hsettled x hx).2.2, List.filter_nil]

/-- What is beside the tasks keeps the logs. -/
theorem aside (hkept : s'.held = s.held) (hlines : ∀ x ∈ turn.happenings, x.IsLine)
    (htask : turn.polled watches = []) : Keeps r topology watches s [turn] s' := by
  have hnone : ∀ {f : Happening χ → Option Sighting}, (∀ {x}, x.IsLine → f x = none) →
      turn.happenings.filterMap f = [] :=
    fun hf => List.filterMap_eq_nil_iff.mpr fun x hx => hf (hlines x hx)
  refine single (fun i id => ?_) ?_ ?_
  · rw [Turn.settled, hnone Happening.IsLine.settled?_eq, htask, List.append_nil, hkept]
    rfl
  · rw [Turn.handed, Turn.settled, hnone Happening.IsLine.settled?_eq,
      hnone Happening.IsLine.handed?_eq, List.filter_nil]
  · rw [Turn.dropped, Turn.settled, hnone Happening.IsLine.settled?_eq,
      hnone Happening.IsLine.dropped?_eq, List.filter_nil]

/-- A step of the single worker takes a log from the shared queue and hands it on. -/
theorem worker (hwired : s.Wired r topology capacity watches) {worker : Worker χ}
    (consumers : s.consumers = .single worker) {o : Outcome χ σ (Worker χ × Queue)}
    (move : worker.Moves env s.relayer false s.shared nodes o) (hwhole : o.task.1.isBroken = false)
    {handled : Option Handled} :
    Keeps r topology watches s
      [{ task := some .worker, handled, happenings := o.happenings }]
      { s with consumers := .single o.task.1, shared := o.task.2 } := by
  obtain ⟨hitems, hhanded, hdropped⟩ := move.settled_append hwhole
  have hfits := hwired.consumers
  rw [consumers] at hfits
  cases hfits
  refine single (fun i id => ?_) ?_ ?_
  · simp [System.held, System.inTransit, System.batches, Turn.polled, consumers,
      Consumers.lanes, Consumers.inHand, Turn.settled, ← hitems]
  · simpa [Turn.handed, Turn.settled, handsOn] using hhanded
  · simpa [Turn.dropped, Turn.settled, handsOn] using hdropped

/-- A step of the router moves a log on or drops it. -/
theorem router (hwired : s.Wired r topology capacity watches) (hattended : s.IsAttended)
    {router : Router} {lanes : List (Lane χ)}
    (consumers : s.consumers = .perDestination router lanes)
    {o : Outcome χ σ (Router × Routes χ)}
    (move : router.Moves false { shared := s.shared, lanes } nodes o) {handled : Option Handled} :
    Keeps r topology watches s
      [{ task := some .router, handled, happenings := o.happenings }]
      { s with
        consumers := .perDestination o.task.1 o.task.2.lanes
        shared := o.task.2.shared } := by
  have hfits := hwired.consumers
  rw [consumers] at hfits
  cases hfits with
  | perDestination ids inHand fits =>
    have hthere : ∀ lane ∈ lanes, lane.worker.isFinished = false := by
      intro lane hlane
      by_contra hfinished
      have hended := hattended.lanes consumers lane hlane (Bool.eq_true_of_not_eq_false hfinished)
      rw [move.isFinished_eq] at hended
      cases hended
    obtain ⟨horder, hhanded, hdropped, hroute⟩ :=
      move.keeps (.perDestination ids inHand fits) hthere
    refine single (fun i id => ?_) ?_ ?_
    · have h := horder i id
      simp only [seenFor_append] at h
      simp only [System.held, System.inTransit, System.batches, Turn.polled, consumers,
        Consumers.lanes, Consumers.inHand, Turn.settled, seenFor_append, List.append_nil] at h ⊢
      rw [h]
      simp only [List.append_assoc]
    · rw [Turn.handed, Turn.settled, hhanded, eq_comm, List.filter_eq_nil_iff]
      intro s' hs'
      simp [handsOn, hroute s' hs']
    · rw [Turn.dropped, Turn.settled, hdropped, eq_comm, List.filter_eq_self]
      intro s' hs'
      simp [handsOn, hroute s' hs']

/-- A step of the worker of a lane takes a log from its queue and hands it on: the logs of the other
lanes are for other destinations. -/
theorem laneWorker (hwired : s.Wired r topology capacity watches) {i : Nat} {router : Router}
    {lanes : List (Lane χ)} {lane : Lane χ} {o : Outcome χ σ (Worker χ × Queue)}
    (consumers : s.consumers = .perDestination router lanes) (lane_eq : lanes[i]? = some lane)
    (move : lane.worker.Moves env s.relayer false lane.queue nodes o)
    (hwhole : o.task.1.isBroken = false) {handled : Option Handled} :
    Keeps r topology watches s
      [{ task := some (.laneWorker i), handled, happenings := o.happenings }]
      { s with
        consumers := .perDestination router
          (lanes.set i { lane with worker := o.task.1, queue := o.task.2 }) } := by
  obtain ⟨before, after, hlanes, hset⟩ := exists_eq_append_of_getElem? lane_eq
    { lane with worker := o.task.1, queue := o.task.2 }
  obtain ⟨hitems, hhanded, hdropped⟩ := move.settled_append hwhole
  have hfits := hwired.consumers
  rw [consumers] at hfits
  cases hfits with
  | perDestination ids inHand fits =>
    have hroute : ∀ s' ∈ o.happenings.filterMap Happening.settled?,
        r.route? s'.log = some lane.destination := by
      intro s' hs'
      refine (fits lane (List.mem_of_getElem? lane_eq)).items s' ?_
      rw [← hitems]
      exact List.mem_append_left _ hs'
    refine single (fun j id => ?_) ?_ ?_
    · have hfits' : Consumers.Fits r capacity .perDestination
          (.perDestination router (before ++ lane :: after)) :=
        hlanes ▸ .perDestination ids inHand fits
      have hcomm := seenFor_flatMap_queue hfits' _ hroute before (fun l hl => .inl hl) j id
      simp only [System.held, System.inTransit, System.batches, Turn.polled, consumers,
        Consumers.lanes, Consumers.inHand, Turn.settled, hset, seenFor_append, List.append_nil,
        List.flatMap_append, List.flatMap_cons, List.append_assoc]
      rw [← List.append_assoc (seenFor j id (o.happenings.filterMap Happening.settled?)),
        ← hcomm, hlanes]
      simp only [← hitems, seenFor_append, List.flatMap_append, List.flatMap_cons,
        List.append_assoc]
    · rw [Turn.handed, Turn.settled, hhanded, eq_comm, List.filter_eq_self]
      intro s' hs'
      simp [handsOn, hroute s' hs']
    · rw [Turn.dropped, Turn.settled, hdropped, eq_comm, List.filter_eq_nil_iff]
      intro s' hs'
      simp [handsOn, hroute s' hs']

/-- Every change to a calm state keeps the logs. -/
theorem of_changes (hnodup : (watches.map (·.id)).Nodup)
    (hwired : s.Wired r topology capacity watches) (hattended : s.IsAttended) (hcalm : s'.IsCalm)
    (hchange : System.Changes env s nodes turn s' nodes') :
    Keeps r topology watches s [turn] s' := by
  have hcalm' := hcalm.of_changes hchange
  have hwhole := System.isWhole_iff.mp hcalm.whole
  have hgoing := hcalm'.going
  cases hchange with
  | aside kept lines => exact aside rfl lines rfl
  | stepped move =>
    cases move with
    | @watcher i w o hw step =>
      refine watcher hnodup hwired hcalm' hattended hw (Watcher.moves_of_step step) ?_
      refine hwhole.1 _ (List.mem_of_getElem? (i := i) ?_)
      exact List.getElem?_set_self (List.getElem?_eq_some_iff.mp hw).1
    | @worker w o consumers move =>
      rw [hgoing] at move
      exact worker hwired consumers move (hwhole.2 _ (List.mem_singleton_self _))
    | @router task lanes o consumers move =>
      rw [hgoing] at move
      exact router hwired hattended consumers move
    | @laneWorker i task lanes lane o consumers lane_eq move =>
      rw [hgoing] at move
      refine laneWorker hwired consumers lane_eq move (hwhole.2 _ (List.mem_map.mpr
        ⟨{ lane with worker := o.task.1, queue := o.task.2 },
          List.mem_of_getElem? (i := i) ?_, rfl⟩))
      exact List.getElem?_set_self (List.getElem?_eq_some_iff.mp lane_eq).1

end System.Keeps

/-! ### Runs -/

/-- Where the logs are after a run. In the order in which a watcher saw them, those for a
destination are settled, on their way, or in the batch. The consumers hand on what is to be handed
on, and drop the rest. What is handed on is handled by the relayer, in the turns of a worker: one
log after the other, each to its end but for the one in the worker's hands. No queue holds more than
it can. When all tasks have ended, everything that was polled is settled, once, and no log is in the
hands of a worker. -/
structure Custody (r : Relayer χ) (topology : Topology) (capacity : Nat) (watches : List (Watch χ))
    (turns : List (Turn χ)) (s : System χ) : Prop where
  order : ∀ i id, seenFor i id (polledIn watches turns) =
    seenFor i id (settledIn turns) ++ (seenFor i id s.inTransit ++ seenFor i id s.batches)
  handed : handedIn turns = (settledIn turns).filter fun s => handsOn r topology s
  dropped : droppedIn turns = (settledIn turns).filter fun s => !handsOn r topology s
  workers : ∀ turn ∈ turns, turn.handed ≠ [] → ∃ t, turn.task = some t ∧ t.IsWorker
  handled : ∀ t : TaskId, t.IsWorker → ∃ blocks current,
    Recounts r (turnsOf t turns) (s.worker? t) blocks current ∧
      ((∀ t ∈ s.taskIds, s.isFinished t = true) → current = none)
  shared : s.shared.items.length ≤ capacity
  lanes : ∀ lane ∈ s.consumers.lanes, lane.queue.items.length ≤ capacity
  finished : (∀ t ∈ s.taskIds, s.isFinished t = true) →
    (handedIn turns).Perm ((polledIn watches turns).filter fun s => handsOn r topology s) ∧
      (droppedIn turns).Perm ((polledIn watches turns).filter fun s => !handsOn r topology s)

/-- Nobody holds a log when all tasks have ended. -/
theorem System.Wired.held_eq_nil {r : Relayer χ} {topology : Topology} {capacity : Nat}
    {watches : List (Watch χ)} {s : System χ} (h : s.Wired r topology capacity watches)
    (hfinished : ∀ t ∈ s.taskIds, s.isFinished t = true) : s.held = [] := by
  have hbatches : s.batches = [] := by
    refine List.flatMap_eq_nil_iff.mpr fun w hw => Watcher.batch_eq_nil_of_isFinished ?_
    obtain ⟨i, hi, hget⟩ := List.mem_iff_getElem.mp hw
    have hmem : TaskId.watcher i ∈ s.taskIds :=
      List.mem_append_left _ (List.mem_map_of_mem (List.mem_range.mpr hi))
    simpa [System.isFinished, List.getElem?_eq_getElem hi, hget] using hfinished _ hmem
  have hshared := h.shared
  have hfits := h.consumers
  rw [System.held, hbatches, List.append_nil, System.inTransit]
  cases hconsumers : s.consumers with
  | single worker =>
    have hdone : worker.isFinished = true := by
      simpa [System.isFinished, hconsumers] using hfinished .worker (by simp [taskIds, hconsumers])
    rw [hconsumers] at hshared
    exact hshared.items_eq hdone
  | perDestination router lanes =>
    have hdone : router.isFinished = true := by
      simpa [System.isFinished, hconsumers] using hfinished .router (by simp [taskIds, hconsumers])
    rw [hconsumers] at hshared hfits
    have hinHand : router.inHand = [] := by
      cases router with
      | ended => rfl
      | waiting | routing => cases hdone
    have hlanes : lanes.flatMap (·.queue.items) = [] := by
      refine List.flatMap_eq_nil_iff.mpr fun lane hlane => ?_
      obtain ⟨i, hi, hget⟩ := List.mem_iff_getElem.mp hlane
      have hended : lane.worker.isFinished = true := by
        simpa [System.isFinished, hconsumers, List.getElem?_eq_getElem hi, hget] using
          hfinished (.laneWorker i) (by simp [taskIds, hconsumers, hi])
      cases hfits with
      | perDestination ids inHand fits => exact (fits lane hlane).kept.items_eq hended
    rw [Consumers.lanes, Consumers.inHand, hlanes, hinHand, hshared.items_eq hdone]
    rfl

variable {env : Environment χ σ} {r : Relayer χ} {topology : Topology} {capacity period : Nat}
  {outboxes : List (ChainId × Address × χ)} {nodes₀ nodes : σ} {turns : List (Turn χ)}
  {s : Service χ}

/-- A calm run keeps the logs. -/
theorem keeps_of_reaches
    (h : Reaches env (launch r topology capacity period outboxes) nodes₀ turns s nodes)
    (hcalm : s.system.IsCalm) :
    System.Keeps r topology (watches period 0 outboxes)
      (launch r topology capacity period outboxes).system turns s.system := by
  have hnodup : ((watches period 0 outboxes).map (·.id)).Nodup := by
    rw [map_id_watches]
    exact List.nodup_range'
  induction h with
  | start => exact .refl
  | act before action ih =>
    have hchange := changes_of_act action
    have hcalm' := hcalm.of_changes hchange
    have hlast := System.Keeps.of_changes hnodup (wired_of_reaches before)
      (.of_reaches before hcalm') hcalm hchange
    exact (ih hcalm').trans hlast

theorem workers_of_reaches {s₀ : Service χ} (h : Reaches env s₀ nodes₀ turns s nodes) :
    ∀ turn ∈ turns, turn.handed ≠ [] → ∃ t, turn.task = some t ∧ t.IsWorker := by
  induction h with
  | start => simp
  | act before action ih =>
    intro turn hturn
    rcases List.mem_append.mp hturn with hturn | hturn
    · exact ih turn hturn
    · rw [List.mem_singleton.mp hturn]
      exact (changes_of_act action).exists_isWorker_of_handed

/-- Before the first action nobody holds a log. -/
theorem held_launch (r : Relayer χ) (topology : Topology) (capacity period : Nat)
    (outboxes : List (ChainId × Address × χ)) :
    (launch r topology capacity period outboxes).system.held = [] := by
  have hbatches : (launch r topology capacity period outboxes).system.batches = [] := by
    refine List.flatMap_eq_nil_iff.mpr fun w hw => ?_
    obtain ⟨watch, -, rfl⟩ := List.mem_map.mp hw
    rfl
  rw [System.held, hbatches, List.append_nil]
  cases topology with
  | single => rfl
  | perDestination =>
    refine List.append_eq_nil_iff.mpr ⟨List.flatMap_eq_nil_iff.mpr fun lane hlane => ?_, rfl⟩
    obtain ⟨id, -, rfl⟩ := List.mem_map.mp hlane
    rfl

/-- Lists with the same logs of every watcher for every destination are the same but for their
order. -/
theorem perm_of_seenFor {ss ss' : List Sighting} (h : ∀ i id, seenFor i id ss = seenFor i id ss') :
    ss.Perm ss' := by
  refine List.perm_iff_count.mpr fun s => ?_
  have hcount : ∀ ss : List Sighting,
      (seenFor s.watcher (destination? s.log) ss).count s = ss.count s :=
    fun ss => List.count_filter (decide_eq_true ⟨rfl, rfl⟩)
  rw [← hcount ss, ← hcount ss', h]

/-- Where the logs are in every state that a run reaches without a cancellation or a breakdown: for
any outboxes, in both topologies, for every capacity, and whatever the nodes answer. -/
theorem custody_of_reaches
    (h : Reaches env (launch r topology capacity period outboxes) nodes₀ turns s nodes)
    (hcalm : s.system.IsCalm) :
    Custody r topology capacity (watches period 0 outboxes) turns s.system := by
  have hwired := wired_of_reaches h
  have hkeeps := keeps_of_reaches h hcalm
  have horder : ∀ i id, seenFor i id (polledIn (watches period 0 outboxes) turns) =
      seenFor i id (settledIn turns ++ s.system.held) := by
    intro i id
    have horder := hkeeps.order i id
    rwa [held_launch, List.nil_append] at horder
  refine ⟨?_, hkeeps.handed, hkeeps.dropped, workers_of_reaches h, ?_, hwired.shared.length_le, ?_,
    ?_⟩
  · intro i id
    rw [horder, System.held, seenFor_append, seenFor_append]
  · intro t ht
    obtain ⟨blocks, current, hrecounts⟩ := exists_recounts h hcalm.whole ht
    exact ⟨blocks, current, hrecounts, hrecounts.eq_none_of_isFinished⟩
  · intro lane hlane
    have hfits := hwired.consumers
    cases hconsumers : s.system.consumers with
    | single worker =>
      rw [hconsumers] at hlane
      cases hlane
    | perDestination router lanes =>
      rw [hconsumers] at hlane hfits
      cases hfits with
      | perDestination ids inHand fits => exact (fits lane hlane).kept.length_le
  · intro hfinished
    have hperm : (settledIn turns).Perm (polledIn (watches period 0 outboxes) turns) := by
      refine perm_of_seenFor fun i id => ?_
      rw [horder, hwired.held_eq_nil hfinished, List.append_nil]
    rw [hkeeps.handed, hkeeps.dropped]
    exact ⟨hperm.filter _, hperm.filter _⟩

/-! ### A run to the end -/

namespace TwoChains

/-- A node that shows two logs in the first poll and fails in the second. -/
def polling : Environment Bool Nat where
  answer n _ q := match q with
    | .newFilter _ => (.ok 0, n)
    | .filterChanges _ =>
      (if n = 0 then .ok (feed.map (·.log)) else .error (.transport ""), n + 1)
    | .uninstallFilter _ => (.ok true, n)
    | .estimateGas _ => (.ok 0, n)
    | .gasPrice => (.ok 0, n)
    | .pendingNonce _ => (.ok 0, n)
    | .sendRawTransaction _ => (.ok 0, n)
    | _ => (.error (.transport ""), n)

/-- Some steps of a task. -/
def steps (count : Nat) (t : TaskId) : List Service.Action := List.replicate count (.step t .later)

/-- The actions of a watcher, the router and the workers of two lanes. -/
def pollingActions : List Service.Action :=
  steps 3 (.watcher 0) ++ steps 1 .router ++ steps 2 (.watcher 0) ++ [.elapse 1] ++
    steps 2 (.watcher 0) ++ steps 3 .router ++ steps 1 (.laneWorker 0) ++ steps 15 (.laneWorker 1)

/-- The one outbox that is polled. -/
def polledOutboxes : List (ChainId × Address × Bool) := [(1, 0, false)]

/-- The service that polls the outbox. -/
def pollingService : Service Bool := launch relayer .perDestination 1 1 polledOutboxes

/-- Whether a service has come to its end in these turns without an interruption, with one log that
was handed on and one that was dropped. -/
def endsWithOneOfEach (turns : List (Turn Bool)) (s : Service Bool) : Bool :=
  s.system.cancelled == false && (s.system.taskIds.all fun t => s.system.isFinished t) &&
    (s.system.watchers.all fun w => !w.isBroken) &&
    (s.system.consumers.workers.all fun w => !w.isBroken) &&
    (handedIn turns).length == 1 && (droppedIn turns).length == 1

/-- A watcher whose second poll fails: all tasks end, one log is handed on, and one is dropped. -/
theorem custody_of_pollingActions :
    ∃ turns s nodes, Reaches polling pollingService 0 turns s nodes ∧ s.system.IsCalm ∧
      (∀ t ∈ s.system.taskIds, s.system.isFinished t = true) ∧
      (handedIn turns).length = 1 ∧ (droppedIn turns).length = 1 ∧
      Custody relayer .perDestination 1 (watches 1 0 polledOutboxes) turns s.system := by
  have hrun : ((pollingService.follow polling pollingActions 0).any fun t =>
      endsWithOneOfEach t.1 t.2.1) = true := by decide +kernel
  obtain ⟨⟨turns, s, nodes⟩, hfollow, hends⟩ := (Option.any_eq_true _ _).mp hrun
  have hreaches : Reaches polling pollingService 0 turns s nodes := by
    simpa using Reaches.start.of_follow hfollow
  simp only [endsWithOneOfEach, Bool.and_eq_true, beq_iff_eq, List.all_eq_true,
    Bool.not_eq_true'] at hends
  obtain ⟨⟨⟨⟨⟨hgoing, hfinished⟩, hwatchers⟩, hworkers⟩, hhanded⟩, hdropped⟩ := hends
  have hcalm : s.system.IsCalm := ⟨hgoing, System.isWhole_iff.mpr ⟨hwatchers, hworkers⟩⟩
  exact ⟨turns, s, nodes, hreaches, hcalm, hfinished, hhanded, hdropped,
    custody_of_reaches hreaches hcalm⟩

end TwoChains

end Service

end CrossCall
