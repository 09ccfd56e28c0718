import Mathlib
import CrossCall.Proofs.Service.Calm
import CrossCall.Proofs.Service.Custody

/-!
# The router among queues that close

The router is followed by itself. Logs come into the shared queue as there is room, until its last
writer has left. The queues of the destinations are read in any way, and each of them may be closed
at any point by its reader. The router may be cancelled at any point.

What the router puts into the queue of a destination are logs that came for this destination, in
their order. As long as the queue is not closed and the router is not cancelled, none of them is
missing: those that are not in the queue yet are in the hands of the router or still in the shared
queue. A log that cannot be read, one for no known destination, and one for a queue that is closed
leave the others as they are.

## Main definitions

* `Junction` — the router with its queues
* `Junction.follow` — what comes in and what is put where in a sequence of acts
* `headedFor` — the logs for a destination
* `Junction.Carries` — what has become of the logs

## Main results

* `Router.Moves.added_append_pending_sublist`, `Router.Moves.added_append_pending_eq` — a step of
  the router for one destination
* `Junction.Carries.move` — an act carries the logs on
-/

namespace CrossCall

variable {χ σ : Type}

namespace Service

/-! ### Destinations -/

/-- The destination that a log names are the low bits of a word. -/
theorem destination?_eq_some_iff {log : Log} {d : ChainId} :
    destination? log = some d ↔
      ∃ m, PostedMessage.decodeLog log = .ok m ∧ m.destinationChain.toNat % 2 ^ 64 = d.toNat := by
  have hlow : ∀ m : PostedMessage,
      m.destinationId = d ↔ m.destinationChain.toNat % 2 ^ 64 = d.toNat := by
    intro m
    rw [← BitVec.toNat_inj]
    rfl
  rw [destination?]
  cases PostedMessage.decodeLog log with
  | error e => simp [Except.toOption]
  | ok m => simp [Except.toOption, hlow]

/-- The logs for a destination. -/
def headedFor (d : ChainId) (logs : List Sighting) : List Sighting :=
  logs.filter fun s => destination? s.log = some d

section

variable {d : ChainId} {s : Sighting} {logs : List Sighting}

theorem headedFor_append (d : ChainId) (logs logs' : List Sighting) :
    headedFor d (logs ++ logs') = headedFor d logs ++ headedFor d logs' :=
  List.filter_append _ _

theorem headedFor_cons_of_eq (h : destination? s.log = some d) (logs : List Sighting) :
    headedFor d (s :: logs) = s :: headedFor d logs :=
  List.filter_cons_of_pos (decide_eq_true h)

theorem headedFor_cons_of_ne (h : destination? s.log ≠ some d) (logs : List Sighting) :
    headedFor d (s :: logs) = headedFor d logs :=
  List.filter_cons_of_neg (by simpa using h)

theorem headedFor_sublist_cons (d : ChainId) (s : Sighting) (logs : List Sighting) :
    (headedFor d logs).Sublist (headedFor d (s :: logs)) :=
  (List.sublist_cons_self s logs).filter _

end

/-! ### Queues of destinations -/

namespace Routes

/-- The logs in the queue of a destination, none if it has no queue. -/
def itemsFor (r : Routes χ) (d : ChainId) : List Sighting :=
  ((r.queue? d).map (·.items)).getD []

/-- The logs that have been added to the queue of a destination. -/
def added (r r' : Routes χ) (d : ChainId) : List Sighting :=
  (r'.itemsFor d).drop (r.itemsFor d).length

/-- Whether a destination has a queue that somebody reads. -/
def isOpen (r : Routes χ) (d : ChainId) : Bool := (r.queue? d).any (·.hasReader)

variable {r : Routes χ}

/-- A lane with another queue, if it is the one of a destination. -/
theorem destination_ite (d : ChainId) (q : Queue) (l : Lane χ) :
    (if l.destination = d then { l with queue := q } else l).destination = l.destination := by
  split <;> rfl

/-- Changing the lanes changes the queues that are found. -/
theorem queue?_map {f : Lane χ → Lane χ} (hf : ∀ l, (f l).destination = l.destination)
    (shared : Queue) (lanes : List (Lane χ)) (d : ChainId) :
    (Routes.mk shared (lanes.map f)).queue? d =
      (lanes.find? fun l => l.destination = d).map fun l => (f l).queue := by
  have hcomp : ((fun l : Lane χ => decide (l.destination = d)) ∘ f) =
      fun l => decide (l.destination = d) := by
    funext l
    simp [hf]
  rw [queue?, List.find?_map, hcomp, Option.map_map]
  rfl

theorem queue?_leave (r : Routes χ) (d : ChainId) :
    r.leave.queue? d = (r.queue? d).map Queue.leave := by
  rw [leave, queue?_map (f := fun l => { l with queue := l.queue.leave }) (fun _ => rfl), queue?,
    Option.map_map]
  rfl

theorem queue?_setQueue_self {d : ChainId} {q q' : Queue} (h : r.queue? d = some q) :
    (r.setQueue d q').queue? d = some q' := by
  obtain ⟨lane, hfind, -⟩ := Option.map_eq_some_iff.mp h
  have hdestination : lane.destination = d := by simpa using List.find?_some hfind
  rw [setQueue, queue?_map (destination_ite d q'), hfind, Option.map_some, if_pos hdestination]

theorem queue?_setQueue_of_ne {d d' : ChainId} (h : d ≠ d') (q : Queue) :
    (r.setQueue d' q).queue? d = r.queue? d := by
  rw [setQueue, queue?_map (destination_ite d' q), queue?]
  -- The lane that is found is not the one that was set.
  refine Option.map_congr fun lane hfind => ?_
  have hdestination : lane.destination = d := by simpa using List.find?_some hfind
  rw [if_neg (hdestination ▸ h)]

/-- Nothing is added where the queue that is found is the same. -/
theorem added_of_queue?_eq {r' : Routes χ} {d : ChainId} (h : r'.queue? d = r.queue? d) :
    r.added r' d = [] := by
  rw [added, itemsFor, itemsFor, h, List.drop_length]

theorem added_withShared (r : Routes χ) (shared : Queue) (d : ChainId) :
    r.added { r with shared } d = [] :=
  added_of_queue?_eq rfl

theorem added_leave (r : Routes χ) (d : ChainId) : r.added r.leave d = [] := by
  rw [added, itemsFor, itemsFor, queue?_leave, Option.map_map]
  exact List.drop_length

theorem added_setQueue_self {d : ChainId} {q q' : Queue} {s : Sighting} (h : r.queue? d = some q)
    (hput : q.put s = .queued q') : r.added (r.setQueue d q') d = [s] := by
  rw [added, itemsFor, itemsFor, queue?_setQueue_self h, h, Option.map_some, Option.map_some,
    Option.getD_some, Option.getD_some, (Queue.items_of_put hput).1, List.drop_left]

/-- What happens to the queue of a lane is that one destination may have another queue. -/
theorem queue?_set {i : Nat} {lane lane' : Lane χ} (hlane : r.lanes[i]? = some lane)
    (hdestination : lane'.destination = lane.destination) (d : ChainId) :
    Routes.queue? { r with lanes := r.lanes.set i lane' } d = r.queue? d ∨
      r.queue? d = some lane.queue ∧
        Routes.queue? { r with lanes := r.lanes.set i lane' } d = some lane'.queue := by
  obtain ⟨shared, lanes⟩ := r
  simp only [queue?] at hlane ⊢
  induction lanes generalizing i with
  | nil => cases hlane
  | cons l lanes ih =>
    by_cases hl : l.destination = d
    · cases i with
      | zero =>
        -- The lane is the first one, which is found.
        cases hlane
        right
        simp [hl, hdestination]
      | succ i =>
        left
        simp [hl]
    · cases i with
      | zero =>
        cases hlane
        left
        simp [hl, hdestination]
      | succ i =>
        simpa [hl] using ih hlane

/-- A queue that is read has been read before. -/
theorem isOpen_of_set {i : Nat} {lane lane' : Lane χ} (hlane : r.lanes[i]? = some lane)
    (hdestination : lane'.destination = lane.destination)
    (hreader : lane'.queue.hasReader = true → lane.queue.hasReader = true) {d : ChainId}
    (h : Routes.isOpen { r with lanes := r.lanes.set i lane' } d = true) : r.isOpen d = true := by
  rcases queue?_set hlane hdestination d with hsame | ⟨hbefore, hafter⟩
  · rwa [isOpen, hsame] at h
  · rw [isOpen, hafter] at h
    rw [isOpen, hbefore]
    exact hreader h

theorem isOpen_iff {d : ChainId} : r.isOpen d = true ↔ ∃ q, r.queue? d = some q ∧ q.hasReader := by
  rw [isOpen, Option.any_eq_true]

end Routes

/-! ### A step of the router -/

namespace Router

variable {cancelled : Bool} {routes : Routes χ} {nodes : σ} {router : Router}
  {o : Outcome χ σ (Router × Routes χ)}

/-- The logs for a destination that the router has not put into its queue yet. -/
def pending (router : Router) (routes : Routes χ) (d : ChainId) : List Sighting :=
  headedFor d (router.inHand ++ routes.shared.items)

/-- The log in the hands of the router is for the destination that it is routed to. -/
def Keeps (router : Router) : Prop := ∀ d s, router = .routing d s → destination? s.log = some d

theorem destination?_of_route? {s : Sighting} {d : ChainId} (h : route? routes s = some d) :
    destination? s.log = some d := by
  rw [route?] at h
  rw [destination?]
  cases hdecode : PostedMessage.decodeLog s.log with
  | error e => simp [hdecode] at h
  | ok m =>
    simp only [hdecode, Option.ite_none_right_eq_some, Option.some.injEq] at h
    rw [← h.2]
    rfl

/-- A log that is not routed is for no destination that has a queue. -/
theorem destination?_ne_of_route? {s : Sighting} {d : ChainId} (h : route? routes s = none)
    (hd : routes.isOpen d = true) : destination? s.log ≠ some d := by
  intro hdestination
  obtain ⟨q, hq, -⟩ := Routes.isOpen_iff.mp hd
  obtain ⟨m, hdecode, rfl⟩ : ∃ m, PostedMessage.decodeLog s.log = .ok m ∧ m.destinationId = d := by
    rw [destination?] at hdestination
    cases hdecode : PostedMessage.decodeLog s.log with
    | error e => simp [hdecode, Except.toOption] at hdestination
    | ok m => exact ⟨m, rfl, by simpa [hdecode, Except.toOption] using hdestination⟩
  simp [route?, hdecode, hq] at h

namespace Moves

theorem keeps_destination (h : router.Moves cancelled routes nodes o) : o.task.1.Keeps := by
  intro d s hrouting
  cases h with
  | routed take route =>
    cases hrouting
    exact destination?_of_route? route
  | closed | unrouted | stopped | delivered | lost | abandoned => cases hrouting

/-- The router leaves it open whether a queue is read. -/
theorem isOpen_eq (h : router.Moves cancelled routes nodes o) (d : ChainId) :
    o.task.2.isOpen d = routes.isOpen d := by
  cases h with
  | closed | stopped =>
    rw [Routes.isOpen, Routes.queue?_leave, Option.any_map]
    rfl
  | unrouted | routed | lost | abandoned => rfl
  | @delivered d' s q q' lane put =>
    by_cases hd : d = d'
    · subst hd
      obtain ⟨rfl, -⟩ := eq_of_put put
      rw [Routes.isOpen, Routes.isOpen, Routes.queue?_setQueue_self lane, lane]
      rfl
    · rw [Routes.isOpen, Routes.isOpen, Routes.queue?_setQueue_of_ne hd]

/-- The router puts nothing into a queue that is closed. -/
theorem added_eq_nil (h : router.Moves cancelled routes nodes o) {d : ChainId}
    (hd : routes.isOpen d = false) : routes.added o.task.2 d = [] := by
  cases h with
  | closed | stopped => exact Routes.added_leave routes d
  | unrouted | routed | lost | abandoned => exact Routes.added_of_queue?_eq rfl
  | @delivered d' s q q' lane put =>
    -- The queue that took the log is read.
    have hne : d ≠ d' := by
      rintro rfl
      rw [Routes.isOpen, lane, Option.any_some, (eq_of_put put).2] at hd
      cases hd
    exact Routes.added_of_queue?_eq (Routes.queue?_setQueue_of_ne hne q')

/-- What the router puts into a queue is the first log that it has for it, and nothing else comes in
front of what it has. -/
theorem added_append_pending_sublist (h : router.Moves cancelled routes nodes o)
    (hkeeps : router.Keeps) (d : ChainId) :
    (routes.added o.task.2 d ++ o.task.1.pending o.task.2 d).Sublist (router.pending routes d) := by
  cases h with
  | closed | stopped =>
    -- What is left in the shared queue is given up.
    rw [Routes.added_leave]
    exact List.nil_sublist _
  | @unrouted s shared text take =>
    rw [Routes.added_withShared, pending, pending, eq_of_take take]
    exact headedFor_sublist_cons d s _
  | routed take =>
    rw [Routes.added_withShared, pending, pending, eq_of_take take]
    exact List.Sublist.refl _
  | lost | abandoned =>
    rw [Routes.added_of_queue?_eq rfl]
    exact headedFor_sublist_cons d _ _
  | @delivered d' s q q' lane put =>
    have hs : destination? s.log = some d' := hkeeps d' s rfl
    by_cases hd : d = d'
    · subst hd
      have hpending : (routing d s).pending routes d = s :: headedFor d routes.shared.items :=
        headedFor_cons_of_eq hs _
      rw [Routes.added_setQueue_self lane put, hpending]
      exact List.Sublist.refl _
    · rw [Routes.added_of_queue?_eq (Routes.queue?_setQueue_of_ne hd q')]
      exact headedFor_sublist_cons d s _

/-- As long as the router is not cancelled and the queue of a destination is read, none of the logs
for it gets lost. -/
theorem added_append_pending_eq (h : router.Moves false routes nodes o) (hkeeps : router.Keeps)
    {d : ChainId} (hd : routes.isOpen d = true) :
    routes.added o.task.2 d ++ o.task.1.pending o.task.2 d = router.pending routes d := by
  cases h with
  | stopped stop | abandoned stop => cases stop
  | closed take =>
    -- It ends with nothing left in the shared queue.
    rw [Routes.added_leave, pending, pending, (of_take_eq_ended take).1]
    rfl
  | unrouted take route =>
    have hne := destination?_ne_of_route? route hd
    rw [Routes.added_withShared, pending, pending, eq_of_take take]
    exact (headedFor_cons_of_ne hne _).symm
  | routed take =>
    rw [Routes.added_withShared, pending, pending, eq_of_take take]
    rfl
  | @lost d' s gone =>
    have hs : destination? s.log = some d' := hkeeps d' s rfl
    -- A log is lost where the queue is closed, and this one is not.
    have hne : d ≠ d' := by
      rintro rfl
      obtain ⟨q, hq, hreader⟩ := Routes.isOpen_iff.mp hd
      rw [of_put_eq_closed (gone q hq)] at hreader
      cases hreader
    rw [Routes.added_of_queue?_eq rfl]
    exact (headedFor_cons_of_ne (hs ▸ fun h => hne (Option.some.inj h).symm) _).symm
  | @delivered d' s q q' lane put =>
    have hs : destination? s.log = some d' := hkeeps d' s rfl
    by_cases hne : d = d'
    · subst hne
      rw [Routes.added_setQueue_self lane put]
      exact (headedFor_cons_of_eq hs _).symm
    · rw [Routes.added_of_queue?_eq (Routes.queue?_setQueue_of_ne hne q')]
      exact (headedFor_cons_of_ne (hs ▸ fun h => hne (Option.some.inj h).symm) _).symm

/-- The router leaves the queues of all destinations together, when it ends. -/
theorem writers_eq_ite (h : router.Moves cancelled routes nodes o)
    (hwriters : ∀ lane ∈ routes.lanes, lane.queue.writers = if router.isFinished then 0 else 1) :
    ∀ lane ∈ o.task.2.lanes, lane.queue.writers = if o.task.1.isFinished then 0 else 1 := by
  cases h with
  | closed | stopped =>
    intro lane hlane
    obtain ⟨lane, hmem, rfl⟩ := List.mem_map.mp hlane
    exact congrArg (· - 1) (hwriters lane hmem)
  | unrouted | routed | lost | abandoned => exact hwriters
  | @delivered d s q q' found put =>
    intro lane hlane
    obtain ⟨l, hmem, rfl⟩ := List.mem_map.mp hlane
    obtain ⟨lane', hmem', -, rfl⟩ := Routes.mem_of_queue?_eq_some found
    split
    · rw [(eq_of_put put).1]
      exact hwriters lane' hmem'
    · exact hwriters l hmem

/-- The router that has ended leaves nothing in the shared queue. -/
theorem shared_of_isFinished (h : router.Moves cancelled routes nodes o)
    (hfinished : o.task.1.isFinished = true) :
    o.task.2.shared.items = [] ∧ o.task.2.shared.hasReader = false := by
  cases h with
  | closed | stopped => exact ⟨rfl, rfl⟩
  | unrouted | routed | delivered | lost | abandoned => cases hfinished

end Moves

end Router

/-! ### The router with what is around it -/

/-- The router with its queues, and whether it has been cancelled. -/
structure Junction (χ : Type) where
  router : Router := .waiting
  routes : Routes χ
  cancelled : Bool := false

/-- The logs that came into the shared queue, and those that the router put into the queue of each
destination. -/
structure Traffic where
  came : List Sighting := []
  put : ChainId → List Sighting := fun _ => []

namespace Traffic

/-- Traffic after other traffic. -/
def append (t t' : Traffic) : Traffic where
  came := t.came ++ t'.came
  put d := t.put d ++ t'.put d

end Traffic

namespace Junction

/-- What can happen: the router takes a step, a log comes into the shared queue, one of those that
write to it leaves, the queue of a lane is read or closed, or the router is cancelled. -/
inductive Act
  | step (notice : Notice)
  | arrive (s : Sighting)
  | leave
  | serve (i : Nat) (q : Queue)
  | cancel

/-- The junction with another shared queue. -/
def withShared (x : Junction χ) (shared : Queue) : Junction χ :=
  { x with routes := { x.routes with shared } }

/-- The junction with another queue in a lane. -/
def withQueue (x : Junction χ) (i : Nat) (lane : Lane χ) (q : Queue) : Junction χ :=
  { x with routes := { x.routes with lanes := x.routes.lanes.set i { lane with queue := q } } }

/-- What becomes of a junction, if the act is possible. The logs in the queue of a lane may become
any others, but who reads it can add no writer, and does not come back once it has gone. -/
def act (x : Junction χ) : Act → Option (Traffic × Junction χ)
  | .step notice =>
    (x.router.step x.cancelled notice x.routes ()).map fun o =>
      ({ put := x.routes.added o.task.2 }, { x with router := o.task.1, routes := o.task.2 })
  | .arrive s =>
    if x.routes.shared.writers = 0 then none
    else
      match x.routes.shared.put s with
      | .queued shared => some ({ came := [s] }, x.withShared shared)
      | .full | .closed => none
  | .leave => some ({}, x.withShared x.routes.shared.leave)
  | .serve i q =>
    x.routes.lanes[i]?.bind fun lane =>
      if q.writers = lane.queue.writers ∧ (q.hasReader = true → lane.queue.hasReader = true) then
        some ({}, x.withQueue i lane q)
      else none
  | .cancel => some ({}, { x with cancelled := true })

/-- The traffic of a sequence of acts, and the junction after it, if all of them are possible. -/
def follow : List Act → Junction χ → Option (Traffic × Junction χ)
  | [], x => some ({}, x)
  | a :: as, x => do
    let (t, y) ← x.act a
    let (t', z) ← follow as y
    return (t.append t', z)

/-- A log comes in only when there is room for it. -/
theorem exists_of_act_arrive {x y : Junction χ} {s : Sighting} {t : Traffic}
    (h : x.act (.arrive s) = some (t, y)) :
    ∃ shared, x.routes.shared.put s = .queued shared ∧ t = { came := [s] } ∧
      y = x.withShared shared := by
  rw [act] at h
  split at h
  · cases h
  · split at h
    · rename_i shared hput
      cases h
      exact ⟨shared, hput, rfl, rfl⟩
    · cases h
    · cases h

/-- Whoever reads the queue of a lane adds no writer and does not come back. -/
theorem exists_of_act_serve {x y : Junction χ} {i : Nat} {q : Queue} {t : Traffic}
    (h : x.act (.serve i q) = some (t, y)) :
    ∃ lane, x.routes.lanes[i]? = some lane ∧ q.writers = lane.queue.writers ∧
      (q.hasReader = true → lane.queue.hasReader = true) ∧ t = {} ∧ y = x.withQueue i lane q := by
  obtain ⟨lane, hlane, h⟩ := Option.bind_eq_some_iff.mp h
  split at h
  · rename_i hq
    cases h
    exact ⟨lane, hlane, hq.1, hq.2, rfl, rfl⟩
  · cases h

/-- What has become of the logs of a feed. -/
structure Carries (feed : List Sighting) (put : ChainId → List Sighting) (x : Junction χ) :
    Prop where
  keeps : x.router.Keeps
  writers : ∀ lane ∈ x.routes.lanes, lane.queue.writers = if x.router.isFinished then 0 else 1
  given_up : x.router.isFinished = true →
    x.routes.shared.items = [] ∧ x.routes.shared.hasReader = false
  /-- No log is put twice, in another order, or in another queue. -/
  sublist : ∀ d, (put d ++ x.router.pending x.routes d).Sublist (headedFor d feed)
  /-- Without a cancellation, nothing is missing in between. -/
  cut : x.cancelled = false → ∀ d, put d <+: headedFor d feed
  /-- Without a cancellation, nothing is missing at all where the queue is read. -/
  whole : x.cancelled = false → ∀ d, x.routes.isOpen d = true →
    put d ++ x.router.pending x.routes d = headedFor d feed

namespace Carries

variable {feed : List Sighting} {put : ChainId → List Sighting} {x : Junction χ}

/-- A step of the router carries the logs on. -/
theorem step (h : x.Carries feed put) {o : Outcome χ σ (Router × Routes χ)} {nodes : σ}
    (hmove : x.router.Moves x.cancelled x.routes nodes o) :
    Carries feed (fun d => put d ++ x.routes.added o.task.2 d)
      { x with router := o.task.1, routes := o.task.2 } where
  keeps := hmove.keeps_destination
  writers := hmove.writers_eq_ite h.writers
  given_up := hmove.shared_of_isFinished
  sublist d := by
    rw [List.append_assoc]
    have hlast := hmove.added_append_pending_sublist h.keeps d
    exact (hlast.append_left (put d)).trans (h.sublist d)
  cut hgoing d := by
    rw [show x.cancelled = false from hgoing] at hmove
    cases hopen : x.routes.isOpen d with
    | false =>
      rw [hmove.added_eq_nil hopen, List.append_nil]
      exact h.cut hgoing d
    | true =>
      -- What is added is the beginning of what was pending.
      rw [← h.whole hgoing d hopen, ← hmove.added_append_pending_eq h.keeps hopen,
        ← List.append_assoc]
      exact List.prefix_append _ _
  whole hgoing d hopen := by
    rw [show x.cancelled = false from hgoing] at hmove
    rw [List.append_assoc, ← h.whole hgoing d (hmove.isOpen_eq d ▸ hopen),
      ← hmove.added_append_pending_eq h.keeps (hmove.isOpen_eq d ▸ hopen)]

/-- A log that comes into the shared queue is one more in the feed. -/
theorem arrive (h : x.Carries feed put) {s : Sighting} {shared : Queue}
    (hput : x.routes.shared.put s = .queued shared) :
    Carries (feed ++ [s]) put (x.withShared shared) := by
  have hpending : ∀ d, (x.withShared shared).router.pending (x.withShared shared).routes d =
      x.router.pending x.routes d ++ headedFor d [s] := by
    intro d
    change headedFor d (x.router.inHand ++ shared.items) = _
    rw [(Queue.items_of_put hput).1, ← List.append_assoc, headedFor_append, Router.pending]
  refine ⟨h.keeps, h.writers, ?_, ?_, ?_, ?_⟩
  · intro hfinished
    -- Nobody reads the queue any more, so nothing could come in.
    have hreader := (eq_of_put hput).2
    rw [(h.given_up hfinished).2] at hreader
    cases hreader
  · intro d
    rw [hpending, ← List.append_assoc, headedFor_append]
    exact (h.sublist d).append_right _
  · intro hgoing d
    rw [headedFor_append]
    exact (h.cut hgoing d).trans (List.prefix_append _ _)
  · intro hgoing d hopen
    rw [hpending, ← List.append_assoc, headedFor_append, h.whole hgoing d hopen]

/-- What happens to the queue of a lane leaves the logs as they are. -/
theorem serve (h : x.Carries feed put) {i : Nat} {lane : Lane χ} {q : Queue}
    (hlane : x.routes.lanes[i]? = some lane) (hwriters : q.writers = lane.queue.writers)
    (hreader : q.hasReader = true → lane.queue.hasReader = true) :
    Carries feed put (x.withQueue i lane q) := by
  refine ⟨h.keeps, ?_, h.given_up, h.sublist, h.cut, ?_⟩
  · intro lane' hlane'
    rcases List.mem_or_eq_of_mem_set hlane' with hmem | rfl
    · exact h.writers lane' hmem
    · exact hwriters.trans (h.writers lane (List.mem_of_getElem? hlane))
  · intro hgoing d hopen
    exact h.whole hgoing d (Routes.isOpen_of_set hlane (by rfl) hreader hopen)

/-- An act carries the logs on. -/
theorem act (h : x.Carries feed put) {a : Act} {t : Traffic} {y : Junction χ}
    (hact : x.act a = some (t, y)) : y.Carries (feed ++ t.came) fun d => put d ++ t.put d := by
  cases a with
  | step notice =>
    obtain ⟨o, hstep, ⟨⟩⟩ := Option.map_eq_some_iff.mp hact
    rw [List.append_nil]
    exact h.step (Router.moves_of_step hstep)
  | arrive s =>
    obtain ⟨shared, hput, rfl, rfl⟩ := exists_of_act_arrive hact
    simpa only [List.append_nil] using h.arrive hput
  | leave =>
    cases hact
    simp only [List.append_nil]
    exact ⟨h.keeps, h.writers, h.given_up, h.sublist, h.cut, h.whole⟩
  | serve i q =>
    obtain ⟨lane, hlane, hwriters, hreader, rfl, rfl⟩ := exists_of_act_serve hact
    simpa only [List.append_nil] using h.serve hlane hwriters hreader
  | cancel =>
    cases hact
    simp only [List.append_nil]
    exact ⟨h.keeps, h.writers, h.given_up, h.sublist, fun hgoing => (nomatch hgoing),
      fun hgoing => (nomatch hgoing)⟩

/-- A sequence of acts carries the logs on. -/
theorem follow (h : x.Carries feed put) {as : List Act} {t : Traffic} {y : Junction χ}
    (hfollow : x.follow as = some (t, y)) :
    y.Carries (feed ++ t.came) fun d => put d ++ t.put d := by
  induction as generalizing x feed put t with
  | nil =>
    cases hfollow
    simpa only [List.append_nil] using h
  | cons a as ih =>
    obtain ⟨⟨t₁, x₁⟩, hact, hfollow⟩ := Option.bind_eq_some_iff.mp hfollow
    obtain ⟨⟨t₂, y₂⟩, hrest, ⟨⟩⟩ := Option.bind_eq_some_iff.mp hfollow
    have hlast := ih (h.act hact) hrest
    simpa only [Traffic.append, List.append_assoc] using hlast

/-- At first the feed is what is in the shared queue. -/
theorem start (hwaiting : x.router = .waiting)
    (hwriters : ∀ lane ∈ x.routes.lanes, lane.queue.writers = 1) :
    x.Carries x.routes.shared.items fun _ => [] := by
  have hpending : ∀ d, x.router.pending x.routes d = headedFor d x.routes.shared.items := by
    intro d
    rw [hwaiting]
    rfl
  refine ⟨?_, ?_, ?_, ?_, fun _ d => List.nil_prefix, fun _ d _ => hpending d⟩
  · rw [hwaiting]
    intro d s hrouting
    cases hrouting
  · rw [hwaiting]
    exact hwriters
  · rw [hwaiting]
    intro hfinished
    cases hfinished
  · intro d
    exact hpending d ▸ List.Sublist.refl _

end Carries

/-! ### What is over -/

/-- The router that has ended takes and puts nothing any more. -/
theorem act_of_ended {x y : Junction χ} (hended : x.router = .ended) {a : Act} {t : Traffic}
    (hact : x.act a = some (t, y)) : y.router = .ended ∧ ∀ d, t.put d = [] := by
  cases a with
  | step notice =>
    obtain ⟨o, hstep, ⟨⟩⟩ := Option.map_eq_some_iff.mp hact
    rw [hended] at hstep
    cases hstep
  | arrive s =>
    obtain ⟨shared, -, rfl, rfl⟩ := exists_of_act_arrive hact
    exact ⟨hended, fun d => rfl⟩
  | leave | cancel =>
    cases hact
    exact ⟨hended, fun d => rfl⟩
  | serve i q =>
    obtain ⟨lane, -, -, -, rfl, rfl⟩ := exists_of_act_serve hact
    exact ⟨hended, fun d => rfl⟩

/-- Nothing is put into a queue that is closed, and it stays closed. -/
theorem act_of_closed {x y : Junction χ} {d : ChainId} (hclosed : x.routes.isOpen d = false)
    {a : Act} {t : Traffic} (hact : x.act a = some (t, y)) :
    y.routes.isOpen d = false ∧ t.put d = [] := by
  cases a with
  | step notice =>
    obtain ⟨o, hstep, ⟨⟩⟩ := Option.map_eq_some_iff.mp hact
    have hmove := Router.moves_of_step hstep
    exact ⟨(hmove.isOpen_eq d).trans hclosed, hmove.added_eq_nil hclosed⟩
  | arrive s =>
    obtain ⟨shared, -, rfl, rfl⟩ := exists_of_act_arrive hact
    exact ⟨hclosed, rfl⟩
  | leave | cancel =>
    cases hact
    exact ⟨hclosed, rfl⟩
  | serve i q =>
    obtain ⟨lane, hlane, -, hreader, rfl, rfl⟩ := exists_of_act_serve hact
    refine ⟨?_, rfl⟩
    rw [Bool.eq_false_iff] at hclosed ⊢
    exact fun hopen => hclosed (Routes.isOpen_of_set hlane (by rfl) hreader hopen)

/-- What every act keeps in which nothing is put for a destination, is kept by a sequence of
acts. -/
theorem follow_of_act {P : Junction χ → Prop} {d : ChainId}
    (hkeep : ∀ {x y : Junction χ} {a t}, P x → x.act a = some (t, y) → P y ∧ t.put d = [])
    {x y : Junction χ} (h : P x) {as : List Act} {t : Traffic}
    (hfollow : x.follow as = some (t, y)) : P y ∧ t.put d = [] := by
  induction as generalizing x t with
  | nil =>
    cases hfollow
    exact ⟨h, rfl⟩
  | cons a as ih =>
    obtain ⟨⟨t₁, x₁⟩, hact, hfollow⟩ := Option.bind_eq_some_iff.mp hfollow
    obtain ⟨⟨t₂, y₂⟩, hrest, ⟨⟩⟩ := Option.bind_eq_some_iff.mp hfollow
    obtain ⟨hx₁, hput⟩ := hkeep h hact
    obtain ⟨hy, hput'⟩ := ih hx₁ hrest
    refine ⟨hy, ?_⟩
    change t₁.put d ++ t₂.put d = []
    rw [hput, hput', List.append_nil]

/-! ### All together -/

/-- What the router has made of the logs of a feed, and what it will make of what is still to
come. -/
structure Sorts (feed : List Sighting) (put : ChainId → List Sighting) (x : Junction χ) : Prop where
  /-- The destination of a log are the low 64 bits of a word, whatever the other bits are. -/
  headed : ∀ d s, s ∈ headedFor d feed ↔ s ∈ feed ∧ ∃ m, PostedMessage.decodeLog s.log = .ok m ∧
    m.destinationChain.toNat % 2 ^ 64 = d.toNat
  /-- In every queue there are logs for it, unchanged, in their order, and none of them twice. -/
  sublist : ∀ d, (put d).Sublist (headedFor d feed)
  /-- Without a cancellation, nothing is missing in between. -/
  cut : x.cancelled = false → ∀ d, put d <+: headedFor d feed
  /-- Nothing is missing in front of what the router still has, unless the queue is closed. -/
  whole : x.cancelled = false → ∀ d, x.routes.isOpen d = true →
    put d ++ x.router.pending x.routes d = headedFor d feed
  /-- Nothing is put into a queue any more once it is closed. -/
  shut : ∀ d, x.routes.isOpen d = false → ∀ as t y, x.follow as = some (t, y) →
    y.routes.isOpen d = false ∧ t.put d = []
  /-- At the end, everything is in the queue unless it is closed. -/
  done : x.router = .ended → x.cancelled = false → ∀ d, x.routes.isOpen d = true →
    put d = headedFor d feed
  /-- At the end, nobody writes to the queues of the destinations any more. -/
  left : x.router = .ended → ∀ lane ∈ x.routes.lanes, lane.queue.writers = 0
  /-- After the end, nothing is taken from the shared queue or put into another queue. -/
  finished : x.router = .ended → ∀ as t y, x.follow as = some (t, y) →
    y.router = .ended ∧ (∀ notice, y.act (.step notice) = none) ∧ ∀ d, t.put d = []

/-- What the router makes of any feed, whatever the queues of the destinations are, however they are
read or closed, and whenever the router is cancelled. -/
theorem sorts_of_follow {x₀ x : Junction χ} {as : List Act} {t : Traffic}
    (hwaiting : x₀.router = .waiting) (hwriters : ∀ lane ∈ x₀.routes.lanes, lane.queue.writers = 1)
    (h : x₀.follow as = some (t, x)) : Sorts (x₀.routes.shared.items ++ t.came) t.put x := by
  have hcarries : x.Carries (x₀.routes.shared.items ++ t.came) t.put :=
    (Carries.start hwaiting hwriters).follow h
  refine
    { headed := fun d s => ?_
      sublist := fun d => (List.sublist_append_left _ _).trans (hcarries.sublist d)
      cut := hcarries.cut
      whole := hcarries.whole
      shut := fun d hclosed as t y hfollow =>
        follow_of_act (P := fun x => x.routes.isOpen d = false) (fun h hact => act_of_closed h hact)
          hclosed hfollow
      done := fun hended hgoing d hopen => ?_
      left := fun hended lane hlane => ?_
      finished := fun hended as t y hfollow => ?_ }
  · rw [headedFor, List.mem_filter, decide_eq_true_iff, destination?_eq_some_iff]
  · -- Nothing is pending any more.
    have hgiven := (hcarries.given_up (hended ▸ rfl)).1
    have hwhole := hcarries.whole hgoing d hopen
    rw [Router.pending, hgiven, hended] at hwhole
    exact (List.append_nil _).symm.trans hwhole
  · have hleft := hcarries.writers lane hlane
    rwa [hended] at hleft
  · have hy : y.router = .ended := (follow_of_act (d := 0) (fun h hact =>
      ⟨(act_of_ended h hact).1, (act_of_ended h hact).2 0⟩) hended hfollow).1
    refine ⟨hy, fun notice => ?_, fun d => ?_⟩
    · rw [act, hy]
      rfl
    · exact (follow_of_act (P := fun x => x.router = .ended) (d := d) (fun h hact =>
        ⟨(act_of_ended h hact).1, (act_of_ended h hact).2 d⟩) hended hfollow).2

/-! ### A run in which a queue is closed -/

namespace Closing

/-- A log that names a destination. -/
def posted (destination : Word) : Sighting where
  watcher := 0
  chain := 3
  log :=
    { address := 0
      topics := ({ destinationChain := destination } : PostedMessage).encodeLog.1
      data := ({ destinationChain := destination } : PostedMessage).encodeLog.2
      blockNumber := none }

/-- A log that cannot be read. -/
def foreign : Sighting where
  watcher := 0
  chain := 3
  log := { address := 0, topics := [], data := [], blockNumber := none }

/-- The word of destination 1 with more than its low bits. -/
def dirty : Word := 2 ^ 255 + 2 ^ 64 + 1

/-- Queues for destinations 1 and 2, and one writer to the shared queue. -/
def atFirst : Junction Unit where
  routes :=
    { shared := { capacity := 6, items := [posted 2, posted dirty, foreign], writers := 1 }
      lanes :=
        [{ destination := 1, queue := { capacity := 2, writers := 1 } },
         { destination := 2, queue := { capacity := 1, writers := 1 } }] }

/-- Two logs are put, one is read, and the queue of destination 2 is closed. Of the logs after that,
one cannot be read, one is for no queue, one is for the queue that is closed, and one is put. -/
def acts : List Act :=
  [.step .later, .step .later, .serve 1 { capacity := 1, writers := 1 }, .step .later, .step .later,
   .serve 1 { capacity := 1, writers := 1, hasReader := false }, .arrive (posted 9),
   .arrive (posted 2), .arrive (posted 1), .leave] ++ List.replicate 7 (.step .later)

/-- Whether the router has ended without a cancellation and has put two logs into the first queue,
and one into the second, which is closed. -/
def isSorted (t : Traffic) (x : Junction Unit) : Bool :=
  x.router == .ended && x.cancelled == false && x.routes.isOpen 1 && !x.routes.isOpen 2 &&
    t.put 1 == [posted dirty, posted 1] && t.put 2 == [posted 2]

theorem sorts_of_acts :
    ∃ t x, atFirst.follow acts = some (t, x) ∧ atFirst.router = .waiting ∧
      (∀ lane ∈ atFirst.routes.lanes, lane.queue.writers = 1) ∧ isSorted t x = true ∧
      Sorts (atFirst.routes.shared.items ++ t.came) t.put x := by
  have hrun : ((atFirst.follow acts).any fun y => isSorted y.1 y.2) = true := by decide +kernel
  obtain ⟨⟨t, x⟩, hfollow, hsorted⟩ := (Option.any_eq_true _ _).mp hrun
  have hwriters : ∀ lane ∈ atFirst.routes.lanes, lane.queue.writers = 1 := by
    intro lane hlane
    rcases List.mem_pair.mp hlane with rfl | rfl <;> rfl
  exact ⟨t, x, hfollow, rfl, hwriters, hsorted, sorts_of_follow rfl hwriters hfollow⟩

end Closing

end Junction

end Service

end CrossCall
