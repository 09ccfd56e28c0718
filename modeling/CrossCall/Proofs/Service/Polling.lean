import Mathlib
import CrossCall.Proofs.Service.Lanes
import CrossCall.Proofs.Service.Runs
import CrossCall.Proofs.Service.Watching

/-!
# The course of a watcher

A watcher sees little of what is around it: the time, whether it has been cancelled, the queue, and
the answers of its node. In every step it may find all of these changed in any way. Whatever it
finds, the filter that it installed is the one that it polls, and it is uninstalled once and last;
the three ways that lead there, a failed poll, a closed queue and a cancellation, differ in what has
become of the logs of the last poll.

What a watcher puts into the queue is read from the queue that each step finds and the one that it
leaves. The calls and these logs are told by its phase. Every step carries this on, so it holds
along every course, and at the end it is the account of the watcher.

## Main definitions

* `Moment` — what a watcher finds around it in a step
* `Stride` — a step of a watcher, with the queue before and after it
* `Watcher.course` — some steps, each in a moment of its own
* `Watch.Tells` — the calls and the added logs of a watcher, told by its phase
* `Watch.Ends`, `Watch.Account` — the account of a watcher that has ended
* `Service.stridesOf` — the steps of a watcher on the shared queue of the service

## Main results

* `Watch.Tells.move` — a step carries the account on
* `Watch.Ends.result_eq` — the result is told by the install and the polls
* `Service.exists_course_of_follow` — in a run of the service the steps of a watcher are a course
* `Service.account_of_follow` — the account of every watcher that ends in a run of the service
-/

namespace CrossCall

variable {χ σ : Type}

/-! ### What is added to a queue -/

namespace Queue

/-- What a queue holds beyond the logs that were in it before. -/
def added (before after : Queue) : List Sighting := after.items.drop before.items.length

/-- Nothing has become of a queue but that logs were added at its end: what was in it is still
there, and its room and its reader are as before. -/
structure Extends (before after : Queue) : Prop where
  items : after.items = before.items ++ before.added after
  capacity : after.capacity = before.capacity
  hasReader : after.hasReader = before.hasReader

theorem append_added_self (logs : List Sighting) (q : Queue) : logs ++ q.added q = logs := by
  rw [added, List.drop_length, List.append_nil]

theorem added_of_put {q q' : Queue} {s : Sighting} (h : q.put s = .queued q') :
    q.added q' = [s] := by
  rw [added, (items_of_put h).1, List.drop_left]

end Queue

namespace Service

/-! ### What happened -/

/-- The calls among what happened. -/
def callsAmong (happenings : List (Happening χ)) : List (Exchange χ) :=
  exchanges (happenings.filterMap Happening.event?)

/-- How much was added to a series. -/
def measuredAmong (series : Series) (happenings : List (Happening χ)) : Nat :=
  measured series (happenings.filterMap Happening.event?)

theorem callsAmong_append (hs hs' : List (Happening χ)) :
    callsAmong (hs ++ hs') = callsAmong hs ++ callsAmong hs' := by
  rw [callsAmong, List.filterMap_append, exchanges_append]
  rfl

theorem measuredAmong_append (series : Series) (hs hs' : List (Happening χ)) :
    measuredAmong series (hs ++ hs') = measuredAmong series hs + measuredAmong series hs' := by
  rw [measuredAmong, List.filterMap_append, measured_append]
  rfl

/-- Lines of the journal are no calls, and count nothing. -/
theorem callsAmong_of_isLine {hs : List (Happening χ)} (h : ∀ x ∈ hs, x.IsLine) :
    callsAmong hs = [] := by
  refine List.filterMap_eq_nil_iff.mpr fun e he => ?_
  obtain ⟨x, hx, hevent⟩ := List.mem_filterMap.mp he
  obtain ⟨level, target, text, rfl⟩ := h x hx
  cases hevent
  rfl

theorem measuredAmong_of_isLine {hs : List (Happening χ)} (h : ∀ x ∈ hs, x.IsLine)
    (series : Series) : measuredAmong series hs = 0 := by
  refine measured_eq_zero fun n hn => ?_
  obtain ⟨x, hx, hevent⟩ := List.mem_filterMap.mp hn
  obtain ⟨level, target, text, rfl⟩ := h x hx
  cases hevent
  rfl

/-! ### The account of a watcher -/

namespace Watch

/-- The calls of a watcher that has installed its filter: the polls of the filter, with their
answers. -/
def opened (w : Watch χ) (filter : Word) (polls : List (Except ClientError (List Log))) :
    List (Exchange χ) :=
  ⟨w.node, .newFilter w.filter, .ok filter⟩ ::
    polls.map fun answer => ⟨w.node, .filterChanges filter, answer⟩

/-- The calls of a watcher that has uninstalled its filter. -/
def closed (w : Watch χ) (filter : Word) (polls : List (Except ClientError (List Log)))
    (answer : Except ClientError Bool) : List (Exchange χ) :=
  w.opened filter polls ++ [⟨w.node, .uninstallFilter filter, answer⟩]

/-- The logs of some polls, as the watcher saw them. -/
def sightings (w : Watch χ) (batches : List (List Log)) : List Sighting :=
  batches.flatten.map w.sighting

theorem opened_concat (w : Watch χ) (filter : Word) (polls : List (Except ClientError (List Log)))
    (answer : Except ClientError (List Log)) :
    w.opened filter (polls ++ [answer]) =
      w.opened filter polls ++ [⟨w.node, .filterChanges filter, answer⟩] := by
  simp [opened]

theorem sightings_concat (w : Watch χ) (batches : List (List Log)) (logs : List Log) :
    w.sightings (batches ++ [logs]) = w.sightings batches ++ logs.map w.sighting := by
  simp [sightings]

/-- What a watcher that has ended has done: its calls, the logs that it added to the queue, and its
result. -/
inductive Ends (w : Watch χ) :
    List (Exchange χ) → List Sighting → Except WatchError Unit → Prop
  /-- The filter could not be installed, and nothing else was done. -/
  | refused (e : ClientError) :
      w.Ends [⟨w.node, .newFilter w.filter, .error e⟩] [] (.error (.installFilter w.chain e))
  /-- The watcher was stopped. What it added to the queue is what the polls brought, up to some
  log. -/
  | stopped (filter : Word) (batches : List (List Log)) (answer : Except ClientError Bool)
      {added : List Sighting} (cut : added <+: w.sightings batches) :
      w.Ends (w.closed filter (batches.map .ok) answer) added (.ok ())
  /-- The last poll failed. What the polls before it brought was all added to the queue. -/
  | failed (filter : Word) (batches : List (List Log)) (e : ClientError)
      (answer : Except ClientError Bool) :
      w.Ends (w.closed filter (batches.map .ok ++ [.error e]) answer) (w.sightings batches)
        (.error (.pollFilter w.chain e))

/-- The error that a watcher makes of a call. It makes none of an uninstall. -/
def errorOf? (w : Watch χ) : Exchange χ → Option WatchError
  | ⟨_, .newFilter _, .error e⟩ => some (.installFilter w.chain e)
  | ⟨_, .filterChanges _, .error e⟩ => some (.pollFilter w.chain e)
  | _ => none

/-- The result that the calls of a watcher amount to. -/
def verdict (w : Watch χ) (calls : List (Exchange χ)) : Except WatchError Unit :=
  match calls.findSome? w.errorOf? with
  | some e => .error e
  | none => .ok ()

/-- Whether the filter was uninstalled does not matter for the result. -/
theorem verdict_closed (w : Watch χ) (filter : Word)
    (polls : List (Except ClientError (List Log))) (answer : Except ClientError Bool) :
    w.verdict (w.closed filter polls answer) = w.verdict (w.opened filter polls) := by
  have hnone : [(⟨w.node, .uninstallFilter filter, answer⟩ : Exchange χ)].findSome? w.errorOf? =
      none := by
    rfl
  rw [verdict, verdict, closed, List.findSome?_append, hnone, Option.or_none]

theorem findSome?_opened (w : Watch χ) (filter : Word) (batches : List (List Log)) :
    (w.opened filter (batches.map .ok)).findSome? w.errorOf? = none := by
  simp [opened, errorOf?]

/-- The result is an error exactly if the install or the last poll failed. -/
theorem Ends.result_eq {w : Watch χ} {calls : List (Exchange χ)} {added : List Sighting}
    {result : Except WatchError Unit} (h : w.Ends calls added result) :
    result = w.verdict calls := by
  cases h with
  | refused e => rfl
  | stopped filter batches answer cut =>
    rw [verdict_closed, verdict, findSome?_opened]
  | failed filter batches e answer =>
    rw [verdict_closed, verdict, opened_concat, List.findSome?_append, findSome?_opened]
    rfl

/-- The calls of a watcher and the logs that it added to the queue, told by its phase. -/
inductive Tells (w : Watch χ) : WatchPhase → List (Exchange χ) → List Sighting → Prop
  | installing : w.Tells .installing [] []
  /-- Between two polls, everything has been added. -/
  | waiting {filter : Word} {due : Nat} (batches : List (List Log)) :
      w.Tells (.waiting filter due) (w.opened filter (batches.map .ok)) (w.sightings batches)
  /-- While the logs of a poll are forwarded, they are what is missing. -/
  | forwarding {filter : Word} {due : Nat} {logs : List Log} {added : List Sighting}
      (batches : List (List Log))
      (rest : added ++ logs.map w.sighting = w.sightings batches) :
      w.Tells (.forwarding filter due logs) (w.opened filter (batches.map .ok)) added
  | stopping {filter : Word} {added : List Sighting} (batches : List (List Log))
      (cut : added <+: w.sightings batches) :
      w.Tells (.uninstalling filter (.ok ())) (w.opened filter (batches.map .ok)) added
  | failing {filter : Word} (batches : List (List Log)) (e : ClientError) :
      w.Tells (.uninstalling filter (.error (.pollFilter w.chain e)))
        (w.opened filter (batches.map .ok ++ [.error e])) (w.sightings batches)
  | ended {calls : List (Exchange χ)} {added : List Sighting} {result : Except WatchError Unit}
      (ends : w.Ends calls added result) : w.Tells (.ended result) calls added
  | broken {calls : List (Exchange χ)} {added : List Sighting} : w.Tells .broken calls added

theorem Tells.of_eq {w : Watch χ} {phase : WatchPhase} {calls calls' : List (Exchange χ)}
    {added added' : List Sighting} (h : w.Tells phase calls added) (hcalls : calls' = calls)
    (hadded : added' = added) : w.Tells phase calls' added' := by
  rwa [hcalls, hadded]

end Watch

/-! ### A step -/

section

variable {env : Environment χ σ} {now : Nat} {cancelled : Bool} {w : Watcher χ} {q : Queue}
  {nodes : σ} {o : Outcome χ σ (Watcher χ × Queue)} {calls : List (Exchange χ)}
  {added : List Sighting}

/-- A step of a watcher carries its account on. -/
theorem Watch.Tells.move (h : w.watch.Tells w.phase calls added)
    (hmove : w.Moves env now cancelled q nodes o) :
    w.watch.Tells o.task.1.phase (calls ++ callsAmong o.happenings)
      (added ++ q.added o.task.2) := by
  cases hmove with
  | broke => exact .broken
  | installed phase =>
    rw [phase] at h
    cases h
    exact .of_eq (.waiting []) rfl (q.append_added_self [])
  | refused phase =>
    rw [phase] at h
    cases h
    exact .of_eq (.ended (.refused _)) rfl (q.append_added_self [])
  | stopped phase =>
    rw [phase] at h
    cases h with
    | waiting batches =>
      -- All that was polled has been added.
      apply Watch.Tells.of_eq (.stopping batches List.prefix_rfl)
      · exact List.append_nil _
      · exact q.append_added_self _
  | @polled filter due logs nodes' phase =>
    rw [phase] at h
    cases h with
    | waiting batches =>
      -- The logs of the poll are what is missing now.
      apply Watch.Tells.of_eq (.forwarding (batches ++ [logs]) (Watch.sightings_concat _ _ _).symm)
      · rw [List.map_append]
        exact (Watch.opened_concat _ _ _ _).symm
      · exact q.append_added_self _
  | @failed filter due e nodes' phase =>
    rw [phase] at h
    cases h with
    | waiting batches =>
      apply Watch.Tells.of_eq (.failing batches e)
      · exact (Watch.opened_concat _ _ _ _).symm
      · exact q.append_added_self _
  | paused phase =>
    rw [phase] at h
    cases h with
    | forwarding batches rest =>
      rw [List.map_nil, List.append_nil] at rest
      rw [rest]
      apply Watch.Tells.of_eq (.waiting batches)
      · exact List.append_nil _
      · exact q.append_added_self _
  | forwarded phase put =>
    rw [phase] at h
    cases h with
    | forwarding batches rest =>
      -- The first of the missing logs is at the end of the queue now.
      rw [List.map_cons, List.append_cons] at rest
      apply Watch.Tells.of_eq (.forwarding batches rest)
      · exact List.append_nil _
      · rw [← Queue.added_of_put put]
        rfl
  | refusedLog phase | interrupted phase =>
    rw [phase] at h
    cases h with
    | forwarding batches rest =>
      -- The rest of the last poll is given up.
      apply Watch.Tells.of_eq (.stopping batches ⟨_, rest⟩)
      · exact List.append_nil _
      · exact q.append_added_self _
  | @uninstalled filter result answer nodes' lines phase answer_eq unbroken lines_eq =>
    -- Whatever the node answers, only lines follow.
    have hcalls : callsAmong (.event (.exchange ⟨w.watch.node, .uninstallFilter filter, answer⟩) ::
        lines) = [⟨w.watch.node, .uninstallFilter filter, answer⟩] :=
      congrArg (List.cons _) (callsAmong_of_isLine lines_eq)
    have hadded : added ++ q.added (w.left (.ended result) q).2 = added := q.append_added_self _
    rw [phase] at h
    rw [hcalls, hadded]
    cases h with
    | stopping batches cut => exact .ended (.stopped filter batches answer cut)
    | failing batches e => exact .ended (.failed filter batches e answer)

namespace Watcher.Moves

/-- A watcher only adds to the end of the queue. -/
theorem extends_queue (hmove : w.Moves env now cancelled q nodes o) : q.Extends o.task.2 := by
  have hself : q.items = q.items ++ q.added q := (q.append_added_self _).symm
  rcases hmove.queue_cases with ⟨-, hq⟩ | ⟨-, hq | ⟨log, hput⟩⟩
  · rw [hq]
    exact ⟨hself, rfl, rfl⟩
  · rw [hq]
    exact ⟨hself, rfl, rfl⟩
  · refine ⟨?_, (Queue.items_of_put hput).2, ?_⟩
    · rw [Queue.added_of_put hput]
      exact (Queue.items_of_put hput).1
    · rw [(eq_of_put hput).1]

/-- A watcher counts the logs that it adds to the queue. -/
theorem measuredAmong_eq (hmove : w.Moves env now cancelled q nodes o) :
    measuredAmong (.forwarded w.watch.chain) o.happenings = (q.added o.task.2).length := by
  have hself : 0 = (q.added q).length := congrArg List.length (q.append_added_self []).symm
  cases hmove with
  | installed | broke | polled | failed | paused | refused | stopped | refusedLog | interrupted =>
    exact hself
  | forwarded phase put =>
    have hone : (Note.measure (.forwarded w.watch.chain) 1).amount (.forwarded w.watch.chain) = 1 :=
      if_pos rfl
    refine Eq.trans ?_ (congrArg List.length (Queue.added_of_put put)).symm
    exact congrArg (fun n => 0 + (n + 0)) hone
  | uninstalled phase answer_eq unbroken lines_eq =>
    exact (measuredAmong_of_isLine lines_eq (.forwarded w.watch.chain)).trans hself

end Watcher.Moves

end

/-! ### A course -/

/-- What a watcher finds around it in a step. -/
structure Moment (σ : Type) where
  now : Nat := 0
  cancelled : Bool := false
  notice : Notice := .later
  queue : Queue
  nodes : σ

/-- A step of a watcher: the queue that it found and the one that it left, and what happened. -/
structure Stride (χ : Type) where
  before : Queue
  after : Queue
  happenings : List (Happening χ)

/-- What happened in some steps. -/
def happeningsIn (strides : List (Stride χ)) : List (Happening χ) :=
  strides.flatMap Stride.happenings

/-- The logs that some steps added to the queues that they found. -/
def addedIn (strides : List (Stride χ)) : List Sighting :=
  strides.flatMap fun x => x.before.added x.after

theorem happeningsIn_concat (strides : List (Stride χ)) (x : Stride χ) :
    happeningsIn (strides ++ [x]) = happeningsIn strides ++ x.happenings := by
  rw [happeningsIn, List.flatMap_append, List.flatMap_singleton, happeningsIn]

theorem addedIn_concat (strides : List (Stride χ)) (x : Stride χ) :
    addedIn (strides ++ [x]) = addedIn strides ++ x.before.added x.after := by
  rw [addedIn, List.flatMap_append, List.flatMap_singleton, addedIn]

/-- The account of a watcher that has ended after some steps. Its calls, what it added to the queues
that it found, its counter and its result fit together, and it did nothing else to these queues. -/
structure Watch.Account (w : Watch χ) (strides : List (Stride χ))
    (result : Except WatchError Unit) : Prop where
  ends : w.Ends (callsAmong (happeningsIn strides)) (addedIn strides) result
  result_eq : result = w.verdict (callsAmong (happeningsIn strides))
  counted : measuredAmong (.forwarded w.chain) (happeningsIn strides) = (addedIn strides).length
  kept : ∀ x ∈ strides, x.before.Extends x.after

namespace Watcher

section

/-- The next steps of a watcher, each in a moment of its own, and the watcher after them. -/
def course (env : Environment χ σ) :
    List (Moment σ) → Watcher χ → Option (List (Stride χ) × Watcher χ)
  | [], w => some ([], w)
  | m :: ms, w => do
    let o ← w.step env m.now m.cancelled m.notice m.queue m.nodes
    let (strides, w') ← course env ms o.task.1
    return (⟨m.queue, o.task.2, o.happenings⟩ :: strides, w')

variable {env : Environment χ σ} {ms ms' : List (Moment σ)} {w w' w'' : Watcher χ}
  {strides strides' : List (Stride χ)}

/-- What holds of a watcher, and of the steps that it has taken, is kept by a course if it is kept
by every move. -/
theorem course_induction {motive : List (Stride χ) → Watcher χ → Prop}
    (move : ∀ {now cancelled q nodes o strides} {w : Watcher χ}, motive strides w →
      w.Moves env now cancelled q nodes o →
      motive (strides ++ [⟨q, o.task.2, o.happenings⟩]) o.task.1)
    {before : List (Stride χ)} (start : motive before w)
    (h : w.course env ms = some (strides, w')) : motive (before ++ strides) w' := by
  -- The steps taken before those that are left grow with every step.
  induction ms generalizing w strides before with
  | nil =>
    cases h
    rwa [List.append_nil]
  | cons m ms ih =>
    obtain ⟨o, hstep, h⟩ := Option.bind_eq_some_iff.mp h
    obtain ⟨⟨rest, w₁⟩, hrest, ⟨⟩⟩ := Option.bind_eq_some_iff.mp h
    rw [List.append_cons]
    exact ih (move start (moves_of_step hstep)) hrest

/-- The steps of a course find the queues of its moments. -/
theorem map_before_of_course (h : w.course env ms = some (strides, w')) :
    strides.map Stride.before = ms.map Moment.queue := by
  induction ms generalizing w strides with
  | nil =>
    cases h
    rfl
  | cons m ms ih =>
    obtain ⟨o, hstep, h⟩ := Option.bind_eq_some_iff.mp h
    obtain ⟨⟨rest, w₁⟩, hrest, ⟨⟩⟩ := Option.bind_eq_some_iff.mp h
    exact congrArg (List.cons m.queue) (ih hrest)

/-- A course may be taken in two parts. -/
theorem course_append (h : w.course env ms = some (strides, w'))
    (h' : w'.course env ms' = some (strides', w'')) :
    w.course env (ms ++ ms') = some (strides ++ strides', w'') := by
  induction ms generalizing w strides with
  | nil =>
    cases h
    exact h'
  | cons m ms ih =>
    obtain ⟨o, hstep, h⟩ := Option.bind_eq_some_iff.mp h
    obtain ⟨⟨rest, w₁⟩, hrest, ⟨⟩⟩ := Option.bind_eq_some_iff.mp h
    rw [List.cons_append, course, hstep, Option.bind_eq_bind, Option.bind_some, ih hrest]
    rfl

/-- What has become of a watcher after a course from its beginning. -/
structure Recounted (watch : Watch χ) (strides : List (Stride χ)) (w : Watcher χ) : Prop where
  watch_eq : w.watch = watch
  tells : watch.Tells w.phase (callsAmong (happeningsIn strides)) (addedIn strides)
  counted : measuredAmong (.forwarded watch.chain) (happeningsIn strides) =
    (addedIn strides).length
  kept : ∀ x ∈ strides, x.before.Extends x.after

theorem Recounted.move {watch : Watch χ} (h : Recounted watch strides w) {now : Nat}
    {cancelled : Bool} {q : Queue} {nodes : σ} {o : Outcome χ σ (Watcher χ × Queue)}
    (hmove : w.Moves env now cancelled q nodes o) :
    Recounted watch (strides ++ [⟨q, o.task.2, o.happenings⟩]) o.task.1 := by
  obtain ⟨rfl, htells, hcounted, hkept⟩ := h
  refine ⟨hmove.watch_eq, ?_, ?_, ?_⟩
  · rw [happeningsIn_concat, callsAmong_append, addedIn_concat]
    exact htells.move hmove
  · rw [happeningsIn_concat, measuredAmong_append, addedIn_concat, List.length_append, hcounted,
      hmove.measuredAmong_eq]
  · rintro x hx
    rcases List.mem_append.mp hx with hx | hx
    · exact hkept x hx
    · rw [List.mem_singleton.mp hx]
      exact hmove.extends_queue

theorem recounted_of_course {watch : Watch χ}
    (h : Watcher.course env ms { watch } = some (strides, w)) : Recounted watch strides w := by
  have hstart : Recounted watch [] { watch } := ⟨rfl, .installing, rfl, by simp⟩
  exact course_induction (motive := Recounted watch) (fun h hmove => h.move hmove) hstart h

/-- The account of a watcher at its end. -/
theorem Recounted.account {watch : Watch χ} (h : Recounted watch strides w)
    {result : Except WatchError Unit} (hended : w.phase = .ended result) :
    watch.Account strides result := by
  have htells := h.tells
  rw [hended] at htells
  cases htells with
  | ended ends => exact ⟨ends, ends.result_eq, h.counted, h.kept⟩

/-- The account of every watcher that ends without breaking down, whatever it found in its steps:
the time, cancellations, queues that are full or closed, and any answers of its node. -/
theorem account_of_course {watch : Watch χ} {result : Except WatchError Unit}
    (h : Watcher.course env ms { watch } = some (strides, w))
    (hended : w.phase = .ended result) :
    strides.map Stride.before = ms.map Moment.queue ∧ watch.Account strides result :=
  ⟨map_before_of_course h, (recounted_of_course h).account hended⟩

end

namespace CutShort

/-- A log of a block. -/
def log (number : BitVec 64) : Log :=
  { address := 0, topics := [], data := [], blockNumber := some number }

/-- A node that shows two logs in a poll and does not uninstall filters. -/
def twoLogs : Environment Unit Unit where
  answer _ _ q := match q with
    | .newFilter _ => (.ok 7, ())
    | .filterChanges _ => (.ok [log 1, log 2], ())
    | _ => (.error (.transport ""), ())

/-- An outbox of chain 1. -/
def watch : Watch Unit := { chain := 1, outbox := 0, node := (), period := 1 }

/-- A queue with room for one more log. -/
def room : Queue := { capacity := 2, items := [watch.sighting (log 0)], writers := 1 }

/-- A queue that nobody reads. -/
def gone : Queue := { capacity := 2, writers := 1, hasReader := false }

/-- What the watcher finds: the queue is closed after the first log of a poll. -/
def moments : List (Moment Unit) :=
  [room, room, room, gone, room].map fun queue => { queue, nodes := () }

/-- The queue gets the first log of the poll, behind the one that is in it, and the filter is not
uninstalled. -/
theorem account_of_cutShort :
    ∃ strides w, Watcher.course twoLogs moments { watch := watch } = some (strides, w) ∧
      w.phase = .ended (.ok ()) ∧
      strides.map (fun x => x.after.items) = [room.items, room.items,
        [watch.sighting (log 0), watch.sighting (log 1)], [], room.items] ∧
      addedIn strides = [watch.sighting (log 1)] ∧
      strides.map Stride.before = moments.map Moment.queue ∧ watch.Account strides (.ok ()) := by
  have hcourse : ∃ strides w, Watcher.course twoLogs moments { watch := watch } =
      some (strides, w) ∧ w.phase = .ended (.ok ()) ∧
      strides.map (fun x => x.after.items) = [room.items, room.items,
        [watch.sighting (log 0), watch.sighting (log 1)], [], room.items] ∧
      addedIn strides = [watch.sighting (log 1)] := ⟨_, _, rfl, rfl, rfl, rfl⟩
  obtain ⟨strides, w, hcourse, hended, hafter, hadded⟩ := hcourse
  exact ⟨strides, w, hcourse, hended, hafter, hadded, account_of_course hcourse hended⟩

end CutShort

end Watcher

/-! ### In a run of the service -/

/-- The step of a watcher in a turn, with the shared queue before and after it, if it is the
watcher's turn. -/
def strideOf (i : Nat) (turn : Turn χ) (s s' : System χ) : List (Stride χ) :=
  if turn.task = some (.watcher i) then [⟨s.shared, s'.shared, turn.happenings⟩] else []

/-- The steps of a watcher in a sequence of actions, with the shared queue before and after each. -/
def stridesOf (env : Environment χ σ) (i : Nat) : List Action → Service χ → σ → List (Stride χ)
  | [], _, _ => []
  | a :: as, s, nodes =>
    match s.act env a nodes with
    | some o =>
      strideOf i (s.turnOf a o) s.system o.task.system ++ stridesOf env i as o.task o.nodes
    | none => []

section

variable {env : Environment χ σ} {i : Nat}

theorem strideOf_of_ne {turn : Turn χ} (h : turn.task ≠ some (.watcher i)) (s s' : System χ) :
    strideOf i turn s s' = [] := if_neg h

/-- Whatever changes, a watcher goes on with its step, if it took one, or stays as it is. -/
theorem exists_course_of_changes {s s' : System χ} {nodes nodes' : σ} {turn : Turn χ}
    {w : Watcher χ} (hw : s.watchers[i]? = some w)
    (h : System.Changes env s nodes turn s' nodes') :
    ∃ w' ms, s'.watchers[i]? = some w' ∧ w.course env ms = some (strideOf i turn s s', w') := by
  cases h with
  | aside kept lines =>
    rw [strideOf_of_ne (by simp)]
    exact ⟨w, [], hw, rfl⟩
  | @stepped t notice o move =>
    cases move with
    | router | worker | laneWorker =>
      rw [strideOf_of_ne (by simp)]
      exact ⟨w, [], hw, rfl⟩
    | @watcher j w' o watcher step =>
      by_cases hij : j = i
      · -- The watcher finds the time, the queue and the nodes as they are now.
        subst hij
        rw [hw] at watcher
        cases watcher
        refine ⟨o.task.1, [⟨s.now, s.cancelled, notice, s.shared, nodes⟩], ?_, ?_⟩
        · exact List.getElem?_set_self (List.getElem?_eq_some_iff.mp hw).1
        · rw [Watcher.course, step]
          simp [Watcher.course, strideOf]
      · rw [strideOf_of_ne (by simp [hij])]
        exact ⟨w, [], (List.getElem?_set_ne hij).trans hw, rfl⟩

/-- Whatever the other tasks do meanwhile, the steps of a watcher on the shared queue are a course
of it. -/
theorem exists_course_of_follow {as : List Action} {s s' : Service χ} {nodes nodes' : σ}
    {turns : List (Turn χ)} {w : Watcher χ} (hw : s.system.watchers[i]? = some w)
    (h : s.follow env as nodes = some (turns, s', nodes')) :
    ∃ w' ms, s'.system.watchers[i]? = some w' ∧
      w.course env ms = some (stridesOf env i as s nodes, w') := by
  induction as generalizing s nodes turns w with
  | nil =>
    cases h
    exact ⟨w, [], hw, rfl⟩
  | cons a as ih =>
    obtain ⟨o, hact, h⟩ := Option.bind_eq_some_iff.mp h
    obtain ⟨⟨rest, _, _⟩, hrest, ⟨⟩⟩ := Option.bind_eq_some_iff.mp h
    obtain ⟨w₁, ms, hw₁, hcourse⟩ := exists_course_of_changes hw (changes_of_act hact)
    obtain ⟨w', ms', hw', hcourse'⟩ := ih hw₁ hrest
    refine ⟨w', ms ++ ms', hw', ?_⟩
    rw [stridesOf, hact]
    exact Watcher.course_append hcourse hcourse'

/-- In every run of the service, this is the account of a watcher that ends, with what it added to
the shared queue. -/
theorem account_of_follow {as : List Action} {s s' : Service χ} {nodes nodes' : σ}
    {turns : List (Turn χ)} {watch : Watch χ} {w : Watcher χ} {result : Except WatchError Unit}
    (hwatch : s.system.watchers[i]? = some { watch })
    (h : s.follow env as nodes = some (turns, s', nodes'))
    (hw : s'.system.watchers[i]? = some w) (hended : w.phase = .ended result) :
    watch.Account (stridesOf env i as s nodes) result := by
  obtain ⟨w', ms, hw', hcourse⟩ := exists_course_of_follow hwatch h
  cases hw.symm.trans hw'
  exact (Watcher.recounted_of_course hcourse).account hended

end

end Service

end CrossCall
