import CrossCall.Abi.Event

/-!
# Queues of the service

A queue holds a bounded number of logs between the tasks that write to it and the one that reads. A
writer waits while it is full, and learns when nobody reads any more. The reader waits while it is
empty, and learns when nobody writes any more.

## Main definitions

* `Sighting` — a log with the chain it was seen on
* `Queue` — a bounded queue
* `Queue.put`, `Queue.take` — what a writer and the reader find

## Main results

* `Queue.length_le_of_put` — a queue never holds more than its capacity
-/

namespace CrossCall

/-- A log, the chain it was seen on, and the watcher that saw it. -/
structure Sighting where
  watcher : Nat
  chain : ChainId
  log : Log
deriving DecidableEq

/-- A bounded queue of logs, oldest first. -/
structure Queue where
  capacity : Nat
  items : List Sighting := []
  /-- How many tasks may still write. -/
  writers : Nat
  /-- Whether a task may still read. -/
  hasReader : Bool := true
deriving DecidableEq

/-- What a writer finds. -/
inductive PutResult
  | full
  | closed
  | queued (q : Queue)

/-- What the reader finds. -/
inductive TakeResult
  | empty
  | ended
  | taken (s : Sighting) (q : Queue)

namespace Queue

/-- Puts a log at the end of a queue. -/
def put (q : Queue) (s : Sighting) : PutResult :=
  if !q.hasReader then .closed
  else if q.items.length < q.capacity then .queued { q with items := q.items ++ [s] }
  else .full

/-- Takes the oldest log from a queue. -/
def take (q : Queue) : TakeResult :=
  match q.items with
  | s :: items => .taken s { q with items }
  | [] => if q.writers = 0 then .ended else .empty

/-- The queue after a writer has left. -/
def leave (q : Queue) : Queue := { q with writers := q.writers - 1 }

/-- The queue after its reader has left, with what nobody will read. -/
def abandon (q : Queue) : Queue := { q with items := [], hasReader := false }

theorem items_of_put {q q' : Queue} {s : Sighting} (h : q.put s = .queued q') :
    q'.items = q.items ++ [s] ∧ q'.capacity = q.capacity := by
  simp only [put] at h
  split at h
  · simp at h
  · split at h
    · cases h
      simp
    · simp at h

theorem length_le_of_put {q q' : Queue} {s : Sighting} (h : q.put s = .queued q') :
    q'.items.length ≤ q'.capacity := by
  have hi := items_of_put h
  simp only [put] at h
  split at h
  · simp at h
  · split at h
    · rename_i hlt
      simp [hi.1, hi.2]
      omega
    · simp at h

theorem items_of_take {q q' : Queue} {s : Sighting} (h : q.take = .taken s q') :
    q.items = s :: q'.items ∧ q'.capacity = q.capacity := by
  simp only [take] at h
  split at h
  · rename_i hq
    cases h
    exact ⟨hq, rfl⟩
  · split at h <;> simp at h

end Queue

end CrossCall
