import CrossCall.Service.Router
import CrossCall.Service.Watcher

/-!
# The tasks of the service

A watcher for every outbox writes to the shared queue. In the single topology one worker reads from
it; with a lane for every destination the router does, and a worker reads from each lane. In every
step one task moves, and which one is left open.

## Main definitions

* `Consumers` — who reads from the shared queue
* `System` — all tasks with their queues
* `TaskId` — names the tasks
* `System.step` — a step of one task
-/

namespace CrossCall.Service

/-- Who reads from the shared queue. -/
inductive Consumers (χ : Type)
  | single (worker : Worker χ)
  | perDestination (router : Router) (lanes : List (Lane χ))

/-- The lanes of the consumers, none if they share one queue. -/
def Consumers.lanes {χ : Type} : Consumers χ → List (Lane χ)
  | single _ => []
  | perDestination _ lanes => lanes

/-- All tasks with their queues, at a time in milliseconds. -/
structure System (χ : Type) where
  relayer : Relayer χ
  now : Nat := 0
  cancelled : Bool := false
  shared : Queue
  watchers : List (Watcher χ) := []
  consumers : Consumers χ

/-- The name of a task: watchers and lanes are numbered. -/
inductive TaskId
  | watcher (i : Nat)
  | router
  | worker
  | laneWorker (i : Nat)
deriving DecidableEq

namespace System

variable {χ σ : Type}

/-- The names of the tasks. -/
def taskIds (s : System χ) : List TaskId :=
  (List.range s.watchers.length).map .watcher ++
    match s.consumers with
    | .single _ => [.worker]
    | .perDestination _ lanes => .router :: (List.range lanes.length).map .laneWorker

/-- A step of a watcher. -/
def stepWatcher (env : Environment χ σ) (notice : Notice) (i : Nat) (s : System χ) (nodes : σ) :
    Option (Outcome χ σ (System χ)) := do
  let w ← s.watchers[i]?
  let o ← w.step env s.now s.cancelled notice s.shared nodes
  return { task := { s with watchers := s.watchers.set i o.task.1, shared := o.task.2 }
           nodes := o.nodes, happenings := o.happenings }

/-- A step of the router. -/
def stepRouter (notice : Notice) (s : System χ) (nodes : σ) : Option (Outcome χ σ (System χ)) :=
  match s.consumers with
  | .single _ => none
  | .perDestination router lanes => do
    let o ← router.step s.cancelled notice { shared := s.shared, lanes } nodes
    return { task := { s with consumers := .perDestination o.task.1 o.task.2.lanes
                              shared := o.task.2.shared }
             nodes := o.nodes, happenings := o.happenings }

/-- A step of the only worker. -/
def stepWorker (env : Environment χ σ) (notice : Notice) (s : System χ) (nodes : σ) :
    Option (Outcome χ σ (System χ)) :=
  match s.consumers with
  | .perDestination _ _ => none
  | .single worker => do
    let o ← worker.step env s.relayer s.cancelled notice s.shared nodes
    return { task := { s with consumers := .single o.task.1, shared := o.task.2 }
             nodes := o.nodes, happenings := o.happenings }

/-- A step of the worker of a lane. -/
def stepLane (env : Environment χ σ) (notice : Notice) (i : Nat) (s : System χ) (nodes : σ) :
    Option (Outcome χ σ (System χ)) :=
  match s.consumers with
  | .single _ => none
  | .perDestination router lanes => do
    let lane ← lanes[i]?
    let o ← lane.worker.step env s.relayer s.cancelled notice lane.queue nodes
    let lane' := { lane with worker := o.task.1, queue := o.task.2 }
    return { task := { s with consumers := .perDestination router (lanes.set i lane') }
             nodes := o.nodes, happenings := o.happenings }

/-- A step of a task, if it does not have to wait. -/
def step (env : Environment χ σ) (notice : Notice) (t : TaskId) (s : System χ) (nodes : σ) :
    Option (Outcome χ σ (System χ)) :=
  match t with
  | .watcher i => s.stepWatcher env notice i nodes
  | .router => s.stepRouter notice nodes
  | .worker => s.stepWorker env notice nodes
  | .laneWorker i => s.stepLane env notice i nodes

/-- Whether a task has ended, in whatever way. -/
def isFinished (s : System χ) (t : TaskId) : Bool :=
  match t, s.consumers with
  | .watcher i, _ => s.watchers[i]?.any Watcher.isFinished
  | .router, .perDestination router _ => router.isFinished
  | .worker, .single worker => worker.isFinished
  | .laneWorker i, .perDestination _ lanes => lanes[i]?.any fun l => l.worker.isFinished
  | _, _ => false

/-- Whether a task has broken down. -/
def isBroken (s : System χ) (t : TaskId) : Bool :=
  match t, s.consumers with
  | .watcher i, _ => s.watchers[i]?.any Watcher.isBroken
  | .worker, .single worker => worker.isBroken
  | .laneWorker i, .perDestination _ lanes => lanes[i]?.any fun l => l.worker.isBroken
  | _, _ => false

/-- The next time that a watcher waits for. -/
def nextDue? (s : System χ) : Option Nat :=
  ((s.watchers.filterMap Watcher.due?).filter fun due => s.now < due).min?

end System

end CrossCall.Service
