import CrossCall.Config.Settings
import CrossCall.Service.System

/-!
# The service

The service starts its tasks and waits for them. It learns of the end of a task when it joins it. A
task that has broken down makes it cancel all others; a watcher that failed ends alone.

## Main definitions

* `Service` — the tasks under their supervisor
* `Service.start` — starts the tasks for the chains of a relayer
* `Service.act` — what the supervisor can do, and the steps of the tasks under it
* `StartError` — why a service does not start
-/

namespace CrossCall.Service

/-- Why a service does not start. -/
inductive StartError
  | zeroQueueCapacity
  | queueTooLarge
deriving DecidableEq

/-- The text of an error. -/
def StartError.message : StartError → String
  | zeroQueueCapacity => "fulfillment queue capacity must be positive"
  | queueTooLarge => "fulfillment queue capacity is out of range"

/-- The largest capacity that a queue can have. -/
def maxCapacity : Nat := 0x1fffffffffffffff

/-- Where the supervisor stands: it waits for the tasks, has returned, waits for them after
cancelling them, or has stopped. -/
inductive Stage
  | running
  | returned (failed : Bool)
  | stopping
  | stopped
deriving DecidableEq

end Service

open Service

/-- The tasks under their supervisor, which has joined some of them. -/
structure Service (χ : Type) where
  system : System χ
  joined : List TaskId := []
  stage : Service.Stage := .running

namespace Service

variable {χ σ : Type}

/-- The watches on the outboxes of some chains, with the numbers from `first` on. -/
def watches (period : Nat) (first : Nat) : List (ChainId × Address × χ) → List (Watch χ)
  | [] => []
  | (chain, outbox, node) :: rest =>
    { id := first, chain, outbox, node, period } :: watches period (first + 1) rest

/-- The outboxes of the registered chains. -/
def outboxes (registry : Registry χ) : List (ChainId × Address × χ) :=
  registry.chains.flatMap fun c =>
    c.endpoint.outboxes.map fun o => (c.endpoint.chainId, o.2, c.client)

/-- The consumers of a topology. -/
def consumers (topology : Topology) (capacity : Nat) (chains : List ChainId) : Consumers χ :=
  match topology with
  | .single => .single .waiting
  | .perDestination =>
    .perDestination .waiting
      (chains.map fun destination => { destination, queue := { capacity, writers := 1 } })

/-- Lines and series of a service that has started. -/
def startNotes (s : System χ) : List Note :=
  let line (target text : String) : Note := .journal { level := .info, target, text }
  (Series.initial s.relayer.registry.ids).map (Note.measure · 0) ++
    s.watchers.map (fun _ => line "filler::service" "Watching outbox") ++
    [line "filler::service" "Filler service initialised"] ++
    s.watchers.map (fun _ => line "filler::forwarder" "Starting OutboxForwarder") ++
    match s.consumers with
    | .single _ => [line "filler::fulfillment" "Starting FulfillmentActor"]
    | .perDestination _ lanes =>
      lanes.map (fun _ => line "filler::fulfillment" "Starting FulfillmentActor") ++
        [line "filler::dispatcher" "Starting Dispatcher"]

/-- Starts a watcher for every outbox and the consumers of the topology. -/
def start (settings : FulfillmentSettings) (relayer : Relayer χ) : Except StartError (Service χ) :=
  let capacity := settings.queueCapacity.toNat
  if capacity = 0 then .error .zeroQueueCapacity
  else if maxCapacity < capacity then .error .queueTooLarge
  else
    let watchers :=
      (watches settings.pollInterval.toNat 0 (outboxes relayer.registry)).map fun w =>
        ({ watch := w } : Watcher χ)
    .ok
      { system :=
          { relayer, watchers, shared := { capacity, writers := watchers.length }
            consumers := consumers settings.topology capacity relayer.registry.ids } }

/-- What can happen in the service. -/
inductive Action
  | step (task : TaskId) (notice : Notice)
  | elapse (milliseconds : Nat)
  | cancel
  | join (task : TaskId)
  | finish
  | stop
deriving DecidableEq

/-- The service with its supervisor somewhere else. -/
def moveTo (s : Service χ) (stage : Stage) : Service χ := { s with stage }

/-- The service after it has been cancelled. -/
def cancelAll (s : Service χ) : Service χ :=
  { s with system := { s.system with cancelled := true } }

/-- Joins a task that has ended. One that has broken down ends the running of the service. -/
def join (s : Service χ) (t : TaskId) : Service χ × List (Happening χ) :=
  let joined := { s with joined := t :: s.joined }
  let line (level : Journal.Level) (text : String) : Happening χ :=
    .line level "filler::service" text
  match s.stage, s.system.isBroken t with
  | .running, true => (joined.cancelAll.moveTo (.returned true), [line .error "A task panicked."])
  | .running, false => (joined, [line .info "Task completed successfully."])
  | _, true => (joined, [line .error "A task encountered an error during shutdown."])
  | _, false => (joined, [line .info "Task completed successfully during shutdown."])

/-- Whether all tasks have been joined. -/
def allJoined (s : Service χ) : Bool := s.system.taskIds.all fun t => s.joined.contains t

/-- Whether the supervisor waits for tasks. -/
def isWaiting (s : Service χ) : Bool :=
  match s.stage with
  | .running | .stopping => true
  | _ => false

/-- What the service is after an action, if the action is possible. -/
def act (env : Environment χ σ) (a : Action) (s : Service χ) (nodes : σ) :
    Option (Outcome χ σ (Service χ)) :=
  match a with
  | .step t notice =>
    (s.system.step env notice t nodes).map fun o =>
      { task := { s with system := o.task }, nodes := o.nodes, happenings := o.happenings }
  | .elapse ms =>
    some { task := { s with system := { s.system with now := s.system.now + ms } }, nodes }
  | .cancel => some { task := s.cancelAll, nodes }
  | .join t =>
    if s.isWaiting ∧ t ∈ s.system.taskIds ∧ t ∉ s.joined ∧ s.system.isFinished t then
      let (task, happenings) := s.join t
      some { task, nodes, happenings }
    else none
  | .finish =>
    if s.allJoined then
      match s.stage with
      | .running =>
        some
          { task := s.moveTo (.returned false), nodes
            happenings := [.line .warn "filler::service" "All tasks finished"] }
      | .stopping => some { task := s.moveTo .stopped, nodes }
      | _ => none
    else none
  | .stop =>
    match s.stage with
    | .running | .returned _ => some { task := s.cancelAll.moveTo .stopping, nodes }
    | _ => none

end Service

end CrossCall
