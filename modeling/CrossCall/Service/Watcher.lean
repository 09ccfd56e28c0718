import CrossCall.Message.Posted
import CrossCall.Service.Task

/-!
# Watchers

A watcher installs a filter for the logs of an outbox, polls it at intervals, and puts the logs into
the queue of the service. However it ends, a filter that was installed is uninstalled last.

## Main definitions

* `Watch` — what is watched, and how often
* `Watcher` — a watcher at work
* `Watcher.step` — its next step
* `WatchError` — why a watcher ended early
-/

namespace CrossCall.Service

/-- Why a watcher ended early. -/
inductive WatchError
  | installFilter (chain : ChainId) (cause : ClientError)
  | pollFilter (chain : ChainId) (cause : ClientError)
deriving DecidableEq

/-- The text of an error. -/
def WatchError.message : WatchError → String
  | installFilter chain cause =>
    s!"failed to install log filter on chain {chain.toNat}: {cause.message}"
  | pollFilter chain cause => s!"failed to poll log filter on chain {chain.toNat}: {cause.message}"

/-- An outbox that is watched, and the milliseconds between two polls. -/
structure Watch (χ : Type) where
  id : Nat := 0
  chain : ChainId
  outbox : Address
  node : χ
  period : Nat

namespace Watch

variable {χ : Type}

/-- The filter for the messages posted to the outbox. -/
def filter (w : Watch χ) : LogFilter :=
  { addresses := [w.outbox], topics := [[PostedMessage.event.signature], [], [], []] }

/-- A log as this watcher saw it. -/
def sighting (w : Watch χ) (log : Log) : Sighting := { watcher := w.id, chain := w.chain, log }

/-- When the poll after one that was due at `due` and is made at `now` is due. A poll that is more
than five milliseconds late delays those after it. -/
def nextDue (w : Watch χ) (now due : Nat) : Nat :=
  if due + 5 < now then now + w.period else due + w.period

end Watch

/-- How far a watcher has come. -/
inductive WatchPhase
  | installing
  | waiting (filter : Word) (due : Nat)
  | forwarding (filter : Word) (due : Nat) (logs : List Log)
  | uninstalling (filter : Word) (result : Except WatchError Unit)
  | ended (result : Except WatchError Unit)
  | broken

/-- A watcher at work. -/
structure Watcher (χ : Type) where
  watch : Watch χ
  phase : WatchPhase := .installing

namespace Watcher

variable {χ σ : Type}

/-- Whether a watcher has ended, in whatever way. -/
def isFinished (w : Watcher χ) : Bool :=
  match w.phase with
  | .ended _ | .broken => true
  | _ => false

/-- Whether a watcher has broken down. -/
def isBroken (w : Watcher χ) : Bool :=
  match w.phase with
  | .broken => true
  | _ => false

/-- The time that a watcher waits for. -/
def due? (w : Watcher χ) : Option Nat :=
  match w.phase with
  | .waiting _ due => some due
  | _ => none

/-- The watcher in another phase, and a queue. -/
def moved (w : Watcher χ) (phase : WatchPhase) (q : Queue) : Watcher χ × Queue :=
  ({ w with phase }, q)

/-- The watcher at its end, which leaves the queue. -/
def left (w : Watcher χ) (phase : WatchPhase) (q : Queue) : Watcher χ × Queue :=
  w.moved phase q.leave

/-- Installs the filter. Polling at no interval is not possible. -/
def install (env : Environment χ σ) (now : Nat) (w : Watcher χ) (q : Queue) (nodes : σ) :
    Outcome χ σ (Watcher χ × Queue) :=
  ask env nodes w.watch.node (.newFilter w.watch.filter) (w.left .broken q) fun
    | .ok filter =>
      if w.watch.period = 0 then (w.left .broken q, []) else (w.moved (.waiting filter now) q, [])
    | .error e =>
      (w.left (.ended (.error (.installFilter w.watch.chain e))) q,
        [.line .error "filler::service" "Outbox forwarder stopped"])

/-- Polls the filter. -/
def poll (env : Environment χ σ) (now : Nat) (filter : Word) (due : Nat) (w : Watcher χ) (q : Queue)
    (nodes : σ) : Outcome χ σ (Watcher χ × Queue) :=
  ask env nodes w.watch.node (.filterChanges filter) (w.left .broken q) fun
    | .ok logs => (w.moved (.forwarding filter (w.watch.nextDue now due) logs) q, [])
    | .error e => (w.moved (.uninstalling filter (.error (.pollFilter w.watch.chain e))) q, [])

/-- Uninstalls the filter, which does not change how the watcher ends. -/
def uninstall (env : Environment χ σ) (filter : Word) (result : Except WatchError Unit)
    (w : Watcher χ) (q : Queue) (nodes : σ) : Outcome χ σ (Watcher χ × Queue) :=
  ask env nodes w.watch.node (.uninstallFilter filter) (w.left .broken q) fun answer =>
    let failed : List (Happening χ) :=
      match answer with
      | .ok _ => []
      | .error _ => [.line .error "filler::forwarder" "Failed to uninstall log filter"]
    let stopped : List (Happening χ) :=
      match result with
      | .ok () => []
      | .error _ => [.line .error "filler::service" "Outbox forwarder stopped"]
    (w.left (.ended result) q, failed ++ stopped)

/-- The line about a log that is about to be put into the queue. -/
def announced : Happening χ := .line .debug "filler::forwarder" "Forwarding MessagePosted log"

/-- Puts a log into the queue, if there is room. -/
def forward (filter : Word) (due : Nat) (log : Log) (logs : List Log) (w : Watcher χ) (q : Queue)
    (nodes : σ) : Option (Outcome χ σ (Watcher χ × Queue)) :=
  match q.put (w.watch.sighting log) with
  | .full => none
  | .closed =>
    some
      { task := w.moved (.uninstalling filter (.ok ())) q, nodes
        happenings :=
          [announced,
           .line .warn "filler::forwarder" "Fulfillment queue closed, stopping forwarder"] }
  | .queued q' =>
    some
      { task := w.moved (.forwarding filter due logs) q', nodes
        happenings :=
          [announced, .queued (w.watch.sighting log),
           .event (.note (.measure (.forwarded w.watch.chain) 1))] }

/-- The next step of a watcher that writes to a queue, if it does not have to wait. -/
def step (env : Environment χ σ) (now : Nat) (cancelled : Bool) (notice : Notice) (w : Watcher χ)
    (q : Queue) (nodes : σ) : Option (Outcome χ σ (Watcher χ × Queue)) :=
  match w.phase with
  | .installing => some (w.install env now q nodes)
  | .waiting filter due =>
    if now < due ∨ cancelled ∧ notice = .now then
      if cancelled then
        some
          { task := w.moved (.uninstalling filter (.ok ())) q, nodes
            happenings :=
              [.line .info "filler::forwarder"
                "OutboxForwarder cancellation requested, stopping..."] }
      else none
    else some (w.poll env now filter due q nodes)
  | .forwarding filter due [] => some { task := w.moved (.waiting filter due) q, nodes }
  | .forwarding filter due (log :: logs) =>
    match if cancelled ∧ notice = .now then none else w.forward filter due log logs q nodes with
    | some outcome => some outcome
    | none =>
      if cancelled then
        some { task := w.moved (.uninstalling filter (.ok ())) q, nodes, happenings := [announced] }
      else none
  | .uninstalling filter result => some (w.uninstall env filter result q nodes)
  | .ended _ | .broken => none

end Watcher

end CrossCall.Service
