import CrossCall.Message.Posted
import CrossCall.Service.Worker

/-!
# The router

The router takes logs from the shared queue and puts each into the queue of its destination. It
waits while that queue is full, whatever else is in the shared queue.

## Main definitions

* `Lane` — a destination with its queue and its worker
* `Router` — the router at work
* `Router.step` — its next step
-/

namespace CrossCall.Service

/-- A destination with its queue and its worker. -/
structure Lane (χ : Type) where
  destination : ChainId
  queue : Queue
  worker : Worker χ := .waiting

/-- How far the router has come. -/
inductive Router
  | waiting
  | routing (destination : ChainId) (s : Sighting)
  | ended
deriving DecidableEq

/-- What the router works with: the shared queue and the lanes. -/
structure Routes (χ : Type) where
  shared : Queue
  lanes : List (Lane χ)

namespace Routes

variable {χ : Type}

/-- The queue of a destination. -/
def queue? (r : Routes χ) (destination : ChainId) : Option Queue :=
  (r.lanes.find? fun l => l.destination = destination).map (·.queue)

/-- The routes with another queue for a destination. -/
def setQueue (r : Routes χ) (destination : ChainId) (q : Queue) : Routes χ :=
  { r with
    lanes := r.lanes.map fun l => if l.destination = destination then { l with queue := q } else l }

/-- The routes after the router has left: nobody reads the shared queue or writes to the lanes. -/
def leave (r : Routes χ) : Routes χ :=
  { shared := r.shared.abandon
    lanes := r.lanes.map fun l => { l with queue := l.queue.leave } }

end Routes

namespace Router

variable {χ σ : Type}

/-- Whether the router has ended. -/
def isFinished : Router → Bool
  | ended => true
  | _ => false

/-- A line of the router. -/
def line (level : Journal.Level) (text : String) : Happening χ :=
  .line level "filler::dispatcher" text

/-- Decides where a log goes. One that cannot be read, or whose destination has no lane, is
dropped. -/
def sort (r : Routes χ) (s : Sighting) : Router × List (Happening χ) :=
  match PostedMessage.decodeLog s.log with
  | .error _ => (waiting, [.dropped s, line .warn "Dropping undecodable log"])
  | .ok m =>
    match r.queue? m.destinationId with
    | none => (waiting, [.dropped s, line .warn "Dropping message for unconfigured destination"])
    | some _ => (routing m.destinationId s, [line .trace "Routing message"])

/-- Takes the next log, if there is one, or ends when there will be none. -/
def fetch (r : Routes χ) (nodes : σ) : Option (Outcome χ σ (Router × Routes χ)) :=
  match r.shared.take with
  | .empty => none
  | .ended =>
    some
      { task := (ended, r.leave), nodes
        happenings := [line .info "Shared queue closed, stopping Dispatcher"] }
  | .taken s shared =>
    let (router, happenings) := sort r s
    some { task := (router, { r with shared }), nodes, happenings }

/-- Puts a log into the queue of its destination, if there is room. -/
def deliver (r : Routes χ) (destination : ChainId) (s : Sighting) (nodes : σ) :
    Option (Outcome χ σ (Router × Routes χ)) :=
  let closed : Outcome χ σ (Router × Routes χ) :=
    { task := (waiting, r), nodes
      happenings := [.dropped s, line .warn "Destination queue closed, dropping message"] }
  match r.queue? destination with
  | none => some closed
  | some q =>
    match q.put s with
    | .closed => some closed
    | .full => none
    | .queued q' =>
      some { task := (waiting, r.setQueue destination q'), nodes, happenings := [.queued s] }

/-- The next step of the router, if it does not have to wait. -/
def step (cancelled : Bool) (notice : Notice) (router : Router) (r : Routes χ) (nodes : σ) :
    Option (Outcome χ σ (Router × Routes χ)) :=
  match router with
  | waiting =>
    match if cancelled ∧ notice = .now then none else fetch r nodes with
    | some outcome => some outcome
    | none =>
      if cancelled then
        some
          { task := (ended, r.leave), nodes
            happenings := [line .info "Dispatcher cancellation requested, stopping..."] }
      else none
  | routing destination s =>
    match if cancelled ∧ notice = .now then none else deliver r destination s nodes with
    | some outcome => some outcome
    | none =>
      if cancelled then some { task := (waiting, r), nodes, happenings := [.dropped s] } else none
  | ended => none

end Router

end CrossCall.Service
