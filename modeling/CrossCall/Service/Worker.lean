import CrossCall.Fulfillment.Relayer
import CrossCall.Service.Task

/-!
# Workers

A worker takes logs from a queue and hands them to the relayer, one after the other. A cancellation
is noticed between two logs only.

## Main definitions

* `Worker` — a worker at work
* `Worker.step` — its next step
-/

namespace CrossCall.Service

/-- How far a worker has come. -/
inductive Worker (χ : Type)
  | waiting
  | handling (s : Sighting) (rest : Session χ (Except FulfillmentError Submission))
  | ended
  | broken

namespace Worker

variable {χ σ : Type}

/-- Whether a worker has ended, in whatever way. -/
def isFinished : Worker χ → Bool
  | ended | broken => true
  | _ => false

/-- Whether a worker has broken down. -/
def isBroken : Worker χ → Bool
  | broken => true
  | _ => false

/-- Takes the next log, if there is one, or ends when there will be none. -/
def fetch (relayer : Relayer χ) (q : Queue) (nodes : σ) : Option (Outcome χ σ (Worker χ × Queue)) :=
  match q.take with
  | .empty => none
  | .ended =>
    some
      { task := (ended, q.abandon), nodes
        happenings :=
          [.line .info "filler::fulfillment"
            "Fulfillment queue closed, stopping FulfillmentActor"] }
  | .taken s q' =>
    some
      { task := (handling s (relayer.handle s.chain s.log), q'), nodes, happenings := [.handed s] }

/-- Goes on with a log. -/
def advance (env : Environment χ σ) (cancelled : Bool) (s : Sighting) (q : Queue) (nodes : σ) :
    Session χ (Except FulfillmentError Submission) → Outcome χ σ (Worker χ × Queue)
  | .done (.ok _) =>
    { task := (waiting, q), nodes
      happenings := [.line .debug "filler::fulfillment" "Message fulfilled"] }
  | .done (.error _) => { task := (waiting, q), nodes }
  | .ask node request next =>
    ask env nodes node request (broken, q.abandon) fun answer =>
      ((handling s (next answer), q), [])
  | .cancelled next => { task := (handling s (next cancelled), q), nodes }
  | .note n next => { task := (handling s next, q), nodes, happenings := [.event (.note n)] }

/-- The next step of a worker that reads from a queue, if it does not have to wait. -/
def step (env : Environment χ σ) (relayer : Relayer χ) (cancelled : Bool) (notice : Notice)
    (w : Worker χ) (q : Queue) (nodes : σ) : Option (Outcome χ σ (Worker χ × Queue)) :=
  match w with
  | waiting =>
    match if cancelled ∧ notice = .now then none else fetch relayer q nodes with
    | some outcome => some outcome
    | none =>
      if cancelled then
        some
          { task := (ended, q.abandon), nodes
            happenings :=
              [.line .info "filler::fulfillment"
                "FulfillmentActor cancellation requested, stopping..."] }
      else none
  | handling s rest => some (advance env cancelled s q nodes rest)
  | ended | broken => none

end Worker

end CrossCall.Service
