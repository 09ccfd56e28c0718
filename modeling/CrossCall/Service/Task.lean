import CrossCall.Node.Session
import CrossCall.Service.Queue

/-!
# Steps of tasks

The tasks of the service take turns. In a step a task does one thing that others can notice: it asks
a node, writes to a queue, reads from one, leaves a note, or ends.

## Main definitions

* `Happening` — what others can notice of a step
* `Outcome` — the result of a step
* `ask` — asks a node in a step
-/

namespace CrossCall.Service

/-- What others can notice of a step. -/
inductive Happening (χ : Type)
  | event (e : Event χ)
  | queued (s : Sighting)
  | handed (s : Sighting)
  | dropped (s : Sighting)

/-- A line of the journal. -/
def Happening.line {χ : Type} (level : Journal.Level) (target text : String) : Happening χ :=
  event (.note (.journal { level, target, text }))

/-- The task and what it uses after a step, the state of the nodes, and what happened. -/
structure Outcome (χ σ τ : Type) where
  task : τ
  nodes : σ
  happenings : List (Happening χ) := []

/-- Whether cancellation is noticed before what else there is to do (`now`) or after (`later`). -/
inductive Notice
  | now
  | later
deriving DecidableEq

/-- Asks a node. A task that breaks down goes to `broken`. -/
def ask {χ σ τ : Type} (env : Environment χ σ) (nodes : σ) (node : χ) (request : Request)
    (broken : τ) (next : Except ClientError request.Answer → τ × List (Happening χ)) :
    Outcome χ σ τ :=
  let (answer, nodes') := env.answer nodes node request
  let asked : Happening χ := .event (.exchange ⟨node, request, answer⟩)
  if env.breaks nodes' then { task := broken, nodes := nodes', happenings := [asked] }
  else
    let (task, happenings) := next answer
    { task, nodes := nodes', happenings := asked :: happenings }

end CrossCall.Service
