import CrossCall.Service.Supervisor

/-!
# A schedule

A run in which always the first of the possible actions is taken, and time passes only when there is
no other.

## Main definitions

* `Schedule` — which tasks take turns, until when, and what happens from outside
* `Schedule.next` — the action taken next
* `Schedule.drive` — takes actions until there is none
* `Schedule.stop` — stops the service and waits for its tasks
-/

namespace CrossCall.Service

/-- Which tasks take turns, whether the supervisor does, until when time may pass, and what happens
from outside after every action. -/
structure Schedule (χ σ : Type) where
  env : Environment χ σ
  tasks : List TaskId
  supervised : Bool
  limit : Nat
  outside : Service χ → σ → Service χ × σ := fun s nodes =>
    (if env.cancelled nodes then s.cancelAll else s, nodes)

/-- A service, its nodes, and what has happened, latest first. -/
structure Run (χ σ : Type) where
  service : Service χ
  nodes : σ
  happenings : List (Happening χ) := []

/-- The notes that have been left. -/
def Run.notes {χ σ : Type} (r : Run χ σ) : List Note :=
  r.happenings.reverse.filterMap fun h => match h with
    | .event e => e.note?
    | _ => none

namespace Schedule

variable {χ σ : Type}

/-- The actions to try, in order. -/
def candidates (sch : Schedule χ σ) (s : Service χ) : List Action :=
  sch.tasks.map (Action.step · .now) ++
    (if sch.supervised then sch.tasks.map Action.join ++ [.finish] else []) ++
    match s.system.nextDue? with
    | some due => if due ≤ sch.limit then [.elapse (due - s.system.now)] else []
    | none => []

/-- Whether the supervisor has returned. -/
def isOver (sch : Schedule χ σ) (s : Service χ) : Bool := sch.supervised && !s.isWaiting

/-- The run after its next action, if there is one. -/
def next (sch : Schedule χ σ) (r : Run χ σ) : Option (Run χ σ) :=
  if sch.isOver r.service then none
  else
    ((sch.candidates r.service).findSome? fun a => r.service.act sch.env a r.nodes).map fun o =>
      let (service, nodes) := sch.outside o.task o.nodes
      { service, nodes, happenings := o.happenings.reverse ++ r.happenings }

/-- Takes up to `count` actions. -/
def drive (sch : Schedule χ σ) : (count : Nat) → Run χ σ → Run χ σ
  | 0, r => r
  | count + 1, r =>
    match sch.next r with
    | none => r
    | some r' => drive sch count r'

/-- Stops the service and waits for its tasks for up to `count` actions. -/
def stop (sch : Schedule χ σ) (count : Nat) (r : Run χ σ) : Run χ σ :=
  match r.service.act sch.env .stop r.nodes with
  | some o =>
    sch.drive count
      { service := o.task, nodes := o.nodes, happenings := o.happenings.reverse ++ r.happenings }
  | none => r

end Schedule

end CrossCall.Service
