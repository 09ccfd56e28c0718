import CrossCall.CommandLine.Invocation
import CrossCall.Job.Run
import CrossCall.Journal.Filter

/-!
# What is seen of a job

## Main definitions

* `Job.Report` — how a job ended, and the notes it left
* `Invocation.execute` — carries out what a command line asks for
* `Invocation.sinks` — where the journal of a command goes
-/

namespace CrossCall

/-- How a job ended, and the notes it left. A service that it started is still to be run. -/
structure Job.Report where
  result : Except JobError (Option (Service NodeClient))
  notes : List Note

namespace Job.Report

/-- Why the job failed. -/
def error? (r : Report) : Option JobError :=
  match r.result with
  | .ok _ => none
  | .error e => some e

/-- The exit status. -/
def exitCode (r : Report) : Nat := if r.error?.isSome then 1 else 0

/-- What is printed, every text on lines of its own. -/
def printed (r : Report) : String :=
  String.join (r.notes.filterMap fun n => match n with
    | .print text => some (text ++ "\n")
    | _ => none)

/-- The lines of the journal that some directives keep. -/
def lines (r : Report) (ds : List Journal.Directive) : List Journal.Line :=
  r.notes.filterMap fun n => match n with
    | .journal line => if Journal.keeps ds line then some line else none
    | _ => none

end Job.Report

namespace Invocation

/-- Where the journal of a command goes. -/
def sinks (i : Invocation) : Journal.Sinks :=
  (Journal.Sinks.ofSettings i.journal).forCommand i.job.command.name

/-- Loads the configuration and performs the job. -/
def execute {σ : Type} (i : Invocation) (contents : Except FileError Bytes)
    (env : Environment NodeClient σ) (nodes : σ) : Job.Report × σ :=
  let session : ExceptT JobError (Session NodeClient) (Option (Service NodeClient)) := do
    let c ← Job.load i.config contents
    Job.perform c i.job
  let (result, nodes, events) := session.run.run env nodes
  ({ result, notes := notes events }, nodes)

end Invocation

end CrossCall
