import CrossCall.Job.Transfer
import CrossCall.Service.Schedule

/-!
# Running a job

## Main definitions

* `Job.startService` — connects to all configured chains and starts the service
* `Job.perform` — what a job does until its service runs
* `Job.serve` — runs the service to its end
* `Job.load` — loads the configuration of a job
-/

namespace CrossCall.Job

/-- Connects to all configured chains and starts the service. -/
def startService (c : Configuration) (topology : Option Topology) :
    ExceptT JobError (Session NodeClient) (Service NodeClient) := do
  let settings := { c.fulfillment with topology := topology.getD c.fulfillment.topology }
  let registry ← (Registry.connect c.endpoints).adapt JobError.connections
  let account ← liftM (c.wallet.verifiedAccount.mapError JobError.wallet)
  let service ← liftM ((Service.start settings { registry, account }).mapError JobError.start)
  ExceptT.lift ((Service.startNotes service.system).forM Session.leave)
  return service

/-- What a job does: a service that it starts is still to be run. -/
def perform (c : Configuration) :
    Job → ExceptT JobError (Session NodeClient) (Option (Service NodeClient))
  | .run topology => some <$> startService c topology
  | .prove request => do
    proveFulfillment c request
    return none
  | .sendTest chain => do
    sendTransfer c chain
    return none

/-- Runs a service for up to `count` actions until its tasks have ended, then stops it. -/
def serve {σ : Type} (env : Environment NodeClient σ) (count limit : Nat)
    (r : Service.Run NodeClient σ) : Service.Run NodeClient σ :=
  let schedule : Service.Schedule NodeClient σ :=
    { env, tasks := r.service.system.taskIds, supervised := true, limit }
  schedule.stop count (schedule.drive count r)

/-- Loads the configuration of a job and leaves a line about it. -/
def load (path : String) (contents : Except FileError Bytes) :
    ExceptT JobError (Session NodeClient) Configuration := do
  let c ← liftM ((Configuration.load path contents).mapError (JobError.config path))
  Session.report .info "filler::cli" "Loaded configuration"
  return c

end CrossCall.Job
