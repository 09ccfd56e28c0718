import CrossCall.CommandLine.Reader

/-!
# What a command line asks for

## Main definitions

* `Job` — a command with its arguments
* `Invocation` — a job with the settings of journal and metrics
* `Invocation.parse` — reads a command line and its environment
-/

namespace CrossCall

/-- What is to be proved: that a message was fulfilled, and to whom the reward is due. -/
structure ProofRequest where
  messageId : Word
  destination : ChainId
  l1Block : Option (BitVec 64) := none
  source : Option ChainId := none
  sourceFromBlock : BitVec 64 := 0
deriving DecidableEq

/-- A command with its arguments. -/
inductive Job
  | run (topology : Option Topology)
  | prove (request : ProofRequest)
  | sendTest (chain : ChainId)
deriving DecidableEq

/-- The command of a job. -/
def Job.command : Job → Command
  | run _ => .run
  | prove _ => .prove
  | sendTest _ => .sendTest

/-- A job, the configuration it works with, and the settings of journal and metrics. -/
structure Invocation where
  config : String
  job : Job
  journal : Journal.Settings := {}
  metrics : MetricsSettings := {}
deriving DecidableEq

namespace CommandLine

/-- The value of a setting that has to be given. -/
def required (given : Settings) (s : Setting) : Except Refusal s.Value :=
  match Settings.get? given s with
  | some v => .ok v
  | none => .error .missingSetting

/-- The job that a command's settings describe. -/
def readJob (given : Settings) : Command → Except Refusal Job
  | .run => .ok (.run (Settings.get? given .topology))
  | .prove => do
    let messageId ← required given .messageId
    let destination ← required given .destinationChain
    return .prove
      { messageId, destination, l1Block := Settings.get? given .l1Block
        source := Settings.get? given .sourceChain
        sourceFromBlock := Settings.getD given .sourceFromBlock 0 }
  | .sendTest => do
    let chain ← required given .chain
    return .sendTest chain

/-- The journal's settings. -/
def journalSettings (given : Settings) : Journal.Settings :=
  { verbosity := Settings.getD given .verbosity 3
    quiet := Settings.getD given .quiet false
    format := Settings.getD given .format .full
    directory := Settings.get? given .directory
    fileFormat := Settings.getD given .fileFormat .full
    rotation := Settings.getD given .rotation .daily }

/-- The settings of the metrics. -/
def metricsSettings (given : Settings) : MetricsSettings :=
  { enabled := Settings.getD given .metrics false
    interval := Settings.getD given .interval 30
    port := Settings.getD given .port 9090
    address := Settings.getD given .address (.v4 0) }

end CommandLine

open CommandLine in
/-- Reads a command line. A setting after the command comes before one in front of it, and that
before the environment. -/
def Invocation.parse (environment : List (String × String)) (arguments : List String) :
    Except Refusal Invocation := do
  match ← scan { command := none } {} arguments with
  | .finished p =>
    let given ← settle p
    let all ← fromEnvironment environment given Setting.shared
    throw (if all.isEmpty then .nothingAsked else .missingCommand)
  | .command c p rest =>
    let (after, own) ← readCommand environment c rest
    let config ← required own .config
    let job ← readJob own c
    let before ← settle p
    let all ← fromEnvironment environment before Setting.shared
    let effective := after ++ all
    return { config, job, journal := journalSettings effective
             metrics := metricsSettings effective }

end CrossCall
