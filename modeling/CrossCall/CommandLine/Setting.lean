import CrossCall.Config.Settings
import CrossCall.Journal.Settings
import CrossCall.Metrics.Settings

/-!
# The settings of a command line

A setting is given on the command line by a long or a short name, or in the environment by a
variable. Some settings belong to one command, others can stand before and after any command.

## Main definitions

* `Command` — the commands
* `Setting` — the settings, `Setting.Value` the types of their values
* `Setting.read` — reads the value of a setting
* `Refusal` — why a command line starts nothing
-/

namespace CrossCall

/-- What the program can do. -/
inductive Command
  | run
  | prove
  | sendTest
deriving DecidableEq

namespace Command

/-- The words for the commands. -/
def words : List (String × Command) :=
  [("run", run), ("r", run), ("prove", prove), ("p", prove), ("send-test", sendTest)]

/-- The name of a command. -/
def name : Command → String
  | run => "run"
  | prove => "prove"
  | sendTest => "send-test"

end Command

/-- Why a command line starts nothing: it asks for a text about the program, or it is wrong. -/
inductive Refusal
  | help
  | version
  | nothingAsked
  | missingCommand
  | unknownCommand
  | missingSetting
  | missingValue
  | wrongWord
  | wrongValue
  | unknownArgument
  | repeatedSetting
  | needlessValue
deriving DecidableEq

/-- The exit status. Asking for a text is no mistake. -/
def Refusal.exitCode : Refusal → Nat
  | help | version => 0
  | _ => 2

/-- What can be set. -/
inductive Setting
  | config
  | topology
  | messageId
  | destinationChain
  | l1Block
  | sourceChain
  | sourceFromBlock
  | chain
  | verbosity
  | quiet
  | format
  | directory
  | fileFormat
  | rotation
  | metrics
  | interval
  | port
  | address
deriving DecidableEq

namespace Setting

/-- The type of a setting's values. -/
@[reducible] def Value : Setting → Type
  | config | directory => String
  | topology => Topology
  | messageId => Word
  | destinationChain | l1Block | sourceChain | sourceFromBlock | chain | interval => BitVec 64
  | verbosity => BitVec 8
  | quiet | metrics => Bool
  | format | fileFormat => Journal.Format
  | rotation => Journal.Rotation
  | port => BitVec 16
  | address => IpAddress

/-- The settings that belong to all commands, in order. -/
def shared : List Setting :=
  [verbosity, quiet, format, directory, fileFormat, rotation, metrics, interval, port, address]

/-- Whether a setting is followed by a value. The verbosity is counted, switches are turned on. -/
def takesValue : Setting → Bool
  | verbosity | quiet | metrics => false
  | _ => true

/-- The long name of a setting. -/
def long? : Setting → Option String
  | config => some "config"
  | topology => some "fulfillment.topology"
  | messageId => some "message-id"
  | destinationChain => some "destination-chain"
  | l1Block => some "l1-block"
  | sourceChain => some "source-chain"
  | sourceFromBlock => some "source-from-block"
  | chain => some "chain-id"
  | verbosity => none
  | quiet => some "log.stdout.quiet"
  | format => some "log.stdout.format"
  | directory => some "log.file.directory"
  | fileFormat => some "log.file.format"
  | rotation => some "log.file.rotation"
  | metrics => some "metrics.enabled"
  | interval => some "metrics.interval"
  | port => some "metrics.port"
  | address => some "metrics.addr"

/-- The short name of a setting. -/
def short? : Setting → Option Char
  | config => some 'c'
  | verbosity => some 'v'
  | quiet => some 'q'
  | _ => none

/-- The environment variable of a setting. -/
def environmentName? : Setting → Option String
  | config => some "FILLER_CONFIG"
  | topology => some "FILLER_FULFILLMENT_TOPOLOGY"
  | verbosity => some "FILLER_LOG_LEVEL"
  | quiet => some "FILLER_LOG_STDOUT_QUIET"
  | format => some "FILLER_LOG_STDOUT_FORMAT"
  | directory => some "FILLER_LOG_FILE_DIRECTORY"
  | fileFormat => some "FILLER_LOG_FILE_FORMAT"
  | rotation => some "FILLER_LOG_FILE_ROTATION"
  | metrics => some "FILLER_METRICS_ENABLED"
  | interval => some "FILLER_METRICS_INTERVAL"
  | port => some "FILLER_METRICS_PORT"
  | address => some "FILLER_METRICS_ADDR"
  | _ => none

/-- A word from a table. -/
def word {α : Type} (table : List (String × α)) (s : String) : Except Refusal α :=
  match table.lookup s with
  | some a => .ok a
  | none => .error .wrongWord

/-- A path, which is not empty. -/
def path (s : String) : Except Refusal String := if s.isEmpty then .error .wrongWord else .ok s

/-- An unsigned decimal number that `n` bits hold, perhaps with a sign. Minus zero is allowed to the
narrow numbers. -/
def natural (n : Nat) (minusZero : Bool) (s : String) : Except Refusal (BitVec n) :=
  let read? : Option Nat :=
    match s.toList with
    | '+' :: digits => number? 10 digits
    | '-' :: digits => (number? 10 digits).filter fun i => minusZero && i == 0
    | digits => number? 10 digits
  match read? with
  | some i =>
    let w := BitVec.ofNat n i
    if w.toNat = i then .ok w else .error .wrongValue
  | none => .error .wrongValue

/-- What a reader finds, if it finds anything. -/
def found {α : Type} : Option α → Except Refusal α
  | some a => .ok a
  | none => .error .wrongValue

/-- The words for switches in the environment. -/
def switchWords : List (String × Bool) := [("true", true), ("false", false)]

/-- Reads the value of a setting. -/
def read : (s : Setting) → String → Except Refusal s.Value
  | config, s | directory, s => path s
  | topology, s => found (Topology.ofName s).toOption
  | messageId, s => found ((Hex.decodeExact 32 s).toOption.map (Bytes.toBitVec 256))
  | destinationChain, s | l1Block, s | sourceChain, s | sourceFromBlock, s | chain, s
  | interval, s => natural 64 false s
  | verbosity, s => natural 8 true s
  | port, s => natural 16 true s
  | quiet, s | metrics, s => word switchWords s
  | format, s | fileFormat, s => word Journal.Format.words s
  | rotation, s => word Journal.Rotation.words s
  | address, s => found (IpAddress.parse? s)

end Setting

/-- The settings that belong to a command alone, in order. -/
def Command.ownSettings : Command → List Setting
  | .run => [.config, .topology]
  | .prove => [.config, .messageId, .destinationChain, .l1Block, .sourceChain, .sourceFromBlock]
  | .sendTest => [.config, .chain]

/-- Settings with their values. -/
abbrev Settings := List (Sigma Setting.Value)

namespace Settings

/-- The value of a setting. -/
def get? (given : Settings) (s : Setting) : Option s.Value :=
  given.findSome? fun e => if h : e.1 = s then some (h ▸ e.2) else none

/-- The value of a setting, or a default. -/
def getD (given : Settings) (s : Setting) (d : s.Value) : s.Value := (get? given s).getD d

/-- Whether a setting has a value. -/
def has (given : Settings) (s : Setting) : Bool := (get? given s).isSome

/-- Gives a value to a setting in place of an earlier one. -/
def put (given : Settings) (s : Setting) (v : s.Value) : Settings :=
  ⟨s, v⟩ :: given.filter fun e => e.1 ≠ s

theorem get?_put_self (given : Settings) (s : Setting) (v : s.Value) :
    get? (put given s v) s = some v := by
  simp [get?, put]

end Settings

end CrossCall
