import CrossCall.CommandLine.Setting

/-!
# Reading a command line

The arguments are read from left to right. A setting that waits for its value takes the next
argument that does not look like a setting, and is read when the next setting is met or the
arguments end. A command ends the settings that stand before it; the rest belongs to the command.

## Main definitions

* `CommandLine.scan` — reads the arguments up to a command or to their end
* `CommandLine.fromEnvironment` — adds what only the environment sets
* `CommandLine.readCommand` — reads the arguments of a command
-/

namespace CrossCall.CommandLine

/-- What stands on a command line with a dash in front. -/
inductive Flag
  | setting (s : Setting)
  | help
  | version
deriving DecidableEq

/-- What can stand before a command (`none`) or after it. -/
structure Level where
  command : Option Command

namespace Level

/-- The settings at a level. -/
def settings (l : Level) : List Setting :=
  match l.command with
  | none => Setting.shared
  | some c => c.ownSettings ++ Setting.shared

/-- The flag with a long name. -/
def long? (l : Level) (name : String) : Option Flag :=
  if name = "help" then some .help
  else if name = "version" ∧ l.command = none then some .version
  else (l.settings.find? fun s => s.long? = some name).map .setting

/-- The flag with a short name. -/
def short? (l : Level) (c : Char) : Option Flag :=
  if c = 'h' then some .help
  else if c = 'V' ∧ l.command = none then some .version
  else (l.settings.find? fun s => s.short? = some c).map .setting

end Level

/-- A setting that has been named and perhaps given a value, which is yet to be read. -/
structure Pending where
  setting : Setting
  value : Option String := none

/-- How far the reading has come. -/
structure Progress where
  given : Settings := []
  pending : Option Pending := none

/-- Gives a setting a value. A setting that takes values is given once. -/
def give (given : Settings) (s : Setting) (value : Option String) : Except Refusal Settings :=
  match value with
  | none => .error .missingValue
  | some text => do
    if Settings.has given s then throw .repeatedSetting
    let v ← s.read text
    return Settings.put given s v

/-- Reads the setting that is pending. -/
def settle (p : Progress) : Except Refusal Settings :=
  match p.pending with
  | none => .ok p.given
  | some { setting, value } => give p.given setting value

/-- Counts the verbosity up to its largest value, and turns a switch on once. -/
def raise (given : Settings) : Setting → Except Refusal Settings
  | .verbosity =>
    let n := (Settings.getD given .verbosity 0).toNat
    .ok (Settings.put given .verbosity (BitVec.ofNat 8 (min 255 (n + 1))))
  | .quiet =>
    if Settings.has given .quiet then .error .repeatedSetting
    else .ok (Settings.put given .quiet true)
  | .metrics =>
    if Settings.has given .metrics then .error .repeatedSetting
    else .ok (Settings.put given .metrics true)
  | _ => .ok given

/-- Meets a flag, with the value attached to it. -/
def meet (p : Progress) (flag : Flag) (attached : Option String) : Except Refusal Progress := do
  let given ← settle p
  match flag with
  | .help => throw .help
  | .version => throw .version
  | .setting s =>
    if s.takesValue then
      match attached with
      | some value => return { given := ← give given s (some value) }
      | none => return { given, pending := some { setting := s } }
    else return { given := ← raise given s }

/-- Whether a flag is followed by a value. -/
def Flag.takesValue : Flag → Bool
  | setting s => s.takesValue
  | _ => false

/-- Reads an argument that begins with two dashes. -/
def meetLong (l : Level) (p : Progress) (body : List Char) : Except Refusal Progress :=
  let name := String.ofList (body.takeWhile (· ≠ '='))
  let attached :=
    match body.dropWhile (· ≠ '=') with
    | '=' :: value => some (String.ofList value)
    | _ => none
  match l.long? name with
  | none => .error .unknownArgument
  | some flag =>
    if attached.isSome && !flag.takesValue then .error .needlessValue else meet p flag attached

/-- Reads an argument of short names in a row, the last perhaps with its value attached. -/
def meetShort (l : Level) (p : Progress) : List Char → Except Refusal Progress
  | [] => .ok p
  | c :: cs =>
    match l.short? c with
    | none => .error .unknownArgument
    | some flag =>
      if flag.takesValue then
        match cs with
        | [] => meet p flag none
        | '=' :: value => meet p flag (some (String.ofList value))
        | value => meet p flag (some (String.ofList value))
      else do
        let p ← meet p flag none
        meetShort l p cs

/-- What an argument looks like. -/
inductive Shape
  | separator
  | long (body : List Char)
  | short (body : List Char)
  | plain

/-- The shape of an argument. A single dash is plain. -/
def Shape.of (argument : String) : Shape :=
  match argument.toList with
  | ['-', '-'] => separator
  | '-' :: '-' :: body => long body
  | '-' :: c :: cs => short (c :: cs)
  | _ => plain

/-- How a reading ended: at a command, with the arguments after it, or with all arguments read. -/
inductive Ending
  | command (c : Command) (p : Progress) (rest : List String)
  | finished (p : Progress)

/-- The help on a command, if there is such a command. -/
def helpOn : List String → Refusal
  | [] => .help
  | [word] => if word = "help" ∨ (Command.words.lookup word).isSome then .help else .unknownCommand
  | _ => .unknownCommand

/-- Whether a value is awaited. -/
def Progress.awaits (p : Progress) : Bool :=
  match p.pending with
  | some { setting := _, value := none } => true
  | _ => false

/-- Whether a word is a command or the word for help. -/
def isCommandWord (word : String) : Bool :=
  word = "help" || (Command.words.lookup word).isSome

/-- Refuses an argument that is neither a flag nor a value. -/
def refusePlain (l : Level) (afterSeparator : Bool) (argument : String) : Refusal :=
  if l.command.isNone ∧ !(afterSeparator && isCommandWord argument) then .unknownCommand
  else .unknownArgument

/-- Reads arguments up to a command or to their end. -/
def scan (l : Level) (p : Progress) : List String → Except Refusal Ending
  | [] => .ok (.finished p)
  | argument :: rest =>
    if l.command.isNone ∧ !p.awaits ∧ argument = "help" then .error (helpOn rest)
    else
      match if l.command.isNone ∧ !p.awaits then Command.words.lookup argument else none with
      | some c => .ok (.command c p rest)
      | none =>
        match Shape.of argument with
        | .separator =>
          match rest with
          | [] => .ok (.finished p)
          | next :: _ => .error (refusePlain l true next)
        | .long body => do
          let p ← meetLong l p body
          scan l p rest
        | .short body => do
          let p ← meetShort l p body
          scan l p rest
        | .plain =>
          match p.pending with
          | some { setting, value := none } =>
            scan l { p with pending := some { setting, value := some argument } } rest
          | _ => .error (refusePlain l false argument)

/-- Adds the settings that the environment gives to what the command line leaves open. -/
def fromEnvironment (environment : List (String × String)) (given : Settings) :
    List Setting → Except Refusal Settings
  | [] => .ok given
  | s :: ss =>
    let text? : Option String :=
      if Settings.has given s then none
      else s.environmentName?.bind fun name => environment.lookup name
    match text? with
    | none => fromEnvironment environment given ss
    | some text => do
      let v ← s.read text
      fromEnvironment environment (Settings.put given s v) ss

/-- Reads the arguments of a command: what the command line gives, and with the environment. -/
def readCommand (environment : List (String × String)) (c : Command) (arguments : List String) :
    Except Refusal (Settings × Settings) := do
  let l : Level := { command := some c }
  match ← scan l {} arguments with
  | .command _ _ _ => throw .unknownArgument
  | .finished p =>
    let given ← settle p
    return (given, ← fromEnvironment environment given l.settings)

end CrossCall.CommandLine
