import CrossCall.Data.Basic
import CrossCall.Journal.Line

/-!
# Where the journal goes

## Main definitions

* `Journal.Threshold` — which lines pass
* `Journal.Format`, `Journal.Rotation` — how lines and files look
* `Journal.Settings` — what can be set on the command line
* `Journal.Sinks` — where lines are written
-/

namespace CrossCall.Journal

/-- Which lines pass: those of a level and the graver ones, or none. -/
inductive Threshold
  | off
  | error
  | warn
  | info
  | debug
  | trace
deriving DecidableEq

namespace Threshold

/-- The rank of a threshold: lines of the same and of lower ranks pass. -/
def rank : Threshold → Nat
  | off => 0
  | error => 1
  | warn => 2
  | info => 3
  | debug => 4
  | trace => 5

/-- The words for the thresholds. -/
def words : List (String × Threshold) :=
  [("off", off), ("error", error), ("warn", warn), ("info", info), ("debug", debug),
   ("trace", trace)]

/-- The word for a threshold. -/
def name : Threshold → String
  | off => "off"
  | error => "error"
  | warn => "warn"
  | info => "info"
  | debug => "debug"
  | trace => "trace"

/-- The threshold for a verbosity; verbosities above five are like five. -/
def ofVerbosity : Nat → Threshold
  | 0 => off
  | 1 => error
  | 2 => warn
  | 3 => info
  | 4 => debug
  | _ => trace

/-- Whether lines of a level pass. -/
def passes (t : Threshold) (level : Level) : Bool := level.rank ≤ t.rank

/-- The one of two thresholds that lets fewer lines pass. -/
def quieter (t u : Threshold) : Threshold := if t.rank ≤ u.rank then t else u

@[simp] theorem rank_ofVerbosity (n : Nat) : (ofVerbosity n).rank = min n 5 := by
  match n with
  | 0 | 1 | 2 | 3 | 4 => rfl
  | n + 5 => simp [ofVerbosity, rank]

end Threshold

/-- How lines look. -/
inductive Format
  | full
  | json
  | pretty
  | compact
deriving DecidableEq

/-- The words for the formats. -/
def Format.words : List (String × Format) :=
  [("full", full), ("json", json), ("pretty", pretty), ("compact", compact)]

/-- The word for a format. -/
def Format.name : Format → String
  | full => "full"
  | json => "json"
  | pretty => "pretty"
  | compact => "compact"

/-- When a new file is begun. -/
inductive Rotation
  | minutely
  | hourly
  | daily
  | never
deriving DecidableEq

/-- The words for the rotations. -/
def Rotation.words : List (String × Rotation) :=
  [("minutely", minutely), ("hourly", hourly), ("daily", daily), ("never", never)]

/-- The word for a rotation. -/
def Rotation.name : Rotation → String
  | minutely => "minutely"
  | hourly => "hourly"
  | daily => "daily"
  | never => "never"

/-- What can be set about the journal. Without a directory no files are written. -/
structure Settings where
  verbosity : BitVec 8 := 3
  quiet : Bool := false
  format : Format := .full
  directory : Option String := none
  fileFormat : Format := .full
  rotation : Rotation := .daily
deriving DecidableEq

/-- Reads the settings, of which only the directory may be absent. -/
def Settings.ofData? (d : Data) : Option Settings := do
  let names :=
    ["level", "stdout_quiet", "stdout_format", "file_directory", "file_format", "file_rotation"]
  let fs ← d.fields? .json names false
  let verbosity ← fs.required? "level" (Data.bits? 8)
  let quiet ← fs.required? "stdout_quiet" Data.bool?
  let format ← fs.required? "stdout_format" (Data.word? .json Format.words)
  let directory ← fs.optional? "file_directory" Data.text?
  let fileFormat ← fs.required? "file_format" (Data.word? .json Format.words)
  let rotation ← fs.required? "file_rotation" (Data.word? .json Rotation.words)
  return { verbosity, quiet, format, directory, fileFormat, rotation }

/-- The files of the journal. -/
structure FileSink where
  directory : String
  fileName : String
  format : Format
  rotation : Rotation
deriving DecidableEq

/-- Where lines are written: to the terminal, to files, to both or to neither. -/
structure Sinks where
  threshold : Threshold := .info
  terminal : Option Format := some .full
  file : Option FileSink := none
deriving DecidableEq

namespace Sinks

/-- The sinks that settings ask for. -/
def ofSettings (s : Settings) : Sinks :=
  { threshold := .ofVerbosity s.verbosity.toNat
    terminal := if s.quiet then none else some s.format
    file := s.directory.map fun directory =>
      { directory, fileName := "filler.log", format := s.fileFormat, rotation := s.rotation } }

/-- The same sinks with files named for a command. -/
def forCommand (s : Sinks) (command : String) : Sinks :=
  { s with file := s.file.map fun f => { f with fileName := s!"filler-{command}.log" } }

end Sinks

end CrossCall.Journal
