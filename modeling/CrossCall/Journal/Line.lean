/-!
# Lines of the journal

The program reports what it does in lines of five levels. The target of a line names the part that
wrote it.

## Main definitions

* `Journal.Level` — the levels from `error` to `trace`
* `Journal.Line` — a line
-/

namespace CrossCall.Journal

/-- The levels of lines, gravest first. -/
inductive Level
  | error
  | warn
  | info
  | debug
  | trace
deriving DecidableEq

/-- The rank of a level: a threshold lets the levels pass whose rank does not exceed its own. -/
def Level.rank : Level → Nat
  | error => 1
  | warn => 2
  | info => 3
  | debug => 4
  | trace => 5

/-- The word for a level in lines. -/
def Level.name : Level → String
  | error => "ERROR"
  | warn => "WARN"
  | info => "INFO"
  | debug => "DEBUG"
  | trace => "TRACE"

/-- A line of the journal. -/
structure Line where
  level : Level
  target : String
  text : String
deriving DecidableEq

end CrossCall.Journal
