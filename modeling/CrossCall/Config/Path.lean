import CrossCall.Text.Number

/-!
# Paths of files

Several texts lead the same way through directories: a step may be followed by more than one slash,
and a step to `.` stays where it is.

## Main definitions

* `FilePath.steps` — the steps that a text takes
* `FilePath.canonical` — the shortest text with the same steps
-/

namespace CrossCall.FilePath

/-- The steps of a path after its root. One that stays where it is counts only at the beginning of a
path without root. -/
def steps (path : List Char) : List (List Char) :=
  let goesOn (step : List Char) : Bool := !step.isEmpty && step ≠ ['.']
  match splitAtEach '/' path with
  | ['.'] :: rest => ['.'] :: rest.filter goesOn
  | pieces => pieces.filter goesOn

/-- The shortest text with the same root and the same steps. -/
def canonical (path : String) : String :=
  let root := if path.toList.head? = some '/' then "/" else ""
  root ++ "/".intercalate ((steps path.toList).map String.ofList)

end CrossCall.FilePath
