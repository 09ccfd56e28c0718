import CrossCall.Json.Lexeme

/-!
# Reading JSON texts

The lexemes of a text are taken one at a time. What has been opened and not closed is kept, innermost
first, with the part of it that has been read.

## Main definitions

* `Json.State.take` — what a lexeme does
* `Json.parse?` — the tree of a whole text, or nothing where it is malformed
-/

namespace CrossCall.Json

/-- What has been opened: a list, or a record and the name of the field that is being read. -/
inductive Frame
  | list (items : List Data)
  | record (fields : Fields) (name : String)

/-- What may stand at a place of a text. -/
inductive Place
  /-- A value. -/
  | value
  /-- The first item of a list or its closing bracket. -/
  | firstItem
  /-- The name of a field. -/
  | name
  /-- The name of the first field of a record or its closing brace. -/
  | firstName
  /-- The colon after a name. -/
  | colon
  /-- A comma, or what closes the frame. -/
  | after

/-- How far the reading of a text has come. -/
inductive State
  | inside (place : Place) (frames : List Frame)
  | done (d : Data)

/-- How deep lists and records may nest. -/
def maxDepth : Nat := 127

/-- Adds a field to a record. It takes the place of an earlier one of its name. -/
def setField (name : String) (d : Data) (fields : Fields) : Fields :=
  fields.filter (fun f => f.1 ≠ name) ++ [(name, d)]

namespace State

/-- Opens a list or a record. -/
def enter (place : Place) (frame : Frame) (frames : List Frame) : Option State :=
  if frames.length < maxDepth then some (.inside place (frame :: frames)) else none

/-- Puts a whole value where it belongs. -/
def put (d : Data) : List Frame → State
  | [] => .done d
  | .list items :: frames => .inside .after (.list (items ++ [d]) :: frames)
  | .record fields name :: frames => .inside .after (.record (setField name d fields) name :: frames)

/-- What a lexeme does. -/
def take : State → Lexeme → Option State
  | .done _, _ => none
  | .inside place frames, lexeme =>
    match place, lexeme, frames with
    | .value, .scalar d, frames | .firstItem, .scalar d, frames => some (put d frames)
    | .value, .mark '[', frames | .firstItem, .mark '[', frames => enter .firstItem (.list []) frames
    | .value, .mark '{', frames | .firstItem, .mark '{', frames =>
      enter .firstName (.record [] "") frames
    | .firstItem, .mark ']', .list items :: frames | .after, .mark ']', .list items :: frames =>
      some (put (.list items) frames)
    | .name, .scalar (.text s), .record fields _ :: frames
    | .firstName, .scalar (.text s), .record fields _ :: frames =>
      some (.inside .colon (.record fields s :: frames))
    | .colon, .mark ':', frames => some (.inside .value frames)
    | .firstName, .mark '}', .record fields _ :: frames
    | .after, .mark '}', .record fields _ :: frames => some (put (.record fields) frames)
    | .after, .mark ',', .list items :: frames => some (.inside .value (.list items :: frames))
    | .after, .mark ',', .record fields name :: frames =>
      some (.inside .name (.record fields name :: frames))
    | _, _, _ => none

/-- The tree that has been read, if it is whole. -/
def result? : State → Option Data
  | .done d => some d
  | .inside _ _ => none

end State

/-- The tree of a text. -/
def parse? (s : String) : Option Data := do
  let lexemes ← lexemes? .between s.toList
  let state ← lexemes.foldlM State.take (.inside .value [])
  state.result?

end CrossCall.Json
