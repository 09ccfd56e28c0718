import CrossCall.Data.Basic

/-!
# Structured data as JSON texts

## Main definitions

* `Data.pretty` — the text of a tree, a line for every field and item
-/

namespace CrossCall

namespace Data

/-- A character inside a quoted text. -/
def escaped (c : Char) : String :=
  match c.toNat with
  | 34 => "\\\""
  | 92 => "\\\\"
  | 8 => "\\b"
  | 9 => "\\t"
  | 10 => "\\n"
  | 12 => "\\f"
  | 13 => "\\r"
  | n =>
    if n < 32 then
      "\\u00" ++ String.ofList ((Hex.encodeDigits [UInt8.ofNat n]).map fun d => Char.ofNat d.toNat)
    else String.singleton c

/-- A text in quotes. -/
def quoted (s : String) : String := "\"" ++ String.join (s.toList.map escaped) ++ "\""

/-- A new line at a depth of nesting. -/
def newLine (depth : Nat) : String := "\n" ++ String.ofList (List.replicate (2 * depth) ' ')

/-- Lines between an opening and a closing bracket at a depth of nesting. -/
def block (opening closing : String) (depth : Nat) (lines : List String) : String :=
  if lines.isEmpty then opening ++ closing
  else
    opening ++ newLine (depth + 1) ++ ("," ++ newLine (depth + 1)).intercalate lines ++
      newLine depth ++ closing

mutual

/-- The text of a tree that stands at a depth of nesting. -/
def prettyAt (depth : Nat) : Data → String
  | null => "null"
  | bool b => if b then "true" else "false"
  | int i => toString i
  | foreign => "null"
  | text s => quoted s
  | list items => block "[" "]" depth (prettyItems (depth + 1) items)
  | record fields => block "\x7b" "\x7d" depth (prettyFields (depth + 1) fields)

/-- The texts of items. -/
def prettyItems (depth : Nat) : List Data → List String
  | [] => []
  | d :: ds => prettyAt depth d :: prettyItems depth ds

/-- The texts of fields. -/
def prettyFields (depth : Nat) : List (String × Data) → List String
  | [] => []
  | (name, d) :: fs => (quoted name ++ ": " ++ prettyAt depth d) :: prettyFields depth fs

end

/-- The text of a tree, a line for every field and item. -/
def pretty (d : Data) : String := prettyAt 0 d

end Data

end CrossCall
