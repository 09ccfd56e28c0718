import CrossCall.Journal.Pattern
import CrossCall.Text.Decimal

/-!
# Fields of spans

A directive may ask for a field of a span, and for its value.

## Main definitions

* `Journal.FieldValue` — the values that can be asked for
* `Journal.Field` — a field with or without a value
-/

namespace CrossCall.Journal

/-- A value that a field is to have. A magnitude that is missing is infinite. -/
inductive FieldValue
  | truth (b : Bool)
  | natural (n : Nat)
  | integer (i : Int)
  | fraction (isNegative : Bool) (magnitude : Option Decimal)
  | undefined
  | pattern (text : String)
deriving DecidableEq

namespace FieldValue

/-- An integer of 64 bits, unsigned if it can be. -/
def integer? (cs : List Char) : Option FieldValue := do
  let i ← Decimal.signed? cs
  if cs.head? ≠ some '-' ∧ i.toNat < 1 <<< 64 then return natural i.toNat
  else if -(1 <<< 63) ≤ i ∧ i < 1 <<< 63 then return integer i
  else none

/-- A number of double precision, or one of the words for what is none. -/
def fraction? (cs : List Char) : Option FieldValue :=
  let isSigned := cs.head? = some '-' || cs.head? = some '+'
  let magnitude := if isSigned then cs.tail else cs
  let isNegative : Bool := cs.head? = some '-'
  match String.ofList (magnitude.map Char.toLower) with
  | "nan" => some undefined
  | "inf" | "infinity" => some (fraction isNegative none)
  | _ => (Decimal.parse? magnitude).map fun d =>
    fraction isNegative (d.toDouble?.map Double.shortest)

/-- Reads a value: a truth value, an integer, a fraction or else a pattern. -/
def parse? (cs : List Char) : Option FieldValue :=
  match String.ofList cs with
  | "true" => some (truth true)
  | "false" => some (truth false)
  | s =>
    (integer? cs <|> fraction? cs) <|> if Pattern.isValid cs then some (pattern s) else none

/-- The text of a value. -/
def text : FieldValue → String
  | truth b => if b then "true" else "false"
  | natural n => toString n
  | integer i => toString i
  | fraction isNegative magnitude =>
    (if isNegative then "-" else "") ++ (magnitude.map Decimal.text).getD "inf"
  | undefined => "NaN"
  | pattern s => s

/-- The same value without the sign of a zero, which makes no difference. -/
def unsigned : FieldValue → FieldValue
  | fraction _ (some ⟨0, e⟩) => fraction false (some ⟨0, e⟩)
  | v => v

end FieldValue

/-- A field that a span is to have, and its value unless any will do. -/
structure Field where
  name : String
  value : Option FieldValue
deriving DecidableEq

namespace Field

/-- Reads a field: a name, with or without an equals sign and a value. What follows a further equals
sign is passed over. -/
def parse? (s : String) : Option Field :=
  match splitAtEach '=' s.toList with
  | name :: value :: _ => do
    let value ← FieldValue.parse? value
    return { name := String.ofList name, value := some value }
  | _ => some { name := s, value := none }

/-- The text of a field. -/
def text (f : Field) : String := f.name ++ (f.value.map ("=" ++ ·.text)).getD ""

/-- Whether two fields are asked for alike. -/
def matchesSame (f g : Field) : Bool :=
  f.name = g.name && f.value.map (·.unsigned) = g.value.map (·.unsigned)

end Field

end CrossCall.Journal
