import CrossCall.Word

/-!
# Contract data types and their values

Contracts exchange values of a small family of types: numbers and fixed byte strings that fit a
word, byte strings, arrays and tuples. A type is *static* if all its values take the same number of
words, and *dynamic* otherwise; a dynamic value stands behind an offset.

## Main definitions

* `Abi.Ty` — the types; a fixed array is the tuple of its entries
* `Abi.Ty.Value` — the values of a type
* `Abi.Ty.isDynamic`, `Abi.Ty.headWords` — the layout of a type
-/

namespace CrossCall.Abi

/-- A type of contract data. `word bits` is a value in the low bits of one word. -/
inductive Ty
  | word (bits : Nat)
  | bytes
  | array (element : Ty)
  | tuple (fields : List Ty)

mutual

/-- The values of a type. -/
@[reducible] def Ty.Value : Ty → Type
  | .word bits => BitVec bits
  | .bytes => Bytes
  | .array element => List element.Value
  | .tuple fields => Ty.Values fields

/-- The values of a sequence of types, ending in the unit. -/
@[reducible] def Ty.Values : List Ty → Type
  | [] => Unit
  | t :: ts => t.Value × Ty.Values ts

end

mutual

/-- Whether values of the type stand behind an offset. -/
def Ty.isDynamic : Ty → Bool
  | .word _ => false
  | .bytes => true
  | .array _ => true
  | .tuple fields => Ty.anyDynamic fields

/-- Whether a sequence of types holds a dynamic one. -/
def Ty.anyDynamic : List Ty → Bool
  | [] => false
  | t :: ts => t.isDynamic || Ty.anyDynamic ts

end

mutual

/-- The words a value takes in the row of its neighbours: one for an offset. -/
def Ty.headWords : Ty → Nat
  | .word _ => 1
  | .bytes => 1
  | .array _ => 1
  | .tuple fields => if Ty.anyDynamic fields then 1 else Ty.rowWords fields

/-- The words of a row of values. -/
def Ty.rowWords : List Ty → Nat
  | [] => 0
  | t :: ts => t.headWords + Ty.rowWords ts

end

end CrossCall.Abi
