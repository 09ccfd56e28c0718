import CrossCall.Text.Number

/-!
# Sets of characters

The properties of characters are tables of ranges. They are kept as texts, with the numbers of the
characters in hexadecimal.

## Main definitions

* `CharSet` — a set of characters
* `CharSet.ofText` — reads a table
-/

namespace CrossCall

/-- The words of a text with blanks and line breaks between them. -/
def wordsOf (s : String) : List String := (s.splitOn "\n").flatMap (·.splitOn " ")

/-- A set of characters: those whose numbers are in one of some ranges. -/
structure CharSet where
  ranges : List (Nat × Nat)

namespace CharSet

/-- Whether a character is in a set. -/
def contains (s : CharSet) (c : Char) : Bool :=
  s.ranges.any fun r => r.1 ≤ c.toNat && c.toNat ≤ r.2

/-- Two hexadecimal numbers with a dash between them, or one number. -/
def range? (word : String) : Option (Nat × Nat) :=
  match splitAtEach '-' word.toList with
  | [low] => do
    let low ← number? 16 low
    return (low, low)
  | [low, high] => do
    let low ← number? 16 low
    let high ← number? 16 high
    return (low, high)
  | _ => none

/-- The set of the ranges in a text. -/
def ofText (s : String) : CharSet := ⟨(wordsOf s).filterMap range?⟩

theorem contains_iff {s : CharSet} {c : Char} :
    s.contains c ↔ ∃ r ∈ s.ranges, r.1 ≤ c.toNat ∧ c.toNat ≤ r.2 := by
  simp [contains]

end CharSet

end CrossCall
