import CrossCall.Text.CharSet

/-!
# Tables of characters

A table gives numbers to characters. It is kept as a text, in which a range of characters and its
numbers are written as hexadecimal numbers: `1f51-1f53:3c5.301`.

## Main definitions

* `CharTable` — ranges of characters with their numbers
* `CharTable.ofText` — reads a table
* `CharTable.find?` — the range of a character
-/

namespace CrossCall

/-- Numbers for the characters of a range. -/
structure CharTable.Entry where
  low : Nat
  high : Nat
  numbers : List Nat

/-- Ranges of characters with their numbers. -/
structure CharTable where
  entries : List CharTable.Entry

namespace CharTable

/-- A range, a colon and numbers with points between them. -/
def entry? (word : String) : Option Entry :=
  match splitAtEach ':' word.toList with
  | [range, numbers] => do
    let (low, high) ← CharSet.range? (String.ofList range)
    let numbers ← (splitAtEach '.' numbers).mapM (number? 16)
    return { low, high, numbers }
  | _ => none

/-- The table of the entries in a text. -/
def ofText (s : String) : CharTable := ⟨(wordsOf s).filterMap entry?⟩

/-- The entry whose range a character is in. -/
def find? (t : CharTable) (c : Char) : Option Entry :=
  t.entries.find? fun e => e.low ≤ c.toNat && c.toNat ≤ e.high

theorem mem_range_of_find? {t : CharTable} {c : Char} {e : Entry} (h : t.find? c = some e) :
    e.low ≤ c.toNat ∧ c.toNat ≤ e.high := by
  simpa using List.find?_some h

end CharTable

end CrossCall
