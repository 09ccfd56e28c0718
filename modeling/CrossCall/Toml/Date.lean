import CrossCall.Text.Number

/-!
# Dates and times in configuration files

No setting takes a date; it is told from a malformed word.

## Main definitions

* `Toml.isDate` — a day of a year
* `Toml.isClock` — a time of a day, which may say how far it is from universal time
* `Toml.isMoment` — a date, a time without a distance, or a date and a time
-/

namespace CrossCall.Toml

/-- Skips one character. -/
def skip? (c : Char) : List Char → Option (List Char)
  | d :: cs => if d = c then some cs else none
  | [] => none

/-- Two digits whose number is in a range. -/
def pair? (low high : Nat) : List Char → Option (Nat × List Char)
  | a :: b :: cs => do
    let n ← number? 10 [a, b]
    if low ≤ n ∧ n ≤ high then some (n, cs) else none
  | _ => none

/-- The number of days of a month. -/
def daysOf (year month : Nat) : Nat :=
  if month = 2 then
    if year % 4 = 0 ∧ (year % 100 ≠ 0 ∨ year % 400 = 0) then 29 else 28
  else if month = 4 ∨ month = 6 ∨ month = 9 ∨ month = 11 then 30
  else 31

/-- Skips a year of four digits, a month and a day, with hyphens between them. -/
def skipDate? : List Char → Option (List Char)
  | a :: b :: c :: d :: cs => do
    let year ← number? 10 [a, b, c, d]
    let (month, cs) ← pair? 1 12 (← skip? '-' cs)
    let (_, cs) ← pair? 1 (daysOf year month) (← skip? '-' cs)
    return cs
  | _ => none

/-- Skips hours and minutes with a colon between them. -/
def skipMinutes? (cs : List Char) : Option (List Char) := do
  let (_, cs) ← pair? 0 23 cs
  let (_, cs) ← pair? 0 59 (← skip? ':' cs)
  return cs

/-- Skips hours, minutes and seconds, of which there may be sixty and a fraction. -/
def skipSeconds? (cs : List Char) : Option (List Char) := do
  let (_, cs) ← pair? 0 60 (← skip? ':' (← skipMinutes? cs))
  match cs with
  | '.' :: cs => if cs.head?.any Char.isDigit then some (cs.dropWhile Char.isDigit) else none
  | cs => some cs

/-- Whether nothing is left, or how far a time is from universal time. -/
def isOffset : List Char → Bool
  | [] => true
  | c :: cs =>
    if c = 'Z' || c = 'z' then cs.isEmpty
    else (c = '+' || c = '-') && skipMinutes? cs = some []

/-- Whether a word is a day of a year. -/
def isDate (cs : List Char) : Bool := skipDate? cs = some []

/-- Whether a word is a time of a day, which may say how far it is from universal time. -/
def isClock (cs : List Char) : Bool := (skipSeconds? cs).any isOffset

/-- Whether a word is a date, a time that does not say how far it is from universal time, or a date
and a time with the letter for time between them. -/
def isMoment (cs : List Char) : Bool :=
  match skipDate? cs with
  | none => skipSeconds? cs = some []
  | some [] => true
  | some (c :: cs) => (c = 'T' || c = 't') && isClock cs

end CrossCall.Toml
