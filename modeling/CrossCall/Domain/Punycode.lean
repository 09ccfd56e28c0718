/-!
# Names in plain letters

A label with characters beyond ASCII is written with the characters of ASCII alone: first those that
it has, then a dash, then the places of the others, in the order of their numbers. A place is the
number of steps from the one before, where every step is a later place in the label or, after the
last place, the next number. Steps are written in a base of 36 digits, where a digit below a
threshold ends a number, and the thresholds follow the size of the numbers so far.

## Main definitions

* `Punycode.encode`, `Punycode.decode?` — the two directions
-/

namespace CrossCall.Punycode

/-- The digit of a value: letters, then digits. -/
def digit (n : Nat) : Char :=
  if n < 26 then Char.ofNat (0x61 + n) else Char.ofNat (0x30 + (n - 26))

/-- The value of a digit. -/
def value? (c : Char) : Option Nat :=
  if c.isLower then some (c.toNat - 0x61)
  else if c.isUpper then some (c.toNat - 0x41)
  else if c.isDigit then some (c.toNat - 0x30 + 26)
  else none

/-- The threshold for a digit, whose position is a multiple of 36. -/
def threshold (position bias : Nat) : Nat :=
  if position ≤ bias then 1 else min (position - bias) 26

theorem threshold_pos (position bias : Nat) : 0 < threshold position bias := by
  unfold threshold
  split <;> omega

theorem threshold_le (position bias : Nat) : threshold position bias ≤ 26 := by
  unfold threshold
  split <;> omega

/-- The sum of 36 for every division by 35 that makes a number at most 455, and what is left of the
number. -/
def scaled (delta bias : Nat) : Nat × Nat :=
  if h : 455 < delta then scaled (delta / 35) (bias + 36) else (delta, bias)
termination_by delta
decreasing_by exact Nat.div_lt_self (by omega) (by omega)

/-- The bias after a number, when there are `count` characters. -/
def adapt (delta count : Nat) (isFirst : Bool) : Nat :=
  let delta := if isFirst then delta / 700 else delta / 2
  let (delta, bias) := scaled (delta + delta / count) 0
  bias + 36 * delta / (delta + 38)

/-- The digits of a number. -/
def digits (bias position n : Nat) : List Char :=
  let t := threshold position bias
  if h : n < t then [digit n]
  else digit (t + (n - t) % (36 - t)) :: digits bias (position + 36) ((n - t) / (36 - t))
termination_by n
decreasing_by
  have := threshold_pos position bias
  have := threshold_le position bias
  exact Nat.lt_of_le_of_lt (Nat.div_le_self _ _) (by omega)

/-- What has been written, the steps since, the bias, and how many characters are placed. -/
structure Writer where
  written : List Char := []
  delta : Nat := 0
  bias : Nat := 72
  count : Nat

/-- Passes a character of the label, when those numbered `n` are to be placed. -/
def Writer.pass (basic n : Nat) (w : Writer) (c : Char) : Writer :=
  if c.toNat < n then { w with delta := w.delta + 1 }
  else if c.toNat = n then
    { written := w.written ++ digits w.bias 36 w.delta
      bias := adapt w.delta (w.count + 1) (w.count = basic)
      count := w.count + 1 }
  else w

/-- Places the characters of each number. The numbers are in order; all below `least` are done. -/
def Writer.place (label : List Char) (basic : Nat) (w : Writer) (least : Nat) : List Nat → Writer
  | [] => w
  | n :: ns =>
    let w := { w with delta := w.delta + (n - least) * (w.count + 1) }
    let w := label.foldl (·.pass basic n ·) w
    Writer.place label basic { w with delta := w.delta + 1 } (n + 1) ns

/-- The written form of a label. -/
def encode (label : List Char) : List Char :=
  let basic := label.filter (·.toNat < 128)
  let numbers := (((label.map (·.toNat)).filter (128 ≤ ·)).mergeSort).eraseDups
  let w := Writer.place label basic.length { count := basic.length } 128 numbers
  basic ++ (if basic.isEmpty then [] else ['-']) ++ w.written

/-- Reads a number, and gives what follows it. -/
def number? (bias : Nat) : (position weight : Nat) → List Char → Option (Nat × List Char)
  | _, _, [] => none
  | position, weight, c :: cs =>
    match value? c with
    | none => none
    | some d =>
      let t := threshold position bias
      if d < t then some (d * weight, cs)
      else (number? bias (position + 36) (weight * (36 - t)) cs).map fun (n, cs) =>
        (d * weight + n, cs)

theorem length_lt_of_number? {bias position weight : Nat} {cs : List Char} {r : Nat × List Char}
    (h : number? bias position weight cs = some r) : r.2.length < cs.length := by
  induction cs generalizing position weight r with
  | nil => simp [number?] at h
  | cons c cs ih =>
    unfold number? at h
    split at h
    · cases h
    · simp only at h
      split at h
      · cases h
        simp
      · obtain ⟨r', hr', rfl⟩ := Option.map_eq_some_iff.1 h
        have := ih hr'
        simp only [List.length_cons]
        omega

/-- Places characters in a label by the steps that are read: `place` is the place after the last one
and `n` its number. -/
def insertAll (label : List Char) (n place bias : Nat) : List Char → Option (List Char)
  | [] => some label
  | c :: cs =>
    match h : number? bias 36 1 (c :: cs) with
    | none => none
    | some (delta, rest) =>
      let count := label.length + 1
      let steps := place + delta
      let n := n + steps / count
      if n.isValidChar then
        let label := label.insertIdx (steps % count) (Char.ofNat n)
        insertAll label n (steps % count + 1) (adapt delta count (place = 0)) rest
      else none
termination_by cs => cs.length
decreasing_by exact length_lt_of_number? h

/-- The label with a written form. -/
def decode? (cs : List Char) : Option (List Char) :=
  let (after, before) := cs.reverse.span (· ≠ '-')
  let (basic, rest) :=
    match before with
    | _ :: c :: basic => ((c :: basic).reverse, after.reverse)
    | _ => ([], cs)
  if basic.any (128 ≤ ·.toNat) then none else insertAll basic 128 0 72 rest

end CrossCall.Punycode
