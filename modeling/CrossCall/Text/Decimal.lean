import CrossCall.Text.Number

/-!
# Numbers with a fraction

A number with a fraction is held in double precision, as an integer of at most 53 bits times a power
of two. It is written with the fewest digits that read back.

## Main definitions

* `Decimal` — an integer times a power of ten, `Decimal.parse?` and `Decimal.text`
* `Double` — an integer times a power of two, `Double.nearest?`
* `Double.shortest` — the shortest decimal that reads back
-/

namespace CrossCall

/-- The quotient of two numbers, rounded to the nearest integer, a half to the even one. -/
def roundDiv (num den : Nat) : Nat :=
  let rest := 2 * (num % den)
  num / den + if rest < den then 0 else if den < rest then 1 else num / den % 2

/-- The number of decimal digits of a number. -/
def digitCount (n : Nat) : Nat := (Nat.toDigits 10 n).length

/-- `num * 2 ^ e / den`, as a numerator and a denominator. -/
def scaleTwo (num den : Nat) (e : Int) : Nat × Nat :=
  if 0 ≤ e then (num <<< e.toNat, den) else (num, den <<< (-e).toNat)

/-- `num * 10 ^ e / den`, as a numerator and a denominator. -/
def scaleTen (num den : Nat) (e : Int) : Nat × Nat :=
  if 0 ≤ e then (num * Nat.pow 10 e.toNat, den) else (num, den * Nat.pow 10 (-e).toNat)

/-- The greatest power of two that is not above a fraction. -/
def floorLogTwo (num den : Nat) : Int :=
  let e : Int := num.log2 - den.log2
  let (n, d) := scaleTwo num den (-e)
  if d ≤ n then e else e - 1

/-- The greatest power of ten that is not above a fraction. -/
def floorLogTen (num den : Nat) : Int :=
  if den ≤ num then digitCount (num / den) - 1
  else
    let e : Int := digitCount (den / num)
    let (n, d) := scaleTen num den (e - 1)
    if d ≤ n then 1 - e else -e

/-- A number without sign, `significand * 2 ^ exponent`. -/
structure Double where
  significand : Nat
  exponent : Int
deriving DecidableEq

/-- A number without sign, `digits * 10 ^ exponent`. -/
structure Decimal where
  digits : Nat
  exponent : Int
deriving DecidableEq

namespace Double

/-- The double nearest to a fraction, unless the fraction is past the greatest double. -/
def nearest? (num den : Nat) : Option Double :=
  if num = 0 then some ⟨0, 0⟩
  else
    let exponent := max (floorLogTwo num den - 52) (-1074)
    let (n, d) := scaleTwo num den (-exponent)
    let significand := roundDiv n d
    let x : Double :=
      if significand = 0 then ⟨0, 0⟩
      else if significand = 1 <<< 53 then ⟨1 <<< 52, exponent + 1⟩
      else ⟨significand, exponent⟩
    if 971 < x.exponent then none else some x

end Double

namespace Decimal

/-- The double nearest to a decimal, unless the decimal is past the greatest double. -/
def toDouble? (d : Decimal) : Option Double :=
  let size := digitCount d.digits + d.exponent
  if d.digits = 0 ∨ size < -400 then some ⟨0, 0⟩
  else if 400 < size then none
  else
    let (n, d) := scaleTen d.digits 1 d.exponent
    Double.nearest? n d

/-- An integer with or without a sign. -/
def signed? : List Char → Option Int
  | '-' :: cs => (number? 10 cs).map fun n => -(n : Int)
  | '+' :: cs => (number? 10 cs).map fun n => n
  | cs => (number? 10 cs).map fun n => n

/-- Digits, which a point may divide. -/
def mantissa? (cs : List Char) : Option Decimal := do
  let fraction := (cs.dropWhile (· ≠ '.')).drop 1
  let digits ← number? 10 (cs.takeWhile (· ≠ '.') ++ fraction)
  return ⟨digits, -(fraction.length : Int)⟩

/-- Reads a decimal: digits, which a point may divide, and the letter e with an exponent, or
neither. -/
def parse? (cs : List Char) : Option Decimal :=
  let isExponent (c : Char) : Bool := c = 'e' || c = 'E'
  match cs.takeWhile (!isExponent ·), cs.dropWhile (!isExponent ·) with
  | mantissa, [] => mantissa? mantissa
  | mantissa, _ :: exponent => do
    let d ← mantissa? mantissa
    let e ← signed? exponent
    return ⟨d.digits, d.exponent + e⟩

/-- The text of a decimal, without exponent. -/
def text (d : Decimal) : String :=
  let cs := Nat.toDigits 10 d.digits
  let zeros (n : Nat) : List Char := List.replicate n '0'
  if 0 ≤ d.exponent then String.ofList (cs ++ zeros d.exponent.toNat)
  else
    let places := (-d.exponent).toNat
    let cs := zeros (places + 1 - cs.length) ++ cs
    let whole := cs.length - places
    String.ofList (cs.take whole ++ '.' :: cs.drop whole)

end Decimal

namespace Double

/-- The two decimals of `count` digits around a double, the nearer one first. Halfway between them
the greater one is first. -/
def neighbours (x : Double) (count : Nat) : List Decimal :=
  let (num, den) := scaleTwo x.significand 1 x.exponent
  let exponent := floorLogTen num den - (count - 1)
  let (n, d) := scaleTen num den (-exponent)
  let below : Decimal := ⟨n / d, exponent⟩
  let above : Decimal :=
    if n / d + 1 = 10 then ⟨1, exponent + 1⟩ else ⟨n / d + 1, exponent⟩
  if 2 * (n % d) < d then [below, above] else [above, below]

/-- The decimal of fewest digits that reads back, the nearest of those. -/
def shortest (x : Double) : Decimal :=
  if x.significand = 0 then ⟨0, 0⟩
  else
    (((List.range 17).flatMap fun i => x.neighbours (i + 1)).find? fun d =>
      d.toDouble? = some x).getD ⟨0, 0⟩

theorem shortest_eq_zero_or_toDouble? (x : Double) :
    x.shortest = ⟨0, 0⟩ ∨ x.shortest.toDouble? = some x := by
  unfold shortest
  split
  · exact .inl rfl
  · generalize h : List.find? _ _ = found
    cases found with
    | none => exact .inl rfl
    | some d => exact .inr (by simpa using List.find?_some h)

end Double

end CrossCall
