import CrossCall.Text.Decimal

/-!
# Numbers in configuration files

A number is a whole word. Single underscores may stand between its digits.

## Main definitions

* `Toml.integer?` — an integer of 64 bits
* `Toml.isFraction` — whether a word is a number that is not an integer
-/

namespace CrossCall.Toml

/-- The number that digits of a base write, in which single underscores may stand between digits. -/
def digits? (base : Nat) (afterDigit : Bool) (n : Nat) : List Char → Option Nat
  | [] => if afterDigit then some n else none
  | '_' :: cs => if afterDigit then digits? base false n cs else none
  | c :: cs => do
    let d ← digitValue? base c
    digits? base true (n * base + d) cs

/-- Digits without a leading zero. -/
def decimal? : List Char → Option Nat
  | ['0'] => some 0
  | '0' :: _ => none
  | cs => digits? 10 false 0 cs

/-- An integer of 64 bits, with a sign in base ten only. -/
def integer? (cs : List Char) : Option Int := do
  let i : Int ←
    match cs with
    | '0' :: 'x' :: cs => (digits? 16 false 0 cs).map Int.ofNat
    | '0' :: 'o' :: cs => (digits? 8 false 0 cs).map Int.ofNat
    | '0' :: 'b' :: cs => (digits? 2 false 0 cs).map Int.ofNat
    | '-' :: cs => (decimal? cs).map fun n => -(n : Int)
    | '+' :: cs => (decimal? cs).map Int.ofNat
    | cs => (decimal? cs).map Int.ofNat
  if (BitVec.ofInt 64 i).toInt = i then some i else none

/-- What a sign stands in front of. -/
def dropSign : List Char → List Char
  | '+' :: cs => cs
  | '-' :: cs => cs
  | cs => cs

/-- Whether a word is a number with a fraction, an exponent or both, or the word for what is not
finite or no number. The whole part has no leading zero. What is past the greatest double needs a
minus sign. -/
def isFraction (cs : List Char) : Bool :=
  let isLetter (c : Char) : Bool := c = 'e' || c = 'E'
  let unsigned := dropSign cs
  let mantissa := unsigned.takeWhile (!isLetter ·)
  let whole := mantissa.takeWhile (· ≠ '.')
  let fraction := mantissa.dropWhile (· ≠ '.')
  let exponent := unsigned.dropWhile (!isLetter ·)
  let isPart (part : List Char) : Bool := part.isEmpty || (digits? 10 false 0 (part.drop 1)).isSome
  let isPower := exponent.isEmpty || (digits? 10 false 0 (dropSign (exponent.drop 1))).isSome
  let isFinite := (Decimal.parse? (unsigned.filter (· ≠ '_'))).any fun d => d.toDouble?.isSome
  unsigned = ['i', 'n', 'f'] || unsigned = ['n', 'a', 'n'] ||
    ((decimal? whole).isSome && isPart fraction && isPower &&
      !(fraction.isEmpty && exponent.isEmpty) && (isFinite || cs.head? = some '-'))

end CrossCall.Toml
