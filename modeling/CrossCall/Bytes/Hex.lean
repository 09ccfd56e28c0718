import CrossCall.Bytes.Basic

/-!
# Hexadecimal texts

Bytes are written as two lower-case digits each. Three readers are used, from strict to lenient:
`Hex.decode` wants an even number of characters and takes one leading `0x`, `Hex.decodeExact`
wants a given number of bytes besides, and `Hex.decodePadded` supplies a missing first digit, as
chain nodes leave out leading zeros.

## Main definitions

* `Hex.encode`, `Bytes.hex` — the digits of a byte string, without and with `0x`
* `Hex.decode`, `Hex.decodeExact`, `Hex.decodePadded` — the readers
* `HexError` — why a text is refused

## Main results

* `Hex.decodeDigits_encodeDigits` — reading the digits of a byte string gives it back
-/

namespace CrossCall

/-- Why a text is not the hexadecimal writing of a byte string. -/
inductive HexError
  | oddLength
  | wrongLength
  | badCharacter (c : UInt8) (position : Nat)
deriving DecidableEq

namespace Hex

/-- The lower-case digit of a number below sixteen. -/
def digit (n : Nat) : UInt8 := if n < 10 then UInt8.ofNat (48 + n) else UInt8.ofNat (87 + n)

/-- The number of a hexadecimal digit of either case. -/
def digit? (c : UInt8) : Option Nat :=
  if 48 ≤ c ∧ c ≤ 57 then some (c.toNat - 48)
  else if 97 ≤ c ∧ c ≤ 102 then some (c.toNat - 87)
  else if 65 ≤ c ∧ c ≤ 70 then some (c.toNat - 55)
  else none

/-- The two digits of each byte, as ASCII codes. -/
def encodeDigits : Bytes → Bytes
  | [] => []
  | b :: bs => digit (b.toNat / 16) :: digit (b.toNat % 16) :: encodeDigits bs

/-- The text of a byte string, two digits a byte. -/
def encode (bs : Bytes) : String :=
  String.ofList ((encodeDigits bs).map fun c => Char.ofNat c.toNat)

/-- Reads pairs of digits; `position` counts the characters before them. -/
def decodeDigits (position : Nat) : Bytes → Except HexError Bytes
  | [] => .ok []
  | [_] => .error .oddLength
  | hi :: lo :: rest =>
    match digit? hi, digit? lo with
    | none, _ => .error (.badCharacter hi position)
    | some _, none => .error (.badCharacter lo (position + 1))
    | some h, some l => do
      let bs ← decodeDigits (position + 2) rest
      return UInt8.ofNat (h * 16 + l) :: bs

/-- The characters without one leading `0x` or `0X`. -/
def dropPrefix : Bytes → Bytes
  | 48 :: 120 :: rest => rest
  | 48 :: 88 :: rest => rest
  | cs => cs

/-- Reads an even number of characters, of which the first two may be `0x` or `0X`. -/
def decodeChars (cs : Bytes) : Except HexError Bytes :=
  if cs.length % 2 = 1 then .error .oddLength else decodeDigits 0 (dropPrefix cs)

/-- Reads a text; see `decodeChars`. -/
def decode (s : String) : Except HexError Bytes := decodeChars (Bytes.ofText s)

/-- Reads a text of exactly `width` bytes. The number of digits is looked at before the digits. -/
def decodeExactChars (width : Nat) (cs : Bytes) : Except HexError Bytes :=
  if cs.length % 2 = 1 then .error .oddLength
  else if (dropPrefix cs).length ≠ 2 * width then .error .wrongLength
  else decodeDigits 0 (dropPrefix cs)

/-- Reads a text of exactly `width` bytes. -/
def decodeExact (width : Nat) (s : String) : Except HexError Bytes :=
  decodeExactChars width (Bytes.ofText s)

/-- The characters without one leading `0x`. -/
def dropLowerPrefix : Bytes → Bytes
  | 48 :: 120 :: rest => rest
  | cs => cs

/-- Reads the text of a node's answer: after one leading `0x`, an odd number of characters is made
even by a `0` in front. -/
def decodePadded (s : String) : Except HexError Bytes :=
  let cs := dropLowerPrefix (Bytes.ofText s)
  decodeChars (if cs.length % 2 = 1 then 48 :: cs else cs)

/-- The digits of a number as a node writes them, without leading zeros. -/
def quantity (n : Nat) : String := "0x" ++ String.ofList (Nat.toDigits 16 n)

/-! ### Digits -/

theorem digit?_digit {n : Nat} (h : n < 16) : digit? (digit n) = some n := by
  revert n
  decide

theorem decodeDigits_encodeDigits (position : Nat) (bs : Bytes) :
    decodeDigits position (encodeDigits bs) = .ok bs := by
  induction bs generalizing position with
  | nil => rfl
  | cons b bs ih =>
    have hb : b.toNat < 256 := b.toNat_lt
    have hhi := digit?_digit (n := b.toNat / 16) (by omega)
    have hlo := digit?_digit (n := b.toNat % 16) (by omega)
    simp only [encodeDigits, decodeDigits, hhi, hlo, ih, bind, Except.bind, pure, Except.pure]
    rw [show b.toNat / 16 * 16 + b.toNat % 16 = b.toNat by omega, UInt8.ofNat_toNat]

@[simp] theorem length_encodeDigits (bs : Bytes) : (encodeDigits bs).length = 2 * bs.length := by
  induction bs with
  | nil => rfl
  | cons b bs ih => simp [encodeDigits, ih]; omega

end Hex

/-- The text of a byte string, with `0x` in front. -/
def Bytes.hex (bs : Bytes) : String := "0x" ++ Hex.encode bs

/-- The character with a given code in quotes: the usual short escapes, and the code in braces for
what cannot be printed. -/
def quotedCharacter (c : UInt8) : String :=
  let body :=
    match c.toNat with
    | 0 => "\\0"
    | 9 => "\\t"
    | 10 => "\\n"
    | 13 => "\\r"
    | 39 => "\\'"
    | 92 => "\\\\"
    | n =>
      if n < 32 ∨ (127 ≤ n ∧ n ≤ 160) ∨ n = 173 then
        "\\u\x7b" ++ String.ofList (Nat.toDigits 16 n) ++ "\x7d"
      else String.singleton (Char.ofNat n)
  "'" ++ body ++ "'"

/-- The text of a refusal. -/
def HexError.message : HexError → String
  | .oddLength => "odd number of digits"
  | .wrongLength => "invalid string length"
  | .badCharacter c position => s!"invalid character {quotedCharacter c} at position {position}"

end CrossCall
