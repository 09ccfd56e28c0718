import CrossCall.Bytes.Basic
import CrossCall.Text.Number

/-!
# Percent bytes

A character that cannot stand in some part of a URL is written as its bytes, each as a percent sign
and two digits.

## Main definitions

* `percentEncode` — writes the characters that cannot stand as percent bytes
* `percentDecode` — the bytes of a text with percent bytes
-/

namespace CrossCall

/-- A byte as a percent sign and two digits. -/
def percentByte (b : UInt8) : List Char :=
  '%' :: (Nat.toDigits 16 (256 + b.toNat)).tail.map Char.toUpper

/-- A text in which the reserved characters, and all that are not printed characters of ASCII, are
percent bytes. A blank is a printed character. -/
def percentEncode (reserved : String) (cs : List Char) : List Char :=
  cs.flatMap fun c =>
    if c.toNat < 32 ∨ 127 ≤ c.toNat ∨ reserved.contains c then
      (Bytes.ofText (String.singleton c)).flatMap percentByte
    else [c]

/-- The bytes of a text in which some are percent bytes. -/
def percentDecode : List Char → Bytes
  | [] => []
  | '%' :: a :: b :: cs =>
    match number? 16 [a, b] with
    | some n => UInt8.ofNat n :: percentDecode cs
    | none => UInt8.ofNat 37 :: percentDecode (a :: b :: cs)
  | c :: cs => Bytes.ofText (String.singleton c) ++ percentDecode cs

/-- The text with percent bytes replaced, if the bytes are those of a text. -/
def percentDecodeText? (cs : List Char) : Option String :=
  String.fromUTF8? (ByteArray.mk (percentDecode cs).toArray)

end CrossCall
