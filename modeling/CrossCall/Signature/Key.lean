import CrossCall.Hash.Keccak
import CrossCall.Signature.Curve
import CrossCall.Text.Blank

/-!
# Secret keys

## Main definitions

* `SecretKey` — a number between 1 and the order of the base point
* `SecretKey.address` — the address of the account that a key controls
* `SecretKey.ofText` — reads a key from a text
* `KeyError` — why a text is not a key
-/

namespace CrossCall

/-- A secret key. -/
structure SecretKey where
  scalar : Nat
  positive : 0 < scalar
  below : scalar < Curve.order

/-- Why a text is not a secret key. -/
inductive KeyError
  | hex (cause : HexError)
  | outOfRange
deriving DecidableEq

/-- The text of an error. -/
def KeyError.message : KeyError → String
  | hex cause => cause.message
  | outOfRange => "signature error"

namespace SecretKey

/-- The key that a number stands for. -/
def ofNat? (n : Nat) : Option SecretKey :=
  if h : 0 < n ∧ n < Curve.order then some ⟨n, h.1, h.2⟩ else none

/-- Reads a key from 64 hexadecimal digits. White space around the text and one `0x` are taken off
before the reader of fixed-width texts, which takes off one more, sees it. -/
def ofText (s : String) : Except KeyError SecretKey := do
  let cs := Hex.dropLowerPrefix (Bytes.ofText (trimBlank s))
  let bs ← (Hex.decodeExactChars 32 cs).mapError .hex
  match ofNat? bs.toNat with
  | some key => return key
  | none => throw .outOfRange

/-- The point of the curve that belongs to a key. -/
def publicPoint (key : SecretKey) : Curve.Point := Curve.multiply key.scalar Curve.base

/-- The address of the account that a key controls: the end of the hash of the public point. -/
def address (key : SecretKey) : Address :=
  match key.publicPoint with
  | .zero => 0
  | .affine x y => (keccak256 (Bytes.ofNat 32 x ++ Bytes.ofNat 32 y)).toAddress

end SecretKey

end CrossCall
