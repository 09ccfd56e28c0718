import CrossCall.Hash.Sha256
import CrossCall.Signature.Key

/-!
# Signatures

A signature of a digest needs a number that nobody else can guess. It is derived from the key and
the digest by a keyed hash, so that signing is a function.

## Main definitions

* `Signature` — two numbers and the parity that tells which public point made them
* `SecretKey.sign` — the signature of a digest, with the smaller of the two possible `s`
-/

namespace CrossCall

/-- A signature. -/
structure Signature where
  r : Nat
  s : Nat
  odd : Bool
deriving DecidableEq

namespace Signature

/-- The state from which candidates are drawn. -/
structure Generator where
  key : Bytes
  value : Bytes

namespace Generator

/-- Mixes data into the state under a separating byte. -/
def mix (g : Generator) (separator : UInt8) (data : Bytes) : Generator :=
  let key := hmac g.key (g.value ++ separator :: data)
  { key, value := hmac key g.value }

/-- The state for a secret number and a digest, both in full width. -/
def seeded (secret digest : Bytes) : Generator :=
  let g : Generator := { key := List.replicate 32 0, value := List.replicate 32 1 }
  (g.mix 0 (secret ++ digest)).mix 1 (secret ++ digest)

/-- The next candidate. -/
def draw (g : Generator) : Nat × Generator :=
  let value := hmac g.key g.value
  (value.toNat, { g with value })

end Generator

/-- The signature of the digest `z` by the secret number `d` with the number `k`, unless `k` does
not serve. Of `s` and its negative the smaller is taken, which flips the parity. -/
def withNumber? (d z k : Nat) : Option Signature :=
  if k = 0 ∨ Curve.order ≤ k then none
  else
    match Curve.multiply k Curve.base with
    | .zero => none
    | .affine x y =>
      let r := x % Curve.order
      let s := Curve.inverse Curve.order k * (z + r * d) % Curve.order
      if r = 0 ∨ s = 0 then none
      else if s ≤ Curve.halfOrder then some { r, s, odd := y % 2 = 1 }
      else some { r, s := Curve.order - s, odd := y % 2 = 0 }

/-- Tries candidates until one serves; all but the first are out of practical reach. -/
def search (d z : Nat) : (attempts : Nat) → Generator → Signature
  | 0, _ => { r := 0, s := 0, odd := false }
  | attempts + 1, g =>
    let (k, g) := g.draw
    match withNumber? d z k with
    | some signature => signature
    | none => search d z attempts (g.mix 0 [])

end Signature

/-- The signature of a digest. -/
def SecretKey.sign (key : SecretKey) (digest : Word) : Signature :=
  let z := digest.toNat % Curve.order
  Signature.search key.scalar z 64
    (Signature.Generator.seeded (Bytes.ofNat 32 key.scalar) (Bytes.ofNat 32 z))

end CrossCall
