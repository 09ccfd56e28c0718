import CrossCall.Word

/-!
# Keccak-256

The sponge over the permutation of 25 lanes of 64 bits, with a rate of 136 bytes, the
padding `1 0…0 1` and an output of 32 bytes.

## Main definitions

* `Keccak.permute` — the permutation, 24 rounds
* `keccak256` — the hash of a byte string
* `Address.checksummed` — the text of an address whose letter cases carry a check
-/

namespace CrossCall

namespace Keccak

/-- Twenty-five lanes; lane `(x, y)` stands at `x + 5 * y`. -/
abbrev State := Vector UInt64 25

/-- The round constants. -/
def roundConstants : List UInt64 :=
  [0x0000000000000001, 0x0000000000008082, 0x800000000000808A, 0x8000000080008000,
   0x000000000000808B, 0x0000000080000001, 0x8000000080008081, 0x8000000000008009,
   0x000000000000008A, 0x0000000000000088, 0x0000000080008009, 0x000000008000000A,
   0x000000008000808B, 0x800000000000008B, 0x8000000000008089, 0x8000000000008003,
   0x8000000000008002, 0x8000000000000080, 0x000000000000800A, 0x800000008000000A,
   0x8000000080008081, 0x8000000000008080, 0x0000000080000001, 0x8000000080008008]

/-- By how many bits each lane is rotated. -/
def rotations : Vector UInt64 25 :=
  #v[0, 1, 62, 28, 27, 36, 44, 6, 55, 20, 3, 10, 43, 25, 39, 41, 45, 15, 21, 8, 18, 2, 61, 56, 14]

/-- Rotation to the left by fewer than 64 bits. -/
def rotateLeft (w k : UInt64) : UInt64 := if k = 0 then w else (w <<< k) ||| (w >>> (64 - k))

/-- The lane at column `x` and row `y`, both taken modulo five. -/
def lane (s : State) (x y : Nat) : UInt64 := s[x % 5 + 5 * (y % 5)]

/-- Adds to each lane the parities of two neighbouring columns. -/
def theta (s : State) : State :=
  let parity := Vector.ofFn fun x : Fin 5 =>
    lane s x 0 ^^^ lane s x 1 ^^^ lane s x 2 ^^^ lane s x 3 ^^^ lane s x 4
  Vector.ofFn fun i : Fin 25 =>
    s[i] ^^^ parity[(i.val + 4) % 5] ^^^ rotateLeft parity[(i.val + 1) % 5] 1

/-- Rotates each lane and moves lane `(x, y)` to `(y, 2x + 3y)`. -/
def rhoPi (s : State) : State :=
  Vector.ofFn fun i : Fin 25 =>
    let j : Fin 25 := ⟨(i.val % 5 + 3 * (i.val / 5)) % 5 + 5 * (i.val % 5), by omega⟩
    rotateLeft s[j] rotations[j]

/-- Combines each lane with the next two of its row. -/
def chi (s : State) : State :=
  Vector.ofFn fun i : Fin 25 =>
    lane s i.val (i.val / 5) ^^^
      (~~~ (lane s (i.val + 1) (i.val / 5)) &&& lane s (i.val + 2) (i.val / 5))

/-- One round with its constant. -/
def round (s : State) (constant : UInt64) : State :=
  let t := chi (rhoPi (theta s))
  t.set 0 (t[0] ^^^ constant)

/-- The permutation. -/
def permute (s : State) : State := roundConstants.foldl round s

/-- The number of bytes absorbed before each permutation. -/
def rate : Nat := 136

/-- The lane written by eight bytes, least significant first. -/
def laneOfBytes (bs : Bytes) : UInt64 := bs.foldr (fun b n => n * 256 + b.toUInt64) 0

/-- Adds a block to the first lanes and permutes. -/
def absorbBlock (s : State) (block : Bytes) : State :=
  permute (Vector.ofFn fun i : Fin 25 =>
    s[i] ^^^ laneOfBytes ((block.drop (8 * i.val)).take 8))

/-- Fills the last, incomplete block. -/
def pad (bs : Bytes) : Bytes :=
  if bs.length + 1 = rate then bs ++ [0x81]
  else bs ++ 0x01 :: List.replicate (rate - bs.length - 2) 0 ++ [0x80]

/-- Absorbs a message block by block. -/
def absorb (s : State) (bs : Bytes) : State :=
  if bs.length < rate then absorbBlock s (pad bs)
  else absorb (absorbBlock s (bs.take rate)) (bs.drop rate)
termination_by bs.length
decreasing_by simp [rate] at *; omega

/-- The bytes of a lane, least significant first. -/
def laneBytes (w : UInt64) : Bytes :=
  (List.range 8).map fun i => (w >>> UInt64.ofNat (8 * i)).toUInt8

end Keccak

/-- The Keccak-256 hash of a byte string. -/
def keccak256 (bs : Bytes) : Word :=
  let s := Keccak.absorb (Vector.replicate 25 0) bs
  Bytes.toBitVec 256
    (Keccak.laneBytes s[0] ++ Keccak.laneBytes s[1] ++ Keccak.laneBytes s[2] ++
      Keccak.laneBytes s[3])

/-- The text of an address in which a letter is upper-case where the digit of the same place in the
hash of the lower-case digits is eight or more. -/
def Address.checksummed (a : Address) : String :=
  let digits := Hex.encodeDigits (Bytes.ofBitVec a)
  let marks := Hex.encodeDigits (Bytes.ofBitVec (keccak256 digits))
  let letters := (digits.zip marks).map fun (d, m) =>
    let c := Char.ofNat d.toNat
    if (Hex.digit? m).any (8 ≤ ·) then c.toUpper else c
  "0x" ++ String.ofList letters

end CrossCall
