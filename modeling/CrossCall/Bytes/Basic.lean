/-!
# Byte strings and the numbers they write

A byte string is a list of bytes. Read most significant byte first it writes a natural number, and a
number has one writing of every sufficient width and one shortest writing.

## Main definitions

* `Bytes` — byte strings
* `Bytes.toNat` — the number that a byte string writes
* `Bytes.ofNat` — the writing of a number in a given number of bytes
* `Bytes.shortest` — the shortest writing of a number, which is empty for zero
* `Bytes.ofBitVec`, `Bytes.toBitVec` — bit vectors as byte strings

## Main results

* `Bytes.ofNat_toNat` — writing what was read gives it back
* `Bytes.toNat_shortest` — the shortest writing reads back
-/

namespace CrossCall

/-- A byte string. -/
abbrev Bytes := List UInt8

namespace Bytes

/-- The number that a byte string writes, most significant byte first. -/
def toNat (bs : Bytes) : Nat := bs.foldl (fun n b => n * 256 + b.toNat) 0

/-- The writing of `n` in `width` bytes; higher digits are dropped. -/
def ofNat : (width n : Nat) → Bytes
  | 0, _ => []
  | width + 1, n => ofNat width (n / 256) ++ [UInt8.ofNat n]

/-- The shortest writing of `n`. -/
def shortest (n : Nat) : Bytes :=
  if n = 0 then [] else shortest (n / 256) ++ [UInt8.ofNat n]
termination_by n
decreasing_by omega

/-- The bytes of a bit vector, most significant first. -/
def ofBitVec {n : Nat} (w : BitVec n) : Bytes := ofNat ((n + 7) / 8) w.toNat

/-- The low `n` bits of the number that a byte string writes. -/
def toBitVec (n : Nat) (bs : Bytes) : BitVec n := BitVec.ofNat n bs.toNat

/-- The bytes `[start, start + count)`, or `none` where the string is shorter. -/
def slice? (bs : Bytes) (start count : Nat) : Option Bytes :=
  if start + count ≤ bs.length then some ((bs.drop start).take count) else none

/-- The first bytes of a text in UTF-8. -/
def ofText (s : String) : Bytes := s.toUTF8.toList

/-! ### Numbers -/

@[simp] theorem toNat_nil : toNat [] = 0 := rfl

@[simp] theorem length_ofNat (width n : Nat) : (ofNat width n).length = width := by
  induction width generalizing n with
  | zero => rfl
  | succ w ih => simp [ofNat, ih]

@[simp] theorem toNat_concat (bs : Bytes) (b : UInt8) :
    toNat (bs ++ [b]) = toNat bs * 256 + b.toNat := by
  simp [toNat]

theorem ofNat_toNat (bs : Bytes) : ofNat bs.length (toNat bs) = bs := by
  induction h : bs.length generalizing bs with
  | zero => simp [List.length_eq_zero_iff.mp h, ofNat]
  | succ n ih =>
    obtain ⟨xs, b, rfl⟩ : ∃ xs b, bs = xs ++ [b] :=
      ⟨bs.dropLast, bs.getLast (by rintro rfl; cases h), (List.dropLast_concat_getLast _).symm⟩
    have hx : xs.length = n := by simpa using h
    have hn := toNat_concat xs b
    have hb : b.toNat < 256 := b.toNat_lt
    rw [ofNat, hn, show (toNat xs * 256 + b.toNat) / 256 = toNat xs by omega, ih xs hx]
    congr 2
    apply UInt8.toNat_inj.mp
    rw [UInt8.toNat_ofNat']
    omega

theorem toNat_shortest (n : Nat) : toNat (shortest n) = n := by
  induction n using Nat.strongRecOn with
  | _ n ih =>
    rw [shortest]
    split
    · simp_all
    · rw [toNat_concat, ih (n / 256) (by omega), UInt8.toNat_ofNat']
      omega

@[simp] theorem length_ofBitVec {n : Nat} (w : BitVec n) : (ofBitVec w).length = (n + 7) / 8 := by
  simp [ofBitVec]

end Bytes

end CrossCall
