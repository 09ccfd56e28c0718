import Mathlib
import CrossCall.Bytes.Basic

/-!
# Positional notation

The bytes of a string are the digits of its number to the base 256. A number that is written in so
many bytes reads back up to the power of 256 that these bytes reach, so a bit vector reads back
whole.

## Main results

* `Bytes.toNat_append` — the number of two strings, one after the other
* `Bytes.toNat_lt` — a bound on the number of a string
* `Bytes.toNat_ofNat` — reading what was written gives the number back, up to its width
* `Bytes.toNat_ofBitVec`, `Bytes.toBitVec_ofBitVec` — a bit vector reads back
* `Bytes.ofBitVec_toBitVec` — a short string is written with zeros in front of it
-/

namespace CrossCall.Bytes

private theorem foldl_eq (bs : Bytes) (n : Nat) :
    bs.foldl (fun n b => n * 256 + b.toNat) n = n * 256 ^ bs.length + toNat bs := by
  induction bs generalizing n with
  | nil => simp [toNat]
  | cons b bs ih =>
    simp only [toNat, List.foldl_cons, List.length_cons]
    rw [ih, ih (0 * 256 + b.toNat)]
    rw [Nat.pow_succ]
    grind

theorem toNat_cons (b : UInt8) (bs : Bytes) :
    toNat (b :: bs) = b.toNat * 256 ^ bs.length + toNat bs := by
  simp [toNat, foldl_eq bs (b.toNat)]

theorem toNat_append (xs ys : Bytes) :
    toNat (xs ++ ys) = toNat xs * 256 ^ ys.length + toNat ys := by
  simp only [toNat, List.foldl_append]
  exact foldl_eq ys _

theorem toNat_lt (bs : Bytes) : toNat bs < 256 ^ bs.length := by
  induction bs with
  | nil => simp
  | cons b bs ih =>
    rw [toNat_cons, List.length_cons, Nat.pow_succ]
    have hb : b.toNat + 1 ≤ 256 := b.toNat_lt
    have := Nat.mul_le_mul_right (256 ^ bs.length) hb
    rw [Nat.add_mul] at this
    omega

theorem toNat_ofNat (width n : Nat) : toNat (ofNat width n) = n % 256 ^ width := by
  induction width generalizing n with
  | zero => simp [ofNat, Nat.mod_one]
  | succ w ih =>
    rw [ofNat, toNat_concat, ih, Nat.pow_succ', Nat.mod_mul, Nat.mul_comm 256, UInt8.toNat_ofNat']
    omega

theorem toNat_toBitVec (n : Nat) (bs : Bytes) : (toBitVec n bs).toNat = toNat bs % 2 ^ n :=
  BitVec.toNat_ofNat _ _

/-- The bytes of a bit vector hold its whole number. -/
theorem toNat_ofBitVec {n : Nat} (w : BitVec n) : toNat (ofBitVec w) = w.toNat := by
  have h : w.toNat < 256 ^ ((n + 7) / 8) := by
    refine Nat.lt_of_lt_of_le w.isLt ?_
    rw [show (256 : Nat) = 2 ^ 8 from rfl, ← Nat.pow_mul]
    exact Nat.pow_le_pow_right (by decide) (by omega)
  rw [ofBitVec, toNat_ofNat, Nat.mod_eq_of_lt h]

theorem toBitVec_ofBitVec {n : Nat} (w : BitVec n) : toBitVec n (ofBitVec w) = w := by
  apply BitVec.eq_of_toNat_eq
  rw [toNat_toBitVec, toNat_ofBitVec, Nat.mod_eq_of_lt w.isLt]

theorem toNat_replicate_zero_append (count : Nat) (bs : Bytes) :
    toNat (List.replicate count 0 ++ bs) = toNat bs := by
  induction count with
  | zero => rfl
  | succ count ih =>
    rw [List.replicate_succ, List.cons_append, toNat_cons, ih]
    simp

/-- A short string that was read as a bit vector is written with zeros in front of it. -/
theorem ofBitVec_toBitVec {n : Nat} {bs : Bytes} (h : 8 * bs.length ≤ n) :
    ofBitVec (toBitVec n bs) = List.replicate ((n + 7) / 8 - bs.length) 0 ++ bs := by
  have hlt : toNat bs < 2 ^ n := by
    refine Nat.lt_of_lt_of_le (toNat_lt bs) ?_
    rw [show (256 : Nat) = 2 ^ 8 from rfl, ← Nat.pow_mul]
    exact Nat.pow_le_pow_right (by decide) h
  have hlength : (List.replicate ((n + 7) / 8 - bs.length) 0 ++ bs).length = (n + 7) / 8 := by
    rw [List.length_append, List.length_replicate]
    omega
  have hwritten := ofNat_toNat (List.replicate ((n + 7) / 8 - bs.length) 0 ++ bs)
  rw [hlength, toNat_replicate_zero_append] at hwritten
  rw [ofBitVec, toNat_toBitVec, Nat.mod_eq_of_lt hlt, hwritten]

end CrossCall.Bytes
