import Mathlib
import CrossCall.Proofs.Rlp.Reader

/-!
# One writing for each number and list

A number is written without zeros in front, and a list with its length. So two numbers, or two lists
of byte strings, never have the same writing. For lists this also holds where the length takes one
byte more than there are marks for, and the reader gives up: that mark wraps around to zero, which
is none of the others.

## Main definitions

* `Rlp.IsNumeral` — a byte string is the shortest writing of a number

## Main results

* `Rlp.isNumeral_shortest` — numbers are written in this form
* `Rlp.encodeStrings_injective` — lists with the same writing are the same
-/

namespace CrossCall

/-- The shortest writing of a number does not begin with a zero. -/
theorem Bytes.head?_shortest_ne (n : Nat) : (shortest n).head? ≠ some 0 := by
  induction n using Nat.strongRecOn with
  | _ n ih =>
    rw [shortest]
    split
    · simp
    next hn =>
      by_cases hquot : n / 256 = 0
      · -- A single byte is the number itself.
        have hbyte : UInt8.ofNat n ≠ 0 := by
          intro hzero
          have hvalue := congrArg UInt8.toNat hzero
          rw [UInt8.toNat_ofNat', UInt8.toNat_zero] at hvalue
          omega
        rw [hquot, shortest, if_pos rfl]
        simpa using hbyte
      · have hne : shortest (n / 256) ≠ [] := List.ne_nil_of_length_pos (length_shortest_pos hquot)
        rw [List.head?_append_of_ne_nil _ hne]
        exact ih (n / 256) (by omega)

theorem Bytes.shortest_zero : shortest 0 = [] := by
  rw [shortest, if_pos rfl]

namespace Rlp

/-- A byte string is the shortest writing of a number: nothing for zero, and no zero in front. -/
structure IsNumeral (bs : Bytes) (n : Nat) : Prop where
  toNat_eq : bs.toNat = n
  head_ne : bs.head? ≠ some 0

theorem isNumeral_shortest (n : Nat) : IsNumeral (Bytes.shortest n) n where
  toNat_eq := Bytes.toNat_shortest n
  head_ne := Bytes.head?_shortest_ne n

theorem IsNumeral.unique {bs : Bytes} {m n : Nat} (hm : IsNumeral bs m) (hn : IsNumeral bs n) :
    m = n := hm.toNat_eq.symm.trans hn.toNat_eq

/-! ### Lists -/

/-- A length of up to nine bytes is told by the mark in front of it. -/
theorem exists_header_eq {length : Nat} (h : length < 256 ^ 9) :
    ∃ mark digits, header 0xC0 length = mark :: digits ∧
      digits.length =
        if 0xC0 ≤ mark.toNat ∧ mark.toNat ≤ 0xC0 + 55 then 0 else (mark.toNat + 9) % 256 := by
  rw [header]
  split
  next hshort =>
    refine ⟨_, [], rfl, ?_⟩
    rw [UInt8.toNat_ofNat', if_pos (by omega)]
    rfl
  next hlong =>
    have hle : (Bytes.shortest length).length ≤ 9 := Bytes.length_shortest_le h
    have hpos : 0 < (Bytes.shortest length).length := Bytes.length_shortest_pos (by omega)
    refine ⟨_, Bytes.shortest length, rfl, ?_⟩
    rw [UInt8.toNat_ofNat', if_neg (by omega)]
    omega

theorem encodeBody_injective {body body' : Bytes} (hbody : body.length < 256 ^ 9)
    (hbody' : body'.length < 256 ^ 9) (h : encodeBody body = encodeBody body') : body = body' := by
  obtain ⟨mark, digits, hheader, hdigits⟩ := exists_header_eq hbody
  obtain ⟨mark', digits', hheader', hdigits'⟩ := exists_header_eq hbody'
  rw [encodeBody, encodeBody, hheader, hheader', List.cons_append, List.cons_append] at h
  obtain ⟨rfl, hrest⟩ := List.cons.inj h
  exact (List.append_inj hrest (hdigits.trans hdigits'.symm)).2

theorem length_encodeString_le {s : Bytes} (hs : s.length < 2 ^ 64) :
    (encodeString s).length ≤ s.length + 9 := by
  have hheader : (header 0x80 s.length).length ≤ 9 := by
    rw [header]
    split
    · simp
    · have hle : (Bytes.shortest s.length).length ≤ 8 := Bytes.length_shortest_le (k := 8) hs
      rw [List.length_cons]
      omega
  rw [encodeString.eq_def]
  split
  · split <;> simp
  · rw [List.length_append]
    omega

theorem length_encodeAll_le {items : List Bytes} (hitems : ∀ s ∈ items, s.length < 2 ^ 64) :
    (encodeAll (items.map string)).length ≤ items.length * (2 ^ 64 + 9) := by
  rw [encodeAll_map_string, List.length_flatten, List.map_map, ← smul_eq_mul]
  refine (List.sum_le_card_nsmul _ (2 ^ 64 + 9) fun n hn => ?_).trans_eq (by rw [List.length_map])
  obtain ⟨s, hs, rfl⟩ := List.mem_map.mp hn
  have hlength := hitems s hs
  exact (length_encodeString_le hlength).trans (by omega)

/-- Lists of byte strings with the same writing are the same. -/
theorem encodeStrings_injective {items items' : List Bytes}
    (hitems : ∀ s ∈ items, s.length < 2 ^ 64) (hcount : items.length < 256)
    (hitems' : ∀ s ∈ items', s.length < 2 ^ 64) (hcount' : items'.length < 256)
    (h : encodeStrings items = encodeStrings items') : items = items' := by
  have hbound : ∀ {items : List Bytes}, (∀ s ∈ items, s.length < 2 ^ 64) → items.length < 256 →
      (encodeAll (items.map string)).length < 256 ^ 9 := by
    intro items hitems hcount
    have hle := length_encodeAll_le hitems
    omega
  rw [encodeStrings, encodeStrings, encode, encode] at h
  have hbody := encodeBody_injective (hbound hitems hcount) (hbound hitems' hcount') h
  have hread := readStrings?_encodeAll hitems (Nat.le_max_left items.length items'.length)
  rw [hbody, readStrings?_encodeAll hitems' (Nat.le_max_right items.length items'.length)] at hread
  exact (Option.some.inj hread).symm

end Rlp

end CrossCall
