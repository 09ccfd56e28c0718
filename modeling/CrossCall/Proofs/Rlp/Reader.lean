import Mathlib
import CrossCall.Bytes.Lemmas
import CrossCall.Rlp

/-!
# Reading length prefixes back

Transactions, headers and proof nodes are lists of byte strings. The reader of such a list follows
the length in front of each part. A list whose writing is shorter than `2 ^ 64` bytes reads back; a
longer one would need a length of more than eight bytes, for which there is no mark.

## Main definitions

* `Rlp.readBody?` — the body behind a mark, and what follows it
* `Rlp.readString?` — the byte string in front, and what follows it
* `Rlp.strings?` — the byte strings of a list

## Main results

* `Rlp.strings?_encodeStrings` — a list of byte strings reads back
-/

namespace CrossCall

namespace Bytes

theorem length_shortest_le {n k : Nat} (h : n < 256 ^ k) : (shortest n).length ≤ k := by
  induction k generalizing n with
  | zero =>
    obtain rfl : n = 0 := by simpa using h
    simp [shortest]
  | succ k ih =>
    rw [shortest]
    split
    · simp
    · rw [Nat.pow_succ] at h
      have := ih (n := n / 256) (by omega)
      simp [this]

theorem length_shortest_pos {n : Nat} (h : n ≠ 0) : 0 < (shortest n).length := by
  rw [shortest, if_neg h]
  simp

end Bytes

namespace Rlp

/-- So many bytes, and what follows them. -/
def take? (count : Nat) (bs : Bytes) : Option (Bytes × Bytes) :=
  if count ≤ bs.length then some (bs.take count, bs.drop count) else none

/-- The body behind a mark and its length, and what follows it; `short` is the mark of an empty
body. -/
def readBody? (short : Nat) : Bytes → Option (Bytes × Bytes)
  | [] => none
  | mark :: bs =>
    if mark.toNat < short then none
    else if mark.toNat ≤ short + 55 then take? (mark.toNat - short) bs
    else if mark.toNat ≤ short + 63 then do
      let (digits, rest) ← take? (mark.toNat - (short + 55)) bs
      take? digits.toNat rest
    else none

/-- The byte string in front, and what follows it. -/
def readString? : Bytes → Option (Bytes × Bytes)
  | [] => none
  | b :: bs => if b < 128 then some ([b], bs) else readBody? 0x80 (b :: bs)

/-- At most `count` byte strings, of which nothing may be left. -/
def readStrings? : (count : Nat) → Bytes → Option (List Bytes)
  | _, [] => some []
  | 0, _ :: _ => none
  | count + 1, b :: bs => do
    let (s, rest) ← readString? (b :: bs)
    let ss ← readStrings? count rest
    return s :: ss

/-- The byte strings of a list that nothing follows. Each of them takes a byte at least. -/
def strings? (bs : Bytes) : Option (List Bytes) := do
  let (body, rest) ← readBody? 0xC0 bs
  if rest = [] then readStrings? body.length body else none

/-! ### One part -/

theorem take?_append (xs ys : Bytes) : take? xs.length (xs ++ ys) = some (xs, ys) := by
  simp [take?]

theorem readBody?_header {short : Nat} (hshort : short ≤ 0xC0) {body : Bytes}
    (hbody : body.length < 2 ^ 64) (rest : Bytes) :
    readBody? short (header short body.length ++ body ++ rest) = some (body, rest) := by
  rw [header]
  split
  next hlength =>
    have hmark : (UInt8.ofNat (short + body.length)).toNat = short + body.length := by
      rw [UInt8.toNat_ofNat']
      omega
    simp only [List.cons_append, List.nil_append, readBody?, hmark]
    rw [if_neg (by omega), if_pos (by omega), Nat.add_sub_cancel_left, take?_append]
  next hlength =>
    -- The length itself takes between one and eight bytes.
    have hle : (Bytes.shortest body.length).length ≤ 8 := Bytes.length_shortest_le (k := 8) hbody
    have hpos : 0 < (Bytes.shortest body.length).length := Bytes.length_shortest_pos (by omega)
    have hmark : (UInt8.ofNat (short + 55 + (Bytes.shortest body.length).length)).toNat =
        short + 55 + (Bytes.shortest body.length).length := by
      rw [UInt8.toNat_ofNat']
      omega
    simp only [List.cons_append, List.append_assoc, readBody?, hmark]
    rw [if_neg (by omega), if_neg (by omega), if_pos (by omega), Nat.add_sub_cancel_left,
      take?_append]
    simp only [Option.bind_eq_bind, Option.bind_some, Bytes.toNat_shortest, take?_append]

theorem header_ne_nil (short length : Nat) : header short length ≠ [] := by
  rw [header]
  split <;> simp

theorem encodeString_ne_nil (s : Bytes) : encodeString s ≠ [] := by
  rw [encodeString.eq_def]
  split
  · split <;> simp
  · simp [header_ne_nil]

/-- The mark of a byte string is not below 128. -/
theorem readString?_header {s : Bytes} (hs : s.length < 2 ^ 64) (rest : Bytes) :
    readString? (header 0x80 s.length ++ s ++ rest) = some (s, rest) := by
  have hbody := readBody?_header (show 0x80 ≤ 0xC0 by decide) hs rest
  cases hbytes : header 0x80 s.length ++ s ++ rest with
  | nil => simp [header_ne_nil] at hbytes
  | cons b bs =>
    rw [hbytes] at hbody
    have hmark : ¬ b < 128 := by
      intro hb
      have hlt : b.toNat < 0x80 := hb
      simp [readBody?, hlt] at hbody
    rw [readString?, if_neg hmark, hbody]

theorem readString?_encodeString {s : Bytes} (hs : s.length < 2 ^ 64) (rest : Bytes) :
    readString? (encodeString s ++ rest) = some (s, rest) := by
  rw [encodeString.eq_def]
  split
  next b =>
    split
    next hb => simp [readString?, hb]
    next hb => exact readString?_header (s := [b]) hs rest
  next => exact readString?_header hs rest

/-! ### Lists of byte strings -/

theorem encodeAll_map_string (items : List Bytes) :
    encodeAll (items.map string) = (items.map encodeString).flatten := by
  induction items with
  | nil => rfl
  | cons s items ih => simp [encodeAll, encode, ih]

theorem length_le_length_encodeString (s : Bytes) : s.length ≤ (encodeString s).length := by
  rw [encodeString.eq_def]
  split
  · split <;> simp
  · simp

theorem readStrings?_encodeAll {items : List Bytes} (hitems : ∀ s ∈ items, s.length < 2 ^ 64)
    {count : Nat} (hcount : items.length ≤ count) :
    readStrings? count (encodeAll (items.map string)) = some items := by
  induction items generalizing count with
  | nil => cases count <;> rfl
  | cons s items ih =>
    obtain ⟨count, rfl⟩ : ∃ k, count = k + 1 := ⟨count - 1, by simp at hcount; omega⟩
    have hread := readString?_encodeString (hitems s (by simp)) (encodeAll (items.map string))
    have hrest := ih (fun t ht => hitems t (List.mem_cons_of_mem s ht))
      (show items.length ≤ count by simpa using hcount)
    rw [List.map_cons, encodeAll, encode]
    cases hbytes : encodeString s ++ encodeAll (items.map string) with
    | nil => simp [encodeString_ne_nil] at hbytes
    | cons b bs =>
      rw [hbytes] at hread
      simp only [readStrings?, hread, Option.bind_eq_bind, Option.bind_some, hrest]
      rfl

/-- A list of byte strings reads back. -/
theorem strings?_encodeStrings {items : List Bytes} (h : (encodeStrings items).length < 2 ^ 64) :
    strings? (encodeStrings items) = some items := by
  rw [encodeStrings, encode, encodeBody] at h ⊢
  set body := encodeAll (items.map string) with hbody
  have hlength : body.length < 2 ^ 64 := by
    simp only [List.length_append] at h
    omega
  have hall : body = (items.map encodeString).flatten := encodeAll_map_string items
  have hitems : ∀ s ∈ items, s.length < 2 ^ 64 := by
    intro s hs
    have hle := List.Sublist.length_le
      (List.sublist_flatten_of_mem (List.mem_map_of_mem (f := encodeString) hs))
    rw [← hall] at hle
    have := length_le_length_encodeString s
    omega
  have hcount : items.length ≤ body.length := by
    rw [hall, List.length_flatten, List.map_map]
    calc items.length = (items.map fun _ => 1).sum := by simp
      _ ≤ (items.map (List.length ∘ encodeString)).sum :=
        List.sum_le_sum fun s _ => List.length_pos_of_ne_nil (encodeString_ne_nil s)
  have hread := readBody?_header (Nat.le_refl 0xC0) hlength []
  rw [List.append_nil] at hread
  simp only [strings?, hread, Option.bind_eq_bind, Option.bind_some, ↓reduceIte]
  exact readStrings?_encodeAll hitems hcount

end Rlp

end CrossCall
