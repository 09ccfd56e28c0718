import Mathlib
import CrossCall.Data.Basic
import CrossCall.Proofs.Bytes.Hexadecimal

/-!
# Reading values off trees

The readers of single values undo their writers. A record is read by the names of its fields, so it
may be handed on with its fields in another order: what is read off it stays the same.

## Main definitions

* `Data.Agrees` — two trees differ at most in the order of the fields of their records
* `Data.Finds` — a reader finds a value in a tree and in all trees that agree with it

## Main results

* `Bytes.ofText_hex` — the characters of a byte string's text
* `Data.agrees_of_perm` — fields may be put in any order
* `Data.finds_ofFixed`, `Data.finds_ofBits`, `Data.finds_ofBytes` — single values are found where they
  were written
* `Data.finds_listOf?`, `Data.finds_record` — so is what consists of such values
-/

namespace CrossCall

/-! ### Hexadecimal texts -/

namespace Hex

theorem toNat_digit_lt {n : Nat} (h : n < 16) : (digit n).toNat < 128 := by
  revert n
  decide

theorem toNat_lt_of_mem_encodeDigits {bs : Bytes} {c : UInt8} (h : c ∈ encodeDigits bs) :
    c.toNat < 128 := by
  induction bs with
  | nil => cases h
  | cons b bs ih =>
    have hb : b.toNat < 256 := b.toNat_lt
    rw [encodeDigits, List.mem_cons, List.mem_cons] at h
    rcases h with rfl | rfl | h
    · exact toNat_digit_lt (by omega)
    · exact toNat_digit_lt (by omega)
    · exact ih h

/-- The digits of a text are bytes of it. -/
theorem ofText_encode (bs : Bytes) : Bytes.ofText (encode bs) = encodeDigits bs := by
  have hbytes : ∀ cs : Bytes, (∀ c ∈ cs, c.toNat < 128) →
      (cs.map fun c => Char.ofNat c.toNat).flatMap String.utf8EncodeChar = cs := by
    intro cs hcs
    induction cs with
    | nil => rfl
    | cons c cs ih =>
      obtain ⟨hc, hrest⟩ := List.forall_mem_cons.mp hcs
      have hchar : (Char.ofNat c.toNat).toNat = c.toNat := by
        rw [Char.toNat_ofNat, if_pos (.inl (by omega))]
      rw [List.map_cons, List.flatMap_cons, ih hrest, utf8EncodeChar_of_lt (hchar.trans_lt hc), hchar,
        UInt8.ofNat_toNat, List.singleton_append]
  rw [Bytes.ofText_eq, encode, String.toList_ofList]
  exact hbytes _ fun c => toNat_lt_of_mem_encodeDigits

end Hex

theorem Bytes.ofText_hex (bs : Bytes) : ofText bs.hex = 48 :: 120 :: Hex.encodeDigits bs := by
  rw [hex, ofText_append, Hex.ofText_encode, ofText_eq]
  rfl

theorem Hex.decode_hex (bs : Bytes) : decode bs.hex = .ok bs := by
  have heven : (48 :: 120 :: encodeDigits bs).length % 2 ≠ 1 := by
    simp only [List.length_cons, length_encodeDigits]
    omega
  rw [decode, Bytes.ofText_hex, decodeChars, if_neg heven, dropPrefix, decodeDigits_encodeDigits]

theorem Hex.decodeExact_hex (bs : Bytes) : decodeExact bs.length bs.hex = .ok bs := by
  have heven : (48 :: 120 :: encodeDigits bs).length % 2 ≠ 1 := by
    simp only [List.length_cons, length_encodeDigits]
    omega
  rw [decodeExact, Bytes.ofText_hex, decodeExactChars, if_neg heven, dropPrefix,
    if_neg (by rw [length_encodeDigits]; simp), decodeDigits_encodeDigits]

namespace Data

/-! ### Trees that agree -/

/-- Two trees differ at most in the order of the fields of their records: under each name there is the
same in both. -/
inductive Agrees : Data → Data → Prop
  | refl (d : Data) : Agrees d d
  | list {items items' : List Data} (items_agree : List.Forall₂ Agrees items items') :
      Agrees (.list items) (.list items')
  | record {fields fields' : Fields}
      (fields_agree : ∀ name, Option.Rel Agrees (fields.lookup name) (fields'.lookup name)) :
      Agrees (.record fields) (.record fields')

variable {α : Type} {d d' : Data} {a b : α} {read : Data → Option α} {form : Form}

theorem Agrees.eq_of_text {s : String} (h : Agrees (.text s) d) : d = .text s := by
  cases h
  rfl

theorem Agrees.eq_of_int {i : Int} (h : Agrees (.int i) d) : d = .int i := by
  cases h
  rfl

theorem Agrees.exists_of_list {items : List Data} (h : Agrees (.list items) d) :
    ∃ items', d = .list items' ∧ List.Forall₂ Agrees items items' := by
  cases h with
  | refl => exact ⟨items, rfl, List.forall₂_same.mpr fun d _ => .refl d⟩
  | list items_agree => exact ⟨_, rfl, items_agree⟩

theorem Agrees.exists_of_record {fields : Fields} (h : Agrees (.record fields) d) :
    ∃ fields', d = .record fields' ∧
      ∀ name, Option.Rel Agrees (fields.lookup name) (fields'.lookup name) := by
  cases h with
  | refl =>
    refine ⟨fields, rfl, fun name => ?_⟩
    cases fields.lookup name with
    | none => exact .none
    | some d => exact .some (.refl d)
  | record fields_agree => exact ⟨_, rfl, fields_agree⟩

theorem lookup_eq_of_perm {fields fields' : Fields} (h : fields.Perm fields')
    (hnodup : (fields.map (·.1)).Nodup) (name : String) :
    fields.lookup name = fields'.lookup name := by
  induction h with
  | nil => rfl
  | cons f _ ih => rw [List.lookup_cons, List.lookup_cons, ih (List.nodup_cons.mp hnodup).2]
  | swap f g rest =>
    have hne : g.1 ≠ f.1 := List.ne_of_not_mem_cons (List.nodup_cons.mp hnodup).1
    rw [List.lookup_cons, List.lookup_cons, List.lookup_cons, List.lookup_cons]
    by_cases hg : name = g.1
    · rw [hg, beq_self_eq_true, beq_eq_false_iff_ne.mpr hne]
    · rw [beq_eq_false_iff_ne.mpr hg]
  | trans h _ ih ih' => exact (ih hnodup).trans (ih' ((h.map _).nodup_iff.mp hnodup))

/-- Fields with different names may be put in any order. -/
theorem agrees_of_perm {fields fields' : Fields} (h : fields.Perm fields')
    (hnodup : (fields.map (·.1)).Nodup) : Agrees (.record fields) (.record fields') := by
  refine .record fun name => ?_
  rw [lookup_eq_of_perm h hnodup]
  cases fields'.lookup name with
  | none => exact .none
  | some d => exact .some (.refl d)

/-! ### Finding values -/

/-- A reader finds a value in a tree and in all trees that agree with it. -/
def Finds (read : Data → Option α) (d : Data) (a : α) : Prop := ∀ d', Agrees d d' → read d' = some a

theorem Finds.eq (h : Finds read d a) : read d = some a := h d (.refl d)

theorem finds_ofFixed {n : Nat} (hn : 8 ∣ n) (w : BitVec n) :
    Finds (fixed? form n) (ofFixed w) w := by
  intro d h
  rw [ofFixed] at h
  have hlength : (Bytes.ofBitVec w).length = n / 8 := by
    rw [Bytes.length_ofBitVec]
    omega
  have hdecode := Hex.decodeExact_hex (Bytes.ofBitVec w)
  rw [hlength] at hdecode
  rw [h.eq_of_text, fixed?, fixedHex, hdecode]
  exact congrArg some (Bytes.toBitVec_ofBitVec w)

theorem finds_ofBits {n : Nat} (w : BitVec n) : Finds (bits? n) (ofBits w) w := by
  intro d h
  rw [ofBits] at h
  have hw : BitVec.ofInt n w.toNat = w := by simp
  rw [h.eq_of_int, bits?, hw]
  simp

theorem finds_ofBytes (bs : Bytes) : Finds bytes? (ofBytes bs) bs := by
  intro d h
  rw [ofBytes] at h
  rw [h.eq_of_text, bytes?, Hex.decode_hex]
  rfl

theorem finds_word? {table : List (String × α)} {s : String} (hs : table.lookup s = some a) :
    Finds (word? form table) (.text s) a := by
  intro d h
  rw [h.eq_of_text, word?, hs]

theorem finds_pairOf? {da db : Data} (ha : Finds read da a) (hb : Finds read db b) :
    Finds (pairOf? read) (.list [da, db]) (a, b) := by
  intro d h
  obtain ⟨items, rfl, hitems⟩ := h.exists_of_list
  obtain _ | ⟨hda, _ | ⟨hdb, _ | _⟩⟩ := hitems
  rw [pairOf?, ha _ hda, hb _ hdb]
  rfl

theorem finds_listOf? {write : α → Data} (h : ∀ a, Finds read (write a) a) (as : List α) :
    Finds (listOf? read) (.list (as.map write)) as := by
  intro d hd
  obtain ⟨items, rfl, hitems⟩ := hd.exists_of_list
  rw [listOf?, list?]
  change items.mapM read = some as
  clear hd
  induction as generalizing items with
  | nil =>
    cases hitems
    rfl
  | cons a as ih =>
    obtain _ | ⟨ha, has⟩ := hitems
    rw [List.mapM_cons, h a _ ha, ih _ has]
    rfl

/-- Fields are found by their names. -/
theorem required?_eq_of_agree {fields fields' : Fields}
    (h : ∀ name, Option.Rel Agrees (fields.lookup name) (fields'.lookup name)) {name : String}
    (hd : fields.lookup name = some d) (ha : Finds read d a) :
    fields'.required? name read = some a := by
  have hname := h name
  rw [hd] at hname
  rw [Fields.required?]
  cases hfound : fields'.lookup name with
  | none =>
    rw [hfound] at hname
    cases hname
  | some d' =>
    rw [hfound] at hname
    cases hname with
    | some hagree => exact ha d' hagree

/-- What is read off the fields of a record is found in the record. -/
theorem finds_record {fields : Fields} {names : List String} {readFields : Fields → Option α}
    (h : ∀ fields' : Fields,
      (∀ name, Option.Rel Agrees (fields.lookup name) (fields'.lookup name)) →
        readFields fields' = some a) :
    Finds (fun d => d.fields? form names false >>= readFields) (.record fields) a := by
  intro d hd
  obtain ⟨fields', rfl, hfields⟩ := hd.exists_of_record
  exact h fields' hfields

end Data

end CrossCall
