import Mathlib
import CrossCall.Proofs.Message.Reading

/-!
# Bytes of a list that are not read

Of a list of attributes only the byte strings of known kinds are read, and of these only their
words. So a list says the same after any number of changes to the rest of it. Of an address only its own
bytes are read, and if they are exchanged in the last byte string of its kind, exactly the new
address is read.

## Main definitions

* `Attributes.Retouches` — a change of a list that touches nothing that is read
* `Attributes.withAddress` — a byte string with another address in its first word

## Main results

* `Attributes.decode_eq_of_retouches` — retouched lists are read as the same
* `Attributes.l2Oracle_of_decode`, `Attributes.decode_withAddress` — the oracle that is read, and
  the one that is read if it is exchanged
-/

namespace CrossCall

namespace Attributes

variable {blobs blobs' before after : List Bytes} {blob : Bytes} {kind : AttributeKind}

/-! ### Retouched lists -/

theorem kindOf?_eq_none_of_length_lt (h : blob.length < 4) : kindOf? blob = none := by
  by_contra hne
  obtain ⟨kind, hkind⟩ := Option.ne_none_iff_exists'.mp hne
  have hle := (kindOf?_eq_some_iff.mp hkind).length_le
  rw [Bytes.length_ofBitVec] at hle
  omega

/-- A change of a list that touches nothing that is read: what follows a selector and its words
becomes something else, or a byte string is put in that is of no known kind or shorter than a
selector. -/
inductive Retouches : List Bytes → List Bytes → Prop
  | trailing (before after : List Bytes) {blob : Bytes} (rest rest' : Bytes)
      (selector : 4 ≤ blob.length) (words : tooShort? blob = none) :
      Retouches (before ++ (blob ++ rest) :: after) (before ++ (blob ++ rest') :: after)
  | unknown (before after : List Bytes) {blob : Bytes} (kind : kindOf? blob = none) :
      Retouches (before ++ after) (before ++ blob :: after)
  | short (before after : List Bytes) {blob : Bytes} (length : blob.length < 4) :
      Retouches (before ++ after) (before ++ blob :: after)

/-- A byte string of no known kind can be put anywhere. -/
theorem decode_insert_unknown (hkind : kindOf? blob = none) :
    decode (before ++ after) = decode (before ++ blob :: after) := by
  have hunknown : ¬ isKnown blob := by simp [isKnown, hkind]
  rw [← decode_filter_isKnown (before ++ blob :: after), List.filter_append,
    List.filter_cons_of_neg hunknown, ← List.filter_append, decode_filter_isKnown]

theorem Retouches.decode_eq (h : Retouches blobs blobs') : decode blobs = decode blobs' := by
  cases h with
  | @trailing before after blob rest rest' selector words =>
    have htrim : ∀ rest, decode (before ++ (blob ++ rest) :: after) =
        decode ((before ++ blob :: after).map trim) := by
      intro rest
      rw [← decode_map_trim (before ++ (blob ++ rest) :: after), List.map_append, List.map_append,
        List.map_cons, List.map_cons, trim_append selector words]
    rw [htrim rest, htrim rest']
  | unknown before after kind => exact decode_insert_unknown kind
  | short before after length => exact decode_insert_unknown (kindOf?_eq_none_of_length_lt length)

/-- Lists are read as the same after any number of changes of this sort, made or undone. -/
theorem decode_eq_of_retouches (h : Relation.EqvGen Retouches blobs blobs') :
    decode blobs = decode blobs' := by
  induction h with
  | rel _ _ h => exact h.decode_eq
  | refl => rfl
  | symm _ _ _ ih => exact ih.symm
  | trans _ _ _ _ _ ih ih' => exact ih.trans ih'

/-! ### Another address -/

/-- A byte string with another address in its first word. The twelve bytes in front of the address
in its word stay. -/
def withAddress (blob : Bytes) (a : Address) : Bytes :=
  blob.take 16 ++ (Bytes.ofBitVec a ++ blob.drop 36)

theorem length_withAddress (h : 36 ≤ blob.length) (a : Address) :
    (withAddress blob a).length = blob.length := by
  simp [withAddress]
  omega

theorem kindOf?_withAddress (h : 16 ≤ blob.length) (a : Address) :
    kindOf? (withAddress blob a) = kindOf? blob := by
  -- The selector is in front of all that is exchanged.
  ext kind
  have hlength : (Bytes.ofBitVec kind.selector).length ≤ (blob.take 16).length := by
    simp
    omega
  rw [kindOf?_eq_some_iff, kindOf?_eq_some_iff, List.prefix_iff_eq_take, List.prefix_iff_eq_take,
    withAddress, List.take_append_of_le_length hlength, List.take_take, min_eq_left]
  simp

/-- An address is read from the last bytes of its word. -/
theorem toAddress_toBitVec_append (high : Bytes) (a : Address) :
    Word.toAddress (Bytes.toBitVec 256 (high ++ Bytes.ofBitVec a)) = a := by
  have hlt := a.isLt
  apply BitVec.eq_of_toNat_eq
  rw [Word.toAddress, BitVec.toNat_setWidth, Bytes.toNat_toBitVec, Bytes.toNat_append,
    Bytes.toNat_ofBitVec, Bytes.length_ofBitVec]
  omega

theorem toAddress_wordOf_withAddress (h : 36 ≤ blob.length) (a : Address) :
    (wordOf (withAddress blob a) 0).toAddress = a := by
  have hword : ((withAddress blob a).drop 4).take 32 =
      (blob.take 16).drop 4 ++ Bytes.ofBitVec a := by
    have hfront : ((blob.take 16).drop 4).length = 12 := by simp; omega
    have hfour : 4 ≤ (blob.take 16).length := by simp; omega
    have haddress : (Bytes.ofBitVec a).length = 20 := by simp
    rw [withAddress, List.drop_append_of_le_length hfour, List.take_append, hfront,
      List.take_left' haddress, List.take_of_length_le (by omega)]
  rw [wordOf, hword, toAddress_toBitVec_append]

theorem last?_append_cons (h : kindOf? blob = some kind)
    (hlast : ∀ b ∈ after, kindOf? b ≠ some kind) :
    last? kind (before ++ blob :: after) = some blob := by
  have hafter : after.filter (kindOf? · = some kind) = [] := by
    simpa [List.filter_eq_nil_iff] using hlast
  rw [last?_eq_getLast?, List.filter_append, List.filter_cons_of_pos (by simpa using h), hafter,
    List.getLast?_concat]

theorem last?_append_cons_of_ne (h : kindOf? blob ≠ some kind) :
    last? kind (before ++ blob :: after) = last? kind (before ++ after) := by
  rw [last?_eq_getLast?, last?_eq_getLast?, List.filter_append, List.filter_append,
    List.filter_cons_of_neg (by simpa using h)]

/-- The oracle that a list says is the one in the last byte string of its kind. -/
theorem l2Oracle_of_decode {a : Attributes} (hdecode : decode (before ++ blob :: after) = .ok a)
    (hkind : kindOf? blob = some .l2Oracle) (hlast : ∀ b ∈ after, kindOf? b ≠ some .l2Oracle) :
    a.l2Oracle = (wordOf blob 0).toAddress := by
  obtain ⟨-, rfl⟩ := decode_eq_ok_iff.mp hdecode
  change (lastWord .l2Oracle 0 (before ++ blob :: after)).toAddress = _
  rw [lastWord, last?_append_cons hkind hlast]
  rfl

/-- If the address in the last oracle of a list is exchanged, the list says the new address and
nothing else that is new. -/
theorem decode_withAddress {a : Attributes}
    (hdecode : decode (before ++ blob :: after) = .ok a) (hkind : kindOf? blob = some .l2Oracle)
    (hlast : ∀ b ∈ after, kindOf? b ≠ some .l2Oracle) (oracle : Address) :
    decode (before ++ withAddress blob oracle :: after) = .ok { a with l2Oracle := oracle } := by
  obtain ⟨hlong, rfl⟩ := decode_eq_ok_iff.mp hdecode
  have hlength : 36 ≤ blob.length := hlong blob (by simp) _ hkind
  have hnew : kindOf? (withAddress blob oracle) = some .l2Oracle :=
    (kindOf?_withAddress (by omega) oracle).trans hkind
  refine decode_eq_ok_iff.mpr ⟨?_, ?_⟩
  · -- The new byte string is as long as the old one.
    intro b hb kind hkind'
    rcases List.mem_append.mp hb with hmem | hmem
    · exact hlong b (List.mem_append_left _ hmem) kind hkind'
    · rcases List.mem_cons.mp hmem with rfl | hmem
      · rw [hnew, Option.some.injEq] at hkind'
        subst hkind'
        exact (length_withAddress hlength oracle).symm ▸ hlength
      · exact hlong b (List.mem_append_right _ (List.mem_cons_of_mem _ hmem)) kind hkind'
  · have horacle : (lastWord .l2Oracle 0 (before ++ withAddress blob oracle :: after)).toAddress =
        oracle := by
      rw [lastWord, last?_append_cons hnew hlast]
      exact toAddress_wordOf_withAddress hlength oracle
    have hother : ∀ kind i, kind ≠ .l2Oracle →
        lastWord kind i (before ++ withAddress blob oracle :: after) =
          lastWord kind i (before ++ blob :: after) := by
      intro kind i hne
      have hne' : some AttributeKind.l2Oracle ≠ some kind := fun h => hne (Option.some.inj h).symm
      rw [lastWord, lastWord, last?_append_cons_of_ne (hnew ▸ hne'),
        last?_append_cons_of_ne (hkind ▸ hne')]
    simp [ofLast, horacle, hother]

end Attributes

end CrossCall
