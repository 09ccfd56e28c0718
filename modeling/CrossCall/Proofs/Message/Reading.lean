import Mathlib
import CrossCall.Bytes.Lemmas
import CrossCall.Proofs.Message.Contents

/-!
# Reading attributes

What a list of byte strings says can be told from the byte strings of each kind alone. A list is
refused for the first of them that is too short for its kind, and otherwise every field comes from
the last byte string of its kind. So byte strings of no known kind can be left out, what follows the
last word of an attribute can be cut off, and byte strings of different kinds can change places.
Only where several kinds are too short do their places tell which one is named.

## Main definitions

* `Attributes.tooShort?` — the kind of a byte string that is too short for it
* `Attributes.trim` — a byte string without what follows its attribute
* `Attributes.AlikeByKind` — lists that differ only in how their kinds are mixed
* `Attributes.encodings` — the byte strings of all attributes of a record

## Main results

* `Attributes.kindOf?_eq_some_iff` — a byte string is of the kind whose selector it starts with
* `Attributes.decode_eq` — for what a list is refused, and as what it is read
* `Attributes.decode_eq_of_mem_encodings` — what was written is read
* `Attributes.decode_readsLast` — these laws together
* `Attributes.decode_tells_order` — what is too short does not change places with another kind
-/

namespace CrossCall

/-! ### Kinds -/

theorem AttributeKind.ofSelector?_eq_some_iff {s : BitVec 32} {kind : AttributeKind} :
    ofSelector? s = some kind ↔ kind.selector = s := by
  constructor
  · intro h
    simpa using List.find?_some h
  · rintro rfl
    exact ofSelector?_selector kind

namespace Attributes

variable {blobs blobs' : List Bytes} {blob : Bytes} {kind : AttributeKind}

/-- A byte string is of the kind whose selector it starts with. -/
theorem kindOf?_eq_some_iff : kindOf? blob = some kind ↔ Bytes.ofBitVec kind.selector <+: blob := by
  have hlength : (Bytes.ofBitVec kind.selector).length = 4 := by simp
  rw [kindOf?]
  by_cases hshort : blob.length < 4
  · simp only [hshort, if_true, reduceCtorEq, false_iff]
    intro hstart
    exact absurd hstart.length_le (by omega)
  · have htake : (blob.take 4).length = 4 := by
      rw [List.length_take]
      omega
    rw [if_neg hshort, AttributeKind.ofSelector?_eq_some_iff, List.prefix_iff_eq_take, hlength]
    constructor
    · intro hselector
      rw [hselector, Bytes.ofBitVec, Bytes.toBitVec, BitVec.toNat_ofNat, Nat.mod_eq_of_lt]
      · have hwritten := Bytes.ofNat_toNat (blob.take 4)
        rwa [htake] at hwritten
      · have hlt := Bytes.toNat_lt (blob.take 4)
        rwa [htake] at hlt
    · intro hstart
      rw [← hstart, Bytes.toBitVec_ofBitVec]

/-- Whether a byte string is of a known kind. -/
def isKnown (blob : Bytes) : Bool := (kindOf? blob).isSome

/-- The kind of a byte string that is too short for it. -/
def tooShort? (blob : Bytes) : Option AttributeKind :=
  (kindOf? blob).filter fun kind => blob.length < kind.minLength

theorem tooShort?_eq_some_iff :
    tooShort? blob = some kind ↔ kindOf? blob = some kind ∧ blob.length < kind.minLength := by
  rw [tooShort?, Option.filter_eq_some_iff, decide_eq_true_iff]

theorem tooShort?_eq_none_iff :
    tooShort? blob = none ↔ ∀ kind, kindOf? blob = some kind → kind.minLength ≤ blob.length := by
  rw [tooShort?, Option.filter_eq_none_iff]
  simp only [decide_eq_true_eq, Nat.not_lt]

/-! ### What is read -/

/-- What a list of byte strings says: it is refused for the first that is too short for its kind,
and otherwise every field comes from the last byte string of its kind. -/
def reading (blobs : List Bytes) : Except DecodeError Attributes :=
  match blobs.findSome? tooShort? with
  | some kind => .error (.attributeTooShort kind)
  | none => .ok (ofLast blobs)

theorem read_eq_error (h : tooShort? blob = some kind) (a : Attributes) :
    read a blob = .error (.attributeTooShort kind) := by
  obtain ⟨hkind, hlength⟩ := tooShort?_eq_some_iff.mp h
  simp [read, hkind, hlength]

/-- A list is refused for the first byte string that is too short, whatever was read before. -/
theorem foldlM_read_eq_error (h : blobs.findSome? tooShort? = some kind) (a : Attributes) :
    blobs.foldlM read a = .error (.attributeTooShort kind) := by
  -- What has been read before changes with every byte string, so it is left open.
  induction blobs generalizing a with
  | nil => cases h
  | cons blob blobs ih =>
    rw [List.foldlM_cons]
    cases hblob : tooShort? blob with
    | some kind' =>
      -- The first byte string is the one.
      rw [List.findSome?_cons_of_isSome (by rw [hblob]; rfl), hblob] at h
      rw [read_eq_error (hblob.trans h)]
      rfl
    | none =>
      rw [List.findSome?_cons_of_isNone (by rw [hblob]; rfl)] at h
      rw [read_eq_ok_iff.mpr ⟨tooShort?_eq_none_iff.mp hblob, rfl⟩]
      exact ih h _

theorem areLongEnough_iff : AreLongEnough blobs ↔ blobs.findSome? tooShort? = none := by
  rw [List.findSome?_eq_none_iff]
  exact forall₂_congr fun blob _ => tooShort?_eq_none_iff.symm

theorem decode_eq (blobs : List Bytes) : decode blobs = reading blobs := by
  rw [reading]
  cases h : blobs.findSome? tooShort? with
  | some kind => exact foldlM_read_eq_error h {}
  | none => exact decode_eq_ok_iff.mpr ⟨areLongEnough_iff.mpr h, rfl⟩

/-! ### What does not matter -/

theorem findSome?_tooShort?_filter (blobs : List Bytes) :
    (blobs.filter isKnown).findSome? tooShort? = blobs.findSome? tooShort? := by
  induction blobs with
  | nil => rfl
  | cons blob blobs ih =>
    cases hknown : isKnown blob with
    | true => rw [List.filter_cons_of_pos hknown, List.findSome?_cons, List.findSome?_cons, ih]
    | false =>
      -- What is of no kind is not too short for one.
      have hkind : kindOf? blob = none := by simpa [isKnown] using hknown
      have hnone : tooShort? blob = none := by simp [tooShort?, hkind]
      rw [List.filter_cons_of_neg (by simp [hknown]), List.findSome?_cons, hnone, ih]

theorem last?_filter (kind : AttributeKind) (blobs : List Bytes) :
    last? kind (blobs.filter isKnown) = last? kind blobs := by
  rw [last?, last?, ← List.filter_reverse, List.find?_filter]
  congr 1
  funext blob
  -- What is of a kind is known.
  by_cases hkind : kindOf? blob = some kind
  · simp [isKnown, hkind]
  · simp [hkind]

/-- Byte strings of no known kind can be left out. -/
theorem decode_filter_isKnown (blobs : List Bytes) :
    decode (blobs.filter isKnown) = decode blobs := by
  have hlast : ofLast (blobs.filter isKnown) = ofLast blobs := by
    simp only [ofLast, lastWord, last?_filter]
  rw [decode_eq, decode_eq, reading, reading, findSome?_tooShort?_filter, hlast]

/-- A byte string without what follows its attribute, or its selector if that is unknown. -/
def trim (blob : Bytes) : Bytes := blob.take ((kindOf? blob).elim 4 AttributeKind.minLength)

theorem kindOf?_trim (blob : Bytes) : kindOf? (trim blob) = kindOf? blob := by
  -- The selector is never cut.
  have hfour : 4 ≤ (kindOf? blob).elim 4 AttributeKind.minLength := by
    cases kindOf? blob with
    | none => exact le_rfl
    | some kind => exact Nat.le_add_right 4 _
  ext kind
  rw [kindOf?_eq_some_iff, kindOf?_eq_some_iff, trim, List.prefix_take_iff]
  simp [hfour]

theorem trim_of_kindOf? (h : kindOf? blob = some kind) : trim blob = blob.take kind.minLength := by
  rw [trim, h, Option.elim_some]

theorem tooShort?_trim (blob : Bytes) : tooShort? (trim blob) = tooShort? blob := by
  ext kind
  rw [tooShort?_eq_some_iff, tooShort?_eq_some_iff, kindOf?_trim]
  refine and_congr_right fun hkind => ?_
  rw [trim_of_kindOf? hkind, List.length_take]
  omega

/-- What is added behind an attribute that has all its words is cut off again. -/
theorem trim_append (hlength : 4 ≤ blob.length) (hwhole : tooShort? blob = none) (rest : Bytes) :
    trim (blob ++ rest) = trim blob := by
  -- The selector is within the byte string as it was.
  have hkind : kindOf? (blob ++ rest) = kindOf? blob := by
    ext kind
    have hselector : (Bytes.ofBitVec kind.selector).length ≤ blob.length := by simpa using hlength
    rw [kindOf?_eq_some_iff, kindOf?_eq_some_iff, List.prefix_iff_eq_take,
      List.prefix_iff_eq_take, List.take_append_of_le_length hselector]
  rw [trim, trim, hkind]
  apply List.take_append_of_le_length
  cases h : kindOf? blob with
  | none => exact hlength
  | some kind => exact tooShort?_eq_none_iff.mp hwhole kind h

/-- The words of an attribute stay when what follows it is cut off. -/
theorem wordOf_trim (h : kindOf? blob = some kind) {i : Nat} (hi : i < kind.words) :
    wordOf (trim blob) i = wordOf blob i := by
  have hlength : kind.minLength = 4 + 32 * kind.words := rfl
  rw [wordOf, wordOf, trim_of_kindOf? h, List.drop_take, List.take_take, min_eq_left]
  omega

theorem lastWord_map_trim {i : Nat} (hi : i < kind.words) (blobs : List Bytes) :
    lastWord kind i (blobs.map trim) = lastWord kind i blobs := by
  have hfind : last? kind (blobs.map trim) = (last? kind blobs).map trim := by
    rw [last?, last?, ← List.map_reverse, List.find?_map]
    congr 2
    funext blob
    simp [kindOf?_trim]
  rw [lastWord, lastWord, hfind]
  cases hlast : last? kind blobs with
  | none => rfl
  | some blob => exact wordOf_trim (mem_of_last?_eq_some hlast).2 hi

/-- What follows an attribute can be cut off. -/
theorem decode_map_trim (blobs : List Bytes) : decode (blobs.map trim) = decode blobs := by
  have hshort : (blobs.map trim).findSome? tooShort? = blobs.findSome? tooShort? := by
    rw [List.findSome?_map]
    congr 1
    funext blob
    exact tooShort?_trim blob
  -- The words that are looked at are those that the kind has.
  have hlast : ofLast (blobs.map trim) = ofLast blobs := by
    have hfirst : ∀ kind, lastWord kind 0 (blobs.map trim) = lastWord kind 0 blobs :=
      fun kind => lastWord_map_trim (by cases kind <;> decide) blobs
    have hreward : lastWord .reward 1 (blobs.map trim) = lastWord .reward 1 blobs :=
      lastWord_map_trim (by decide) blobs
    have hdelay : lastWord .delay 1 (blobs.map trim) = lastWord .delay 1 blobs :=
      lastWord_map_trim (by decide) blobs
    simp only [ofLast, hfirst, hreward, hdelay]
  rw [decode_eq, decode_eq, reading, reading, hshort, hlast]

/-! ### What can change places -/

/-- Two lists hold the same byte strings of each kind in the same order, and differ only in how the
kinds are mixed. -/
def AlikeByKind (blobs blobs' : List Bytes) : Prop :=
  ∀ kind, blobs.filter (kindOf? · = some kind) = blobs'.filter (kindOf? · = some kind)

/-- Byte strings of different kinds change places. -/
theorem alikeByKind_swap {before after : List Bytes} {blob blob' : Bytes}
    (h : kindOf? blob ≠ kindOf? blob') :
    AlikeByKind (before ++ blob :: blob' :: after) (before ++ blob' :: blob :: after) := by
  intro kind
  simp only [List.filter_append, List.filter_cons]
  by_cases hkind : kindOf? blob = some kind
  · have hother : kindOf? blob' ≠ some kind := fun hkind' => h (hkind.trans hkind'.symm)
    simp [hkind, hother]
  · simp [hkind]

theorem last?_eq_getLast? (kind : AttributeKind) (blobs : List Bytes) :
    last? kind blobs = (blobs.filter (kindOf? · = some kind)).getLast? := by
  rw [last?, ← List.head?_filter, List.filter_reverse, List.head?_reverse]

theorem areLongEnough_iff_filter :
    AreLongEnough blobs ↔
      ∀ kind, ∀ blob ∈ blobs.filter (kindOf? · = some kind), kind.minLength ≤ blob.length := by
  simp only [AreLongEnough, List.mem_filter, decide_eq_true_iff]
  exact ⟨fun h kind blob hblob => h blob hblob.1 kind hblob.2,
    fun h blob hmem kind hkind => h kind blob ⟨hmem, hkind⟩⟩

/-- All byte strings that are too short are of one kind. -/
def AreShortOfOneKind (blobs : List Bytes) : Prop :=
  ∀ blob ∈ blobs, ∀ blob' ∈ blobs, ∀ kind kind',
    tooShort? blob = some kind → tooShort? blob' = some kind' → kind = kind'

theorem AreShortOfOneKind.findSome?_eq_some_iff (h : AreShortOfOneKind blobs) :
    blobs.findSome? tooShort? = some kind ↔ ∃ blob ∈ blobs, tooShort? blob = some kind := by
  constructor
  · exact List.exists_of_findSome?_eq_some
  · rintro ⟨blob, hmem, hshort⟩
    -- Some byte string is named, and it is of the same kind as this one.
    have hsome : (blobs.findSome? tooShort?).isSome :=
      List.findSome?_isSome_iff.mpr ⟨blob, hmem, Option.isSome_of_eq_some hshort⟩
    obtain ⟨kind', hfirst⟩ := Option.isSome_iff_exists.mp hsome
    obtain ⟨blob', hmem', hshort'⟩ := List.exists_of_findSome?_eq_some hfirst
    rw [hfirst, h blob hmem blob' hmem' kind kind' hshort hshort']

namespace AlikeByKind

theorem symm (h : AlikeByKind blobs blobs') : AlikeByKind blobs' blobs := fun kind => (h kind).symm

theorem ofLast_eq (h : AlikeByKind blobs blobs') : ofLast blobs = ofLast blobs' := by
  simp only [ofLast, lastWord, last?_eq_getLast?, h _]

/-- Lists that are alike are read as the same, or both refused. -/
theorem toOption_decode_eq (h : AlikeByKind blobs blobs') :
    (decode blobs).toOption = (decode blobs').toOption := by
  have hlong : AreLongEnough blobs ↔ AreLongEnough blobs' := by
    simp only [areLongEnough_iff_filter, h _]
  have hok : ∀ a, decode blobs = .ok a ↔ decode blobs' = .ok a := by
    intro a
    rw [decode_eq_ok_iff, decode_eq_ok_iff, hlong, h.ofLast_eq]
  cases hdecode : decode blobs with
  | ok a => rw [(hok a).mp hdecode]
  | error e =>
    cases hdecode' : decode blobs' with
    | error e' => rfl
    | ok a =>
      rw [(hok a).mpr hdecode'] at hdecode
      cases hdecode

theorem mem_of_mem (h : AlikeByKind blobs blobs') (hmem : blob ∈ blobs)
    (hkind : kindOf? blob = some kind) : blob ∈ blobs' := by
  have hfilter : blob ∈ blobs.filter (kindOf? · = some kind) :=
    List.mem_filter.mpr ⟨hmem, decide_eq_true hkind⟩
  rw [h kind] at hfilter
  exact (List.mem_filter.mp hfilter).1

theorem exists_tooShort? (h : AlikeByKind blobs blobs')
    (hshort : ∃ blob ∈ blobs, tooShort? blob = some kind) :
    ∃ blob ∈ blobs', tooShort? blob = some kind := by
  obtain ⟨blob, hmem, hshort⟩ := hshort
  exact ⟨blob, h.mem_of_mem hmem (tooShort?_eq_some_iff.mp hshort).1, hshort⟩

/-- Lists that are alike are refused for the same kind, unless there are several to be named. -/
theorem decode_eq_decode (h : AlikeByKind blobs blobs') (hone : AreShortOfOneKind blobs) :
    decode blobs = decode blobs' := by
  -- Both lists hold the same byte strings of known kinds.
  have hone' : AreShortOfOneKind blobs' := by
    intro blob hmem blob' hmem' kind kind' hshort hshort'
    exact hone blob (h.symm.mem_of_mem hmem (tooShort?_eq_some_iff.mp hshort).1) blob'
      (h.symm.mem_of_mem hmem' (tooShort?_eq_some_iff.mp hshort').1) kind kind' hshort hshort'
  have hfirst : blobs.findSome? tooShort? = blobs'.findSome? tooShort? := by
    ext kind
    rw [hone.findSome?_eq_some_iff, hone'.findSome?_eq_some_iff]
    exact ⟨h.exists_tooShort?, h.symm.exists_tooShort?⟩
  rw [decode_eq, decode_eq, reading, reading, hfirst, h.ofLast_eq]

end AlikeByKind

/-- Byte strings of different kinds change places, unless both are too short: then the first is
named. -/
theorem decode_swap {before after : List Bytes} {blob blob' : Bytes}
    (hkind : kindOf? blob ≠ kindOf? blob')
    (hwhole : tooShort? blob = none ∨ tooShort? blob' = none) :
    decode (before ++ blob :: blob' :: after) = decode (before ++ blob' :: blob :: after) := by
  have hfirst : (before ++ blob :: blob' :: after).findSome? tooShort? =
      (before ++ blob' :: blob :: after).findSome? tooShort? := by
    simp only [List.findSome?_append, List.findSome?_cons]
    obtain h | h := hwhole
    · rw [h]
    · rw [h]
  rw [decode_eq, decode_eq, reading, reading, hfirst, (alikeByKind_swap hkind).ofLast_eq]

end Attributes

/-! ### What is written -/

namespace Attribute

theorem kindOf?_encode (a : Attribute) : Attributes.kindOf? a.encode = some a.kind :=
  Attributes.kindOf?_eq_some_iff.mpr (List.prefix_append _ _)

theorem length_words (a : Attribute) : a.words.length = a.kind.words := by
  cases a <;> rfl

theorem length_flatMap_ofBitVec (ws : List Word) :
    (ws.flatMap Bytes.ofBitVec).length = 32 * ws.length := by
  simp [List.length_flatMap, Nat.mul_comm]

theorem length_encode (a : Attribute) : a.encode.length = a.kind.minLength := by
  rw [encode, List.length_append, Bytes.length_ofBitVec, length_flatMap_ofBitVec, length_words]
  rfl

theorem tooShort?_encode (a : Attribute) : Attributes.tooShort? a.encode = none := by
  refine Attributes.tooShort?_eq_none_iff.mpr fun kind hkind => ?_
  rw [kindOf?_encode] at hkind
  rw [length_encode, Option.some.inj hkind]

/-- A word stands behind those in front of it, each of which takes 32 bytes. -/
theorem take_drop_flatMap_ofBitVec {ws : List Word} {i : Nat} {w : Word} (h : ws[i]? = some w) :
    ((ws.flatMap Bytes.ofBitVec).drop (32 * i)).take 32 = Bytes.ofBitVec w := by
  have hlength : ∀ w : Word, (Bytes.ofBitVec w).length = 32 := fun w => by simp
  induction ws generalizing i with
  | nil => cases h
  | cons v ws ih =>
    rw [List.flatMap_cons]
    cases i with
    | zero =>
      cases h
      rw [Nat.mul_zero, List.drop_zero, List.take_left' (hlength w)]
    | succ i =>
      have hpassed : 32 * (i + 1) - 32 = 32 * i := by omega
      rw [List.drop_append, hlength, List.drop_eq_nil_of_le (by rw [hlength]; omega),
        List.nil_append, hpassed]
      exact ih h

/-- The words of an attribute stand where they are looked for. -/
theorem wordOf_encode (a : Attribute) {i : Nat} {w : Word} (h : a.words[i]? = some w) :
    Attributes.wordOf a.encode i = w := by
  have hselector : (Bytes.ofBitVec a.kind.selector).length = 4 := by simp
  rw [Attributes.wordOf, encode, List.drop_append, hselector, List.drop_eq_nil_of_le (by omega),
    List.nil_append, Nat.add_sub_cancel_left, take_drop_flatMap_ofBitVec h,
    Bytes.toBitVec_ofBitVec]

end Attribute

namespace Attributes

variable {blobs : List Bytes}

/-- A record as a list of attributes, one of each kind. -/
def toList (a : Attributes) : List Attribute :=
  [.nonce a.nonce, .reward a.rewardAsset a.rewardAmount, .delay a.finalityDelay a.expiry,
    .requester a.requester, .l2Oracle a.l2Oracle]

/-- The byte strings of all attributes of a record. -/
def encodings (a : Attributes) : List Bytes := a.toList.map Attribute.encode

theorem eq_of_kind_eq {a : Attributes} {x y : Attribute} (hx : x ∈ a.toList) (hy : y ∈ a.toList)
    (h : x.kind = y.kind) : x = y := by
  have hkinds : (a.toList.map Attribute.kind).Nodup :=
    show AttributeKind.all.Nodup by decide
  exact List.inj_on_of_nodup_map hkinds hx hy h

/-- If all that is of a known kind was written for a record, the last of each kind is the one that
was written for it. -/
theorem last?_eq_encode {a : Attributes}
    (hwritten : ∀ blob ∈ blobs, isKnown blob → blob ∈ a.encodings)
    (hall : ∀ blob ∈ a.encodings, blob ∈ blobs) {x : Attribute} (hx : x ∈ a.toList) :
    last? x.kind blobs = some x.encode := by
  -- Some byte string is of the kind, since the attribute is among them.
  have hsome : (last? x.kind blobs).isSome := by
    rw [last?, List.find?_isSome]
    exact ⟨x.encode, List.mem_reverse.mpr (hall _ (List.mem_map_of_mem hx)),
      decide_eq_true x.kindOf?_encode⟩
  obtain ⟨blob, hlast⟩ := Option.isSome_iff_exists.mp hsome
  obtain ⟨hmem, hkind⟩ := mem_of_last?_eq_some hlast
  obtain ⟨y, hy, rfl⟩ := List.mem_map.mp (hwritten blob hmem (by rw [isKnown, hkind]; rfl))
  -- There is one attribute of the kind.
  rw [Attribute.kindOf?_encode] at hkind
  rw [hlast, eq_of_kind_eq hy hx (Option.some.inj hkind)]

/-- What was written for a record is read as this record, in whatever order, and whatever is between
that is of no known kind. -/
theorem decode_eq_of_mem_encodings {a : Attributes}
    (hwritten : ∀ blob ∈ blobs, isKnown blob → blob ∈ a.encodings)
    (hall : ∀ blob ∈ a.encodings, blob ∈ blobs) : decode blobs = .ok a := by
  rw [decode_eq_ok_iff, areLongEnough_iff, List.findSome?_eq_none_iff]
  constructor
  · intro blob hmem
    cases hknown : isKnown blob with
    | false =>
      have hkind : kindOf? blob = none := by simpa [isKnown] using hknown
      rw [tooShort?, hkind, Option.filter_none]
    | true =>
      obtain ⟨x, -, rfl⟩ := List.mem_map.mp (hwritten blob hmem hknown)
      exact x.tooShort?_encode
  · -- Every word of the record is found in the attribute that it was written into.
    have hword : ∀ x ∈ a.toList, ∀ i w, x.words[i]? = some w → lastWord x.kind i blobs = w := by
      intro x hx i w hw
      rw [lastWord, last?_eq_encode hwritten hall hx, Option.map_some, Option.getD_some,
        x.wordOf_encode hw]
    obtain ⟨nonce, asset, amount, finalityDelay, expiry, requester, oracle⟩ := a
    have hnonce := hword (.nonce nonce) (by simp [toList]) 0 _ rfl
    have hasset := hword (.reward asset amount) (by simp [toList]) 0 _ rfl
    have hamount := hword (.reward asset amount) (by simp [toList]) 1 _ rfl
    have hdelay := hword (.delay finalityDelay expiry) (by simp [toList]) 0 _ rfl
    have hexpiry := hword (.delay finalityDelay expiry) (by simp [toList]) 1 _ rfl
    have hrequester := hword (.requester requester) (by simp [toList]) 0 _ rfl
    have horacle := hword (.l2Oracle oracle) (by simp [toList]) 0 _ rfl
    simp only [Attribute.kind] at hnonce hasset hamount hdelay hexpiry hrequester horacle
    simp [ofLast, hnonce, hasset, hamount, hdelay, hexpiry, hrequester, horacle]

/-! ### All together -/

/-- The laws by which byte strings are read as attributes. -/
structure ReadsLast (read : List Bytes → Except DecodeError Attributes) : Prop where
  /-- A byte string is of the kind whose selector it starts with. -/
  kinds : ∀ blob kind, kindOf? blob = some kind ↔ Bytes.ofBitVec kind.selector <+: blob
  /-- The first that is too short for its kind is named, and otherwise the last of each kind
  counts. -/
  rule : ∀ blobs, read blobs = reading blobs
  /-- What is shorter than a selector or has an unknown one can be left out. -/
  unknown : ∀ blobs, read (blobs.filter isKnown) = read blobs
  /-- What follows an attribute can be cut off. -/
  trimmed : ∀ blobs, read (blobs.map trim) = read blobs
  /-- What follows an attribute can be anything. -/
  trailing : ∀ before blob rest after, 4 ≤ blob.length → tooShort? blob = none →
    read (before ++ (blob ++ rest) :: after) = read (before ++ blob :: after)
  /-- What is of different kinds can change places: it says the same, or is refused as before. Only
  if several kinds are too short, it depends on the places which of them is named. -/
  mixed : ∀ blobs blobs', AlikeByKind blobs blobs' →
    (read blobs).toOption = (read blobs').toOption ∧
      (AreShortOfOneKind blobs → read blobs = read blobs')
  /-- Two neighbours of different kinds can change places, unless both are too short. -/
  swapped : ∀ before blob blob' after, kindOf? blob ≠ kindOf? blob' →
    tooShort? blob = none ∨ tooShort? blob' = none →
      read (before ++ blob :: blob' :: after) = read (before ++ blob' :: blob :: after)
  /-- What was written for a record says this record, in any order and among anything unknown. -/
  written : ∀ (a : Attributes) blobs, (blobs.filter isKnown).Perm a.encodings → read blobs = .ok a

theorem decode_readsLast : ReadsLast decode where
  kinds blob kind := kindOf?_eq_some_iff
  rule := decode_eq
  unknown := decode_filter_isKnown
  trimmed := decode_map_trim
  trailing before blob rest after hlength hwhole := by
    rw [← decode_map_trim, ← decode_map_trim (before ++ blob :: after), List.map_append,
      List.map_append, List.map_cons, List.map_cons, trim_append hlength hwhole]
  mixed blobs blobs' h := ⟨h.toOption_decode_eq, h.decode_eq_decode⟩
  swapped before blob blob' after := decode_swap
  written a blobs h := by
    refine decode_eq_of_mem_encodings (fun blob hmem hknown => ?_) fun blob hmem => ?_
    · exact h.mem_iff.mp (List.mem_filter.mpr ⟨hmem, hknown⟩)
    · exact (List.mem_filter.mp (h.mem_iff.mpr hmem)).1

/-- Two neighbours of different kinds that are both too short cannot change places: the first is
named. -/
theorem decode_tells_order :
    let nonce := Bytes.ofBitVec AttributeKind.nonce.selector
    let reward := Bytes.ofBitVec AttributeKind.reward.selector
    kindOf? nonce = some .nonce ∧ kindOf? reward = some .reward ∧
      decode [nonce, reward] = .error (.attributeTooShort .nonce) ∧
      decode [reward, nonce] = .error (.attributeTooShort .reward) := by
  decide

end Attributes

end CrossCall
