import Mathlib
import CrossCall.Message.Payload

/-!
# What the contents of a message amount to

A list of attributes is read from left to right, and every attribute overwrites what was read before.
What comes of it can be said without the order of reading: all known attributes are long enough, and
every field comes from the last attribute of its kind. Likewise the values of calls are added one by
one with a check at every step, and what comes of it is the exact sum if that is a word.

## Main definitions

* `Attributes.last?` — the last attribute of a kind
* `Attributes.ofLast` — the fields as the last attributes of their kinds give them
* `exactCallValue` — the values of calls added up as numbers

## Main results

* `Attributes.decode_eq_ok_iff` — when a list is read, and as what
* `totalCallValue_eq_ok_iff` — when the values of calls have a sum, and which
-/

namespace CrossCall

variable {α β ε ε' : Type}

/-! ### Results that are not errors -/

theorem bind_eq_ok_iff {x : Except ε α} {f : α → Except ε β} {b : β} :
    x >>= f = .ok b ↔ ∃ a, x = .ok a ∧ f a = .ok b := by
  cases x <;> simp [bind, Except.bind]

theorem guard_eq_ok_iff {c : Prop} [Decidable c] {e : ε} {f : PUnit → Except ε β}
    {x : Except ε β} {b : β} :
    (if c then throw e >>= f else x) = .ok b ↔ ¬ c ∧ x = .ok b := by
  by_cases h : c
  · simp [h, throw, throwThe, MonadExceptOf.throw, bind, Except.bind]
  · simp [h]

theorem mapError_eq_ok_iff {x : Except ε α} {f : ε → ε'} {a : α} :
    x.mapError f = .ok a ↔ x = .ok a := by
  cases x <;> simp [Except.mapError]

/-! ### Errors -/

theorem bind_eq_error_iff {x : Except ε α} {f : α → Except ε β} {e : ε} :
    x >>= f = .error e ↔ x = .error e ∨ ∃ a, x = .ok a ∧ f a = .error e := by
  cases x <;> simp [bind, Except.bind]

theorem mapError_eq_error_iff {x : Except ε α} {f : ε → ε'} {e : ε'} :
    x.mapError f = .error e ↔ ∃ cause, x = .error cause ∧ f cause = e := by
  cases x <;> simp [Except.mapError]

/-- If the first of all faults is reported, and without faults there is a result, then whatever is
reported is the first fault. -/
theorem eq_error_iff_minimalFor {γ : Type} [Preorder γ] [WellFoundedLT γ] {Fault : ε → Prop}
    {rank : ε → γ} {x : Except ε α} (herror : ∀ e, MinimalFor Fault rank e → x = .error e)
    (hok : (∀ e, ¬ Fault e) → ∃ a, x = .ok a) {e : ε} :
    x = .error e ↔ MinimalFor Fault rank e := by
  refine ⟨fun h => ?_, herror e⟩
  by_cases hfault : ∃ e', Fault e'
  · obtain ⟨e', hfirst⟩ := exists_minimalFor_of_wellFoundedLT Fault rank hfault
    rw [herror e' hfirst, Except.error.injEq] at h
    exact h ▸ hfirst
  · obtain ⟨a, ha⟩ := hok (not_exists.mp hfault)
    rw [ha] at h
    cases h

namespace Attributes

/-- The last attribute of a kind. -/
def last? (kind : AttributeKind) (blobs : List Bytes) : Option Bytes :=
  blobs.reverse.find? fun blob => kindOf? blob = some kind

/-- A word of the last attribute of a kind, zero if there is none. -/
def lastWord (kind : AttributeKind) (i : Nat) (blobs : List Bytes) : Word :=
  ((last? kind blobs).map (wordOf · i)).getD 0

/-- The fields as the last attributes of their kinds give them. -/
def ofLast (blobs : List Bytes) : Attributes where
  nonce := lastWord .nonce 0 blobs
  rewardAsset := (lastWord .reward 0 blobs).toAddress
  rewardAmount := lastWord .reward 1 blobs
  finalityDelay := lastWord .delay 0 blobs
  expiry := lastWord .delay 1 blobs
  requester := lastWord .requester 0 blobs
  l2Oracle := (lastWord .l2Oracle 0 blobs).toAddress

/-- Every attribute of a known kind has all its words. -/
def AreLongEnough (blobs : List Bytes) : Prop :=
  ∀ blob ∈ blobs, ∀ kind, kindOf? blob = some kind → kind.minLength ≤ blob.length

theorem last?_concat (kind : AttributeKind) (blobs : List Bytes) (blob : Bytes) :
    last? kind (blobs ++ [blob]) =
      if kindOf? blob = some kind then some blob else last? kind blobs := by
  rw [last?, List.reverse_append, List.reverse_singleton, List.singleton_append, List.find?_cons]
  by_cases h : kindOf? blob = some kind
  · simp [h]
  · simp [h, last?]

theorem mem_of_last?_eq_some {kind : AttributeKind} {blobs : List Bytes} {blob : Bytes}
    (h : last? kind blobs = some blob) : blob ∈ blobs ∧ kindOf? blob = some kind :=
  ⟨List.mem_reverse.mp (List.mem_of_find?_eq_some h), by simpa using List.find?_some h⟩

theorem lastWord_concat (kind : AttributeKind) (i : Nat) (blobs : List Bytes) (blob : Bytes) :
    lastWord kind i (blobs ++ [blob]) =
      if kindOf? blob = some kind then wordOf blob i else lastWord kind i blobs := by
  rw [lastWord, last?_concat]
  by_cases h : kindOf? blob = some kind
  · simp [h]
  · simp [h, lastWord]

theorem ofLast_concat_of_unknown {blob : Bytes} (h : kindOf? blob = none) (blobs : List Bytes) :
    ofLast (blobs ++ [blob]) = ofLast blobs := by
  simp [ofLast, lastWord_concat, h]

theorem ofLast_concat_of_kind {blob : Bytes} {kind : AttributeKind} (h : kindOf? blob = some kind)
    (blobs : List Bytes) : ofLast (blobs ++ [blob]) = (ofLast blobs).set kind blob := by
  cases kind <;> simp [ofLast, lastWord_concat, h, set]

theorem areLongEnough_concat_iff {blobs : List Bytes} {blob : Bytes} :
    AreLongEnough (blobs ++ [blob]) ↔
      AreLongEnough blobs ∧ ∀ kind, kindOf? blob = some kind → kind.minLength ≤ blob.length := by
  simp [AreLongEnough, or_imp, forall_and]

theorem read_eq_ok_iff {a b : Attributes} {blob : Bytes} :
    read a blob = .ok b ↔
      (∀ kind, kindOf? blob = some kind → kind.minLength ≤ blob.length) ∧
        b = match kindOf? blob with
          | none => a
          | some kind => a.set kind blob := by
  rw [read]
  cases h : kindOf? blob with
  | none => simp [eq_comm]
  | some kind =>
    by_cases hlen : blob.length < kind.minLength
    · simp [hlen, Nat.not_le.mpr hlen]
    · simp [hlen, Nat.not_lt.mp hlen, eq_comm]

/-- A list is read exactly if its known attributes are long enough, and then every field comes from
the last attribute of its kind. -/
theorem decode_eq_ok_iff {blobs : List Bytes} {a : Attributes} :
    decode blobs = .ok a ↔ AreLongEnough blobs ∧ a = ofLast blobs := by
  -- A later attribute overrides an earlier one, so the induction is from the end of the list.
  induction blobs using List.reverseRecOn generalizing a with
  | nil =>
    constructor
    · rintro ⟨⟩
      exact ⟨by simp [AreLongEnough], rfl⟩
    · rintro ⟨-, rfl⟩
      rfl
  | append_singleton blobs blob ih =>
    have hstep : decode (blobs ++ [blob]) = decode blobs >>= fun b => read b blob := by
      simp [decode, List.foldlM_append]
    rw [hstep, bind_eq_ok_iff, areLongEnough_concat_iff]
    have hlast : ofLast (blobs ++ [blob]) = match kindOf? blob with
        | none => ofLast blobs
        | some kind => (ofLast blobs).set kind blob := by
      cases h : kindOf? blob with
      | none => exact ofLast_concat_of_unknown h blobs
      | some kind => exact ofLast_concat_of_kind h blobs
    constructor
    · rintro ⟨b, hb, hread⟩
      obtain ⟨hlong, rfl⟩ := ih.mp hb
      obtain ⟨hblob, rfl⟩ := read_eq_ok_iff.mp hread
      exact ⟨⟨hlong, hblob⟩, hlast.symm⟩
    · rintro ⟨⟨hlong, hblob⟩, rfl⟩
      exact ⟨ofLast blobs, ih.mpr ⟨hlong, rfl⟩, read_eq_ok_iff.mpr ⟨hblob, hlast⟩⟩

/-- A field that is not zero was carried by an attribute. -/
theorem exists_of_lastWord_ne_zero {kind : AttributeKind} {i : Nat} {blobs : List Bytes}
    (h : lastWord kind i blobs ≠ 0) :
    ∃ blob ∈ blobs, kindOf? blob = some kind ∧ lastWord kind i blobs = wordOf blob i := by
  cases hlast : last? kind blobs with
  | none => simp [lastWord, hlast] at h
  | some blob =>
    obtain ⟨hmem, hkind⟩ := mem_of_last?_eq_some hlast
    exact ⟨blob, hmem, hkind, by simp [lastWord, hlast]⟩

end Attributes

/-! ### The value that calls need -/

/-- The values of some calls, added up as exact numbers. -/
def exactCallValue (calls : List Call) : Nat := (calls.map fun c => c.value.toNat).sum

theorem addCallValue_eq_ok_iff {total sum : Word} {call : Call} :
    addCallValue total call = .ok sum ↔ sum.toNat = total.toNat + call.value.toNat := by
  have hsum := sum.isLt
  rw [addCallValue]
  by_cases h : total.uaddOverflow call.value
  · have hover : 2 ^ 256 ≤ total.toNat + call.value.toNat := by
      simpa [BitVec.uaddOverflow] using h
    simp only [h, if_true, reduceCtorEq, false_iff]
    omega
  · have hfits : total.toNat + call.value.toNat < 2 ^ 256 := by
      simpa [BitVec.uaddOverflow] using h
    rw [if_neg h, Except.ok.injEq, ← BitVec.toNat_inj, BitVec.toNat_add_of_lt hfits, eq_comm]

theorem foldlM_addCallValue_eq_ok_iff {calls : List Call} {total sum : Word} :
    calls.foldlM addCallValue total = .ok sum ↔
      sum.toNat = total.toNat + exactCallValue calls := by
  induction calls generalizing total with
  | nil => simp [exactCallValue, pure, Except.pure, ← BitVec.toNat_inj, eq_comm]
  | cons call calls ih =>
    have hsum := sum.isLt
    have hcons : exactCallValue (call :: calls) = call.value.toNat + exactCallValue calls := by
      simp [exactCallValue]
    rw [List.foldlM_cons, bind_eq_ok_iff, hcons]
    constructor
    · rintro ⟨next, hnext, hrest⟩
      have hsum := ih.mp hrest
      rw [addCallValue_eq_ok_iff.mp hnext] at hsum
      omega
    · intro h
      -- The whole sum is a word, so every sum on the way to it is one.
      have hfits : total.toNat + call.value.toNat < 2 ^ 256 := by omega
      have hadd := BitVec.toNat_add_of_lt hfits
      refine ⟨total + call.value, addCallValue_eq_ok_iff.mpr hadd, ih.mpr ?_⟩
      rw [hadd, h, Nat.add_assoc]

/-- Calls have a total value exactly if their exact sum is a word, and it is that sum. -/
theorem totalCallValue_eq_ok_iff {calls : List Call} {sum : Word} :
    totalCallValue calls = .ok sum ↔ sum.toNat = exactCallValue calls := by
  rw [totalCallValue, foldlM_addCallValue_eq_ok_iff]
  simp

end CrossCall
