import Mathlib
import CrossCall.Proofs.Bytes.Hexadecimal
import CrossCall.Proofs.Message.Contents

/-!
# What the lenient reader takes

Nodes write numbers in hexadecimal digits, with one `0x` in front or without. The lenient reader
takes all of these texts, and a few others: it takes off one `0x`, may put a zero in front of what
is left, and then reads with a reader that takes off a `0x` or `0X` of its own. So a second prefix
passes, and so does an `x` that the zero makes a prefix of. These strays are all that passes
besides, and they pass only in front of an even number of digits.

## Main definitions

* `Hex.WritesBehind` — a text is digits behind a mark
* `Hex.Strays` — a text is digits behind a mark that is not a single `0x`, and passes
* `Hex.IsNumberOf` — bytes are those of the number that digits write

## Main results

* `Hex.decodeChars_eq_ok_iff` — what the strict reader takes
* `Hex.strays_iff` — a stray as the strict reader gets to see it
* `Hex.decodePadded_eq_ok_iff` — what the lenient reader takes, and as what
* `Hex.decodePadded_discriminates_iff` — it takes nothing but numbers exactly where no stray is
-/

namespace CrossCall.Hex

variable {cs bs : Bytes} {ns : List Nat} {s : String}

/-! ### Pairs of digits -/

/-- Bytes are those of the number that some digits write, with a zero in front of an odd number of
digits. -/
def IsNumberOf (bs : Bytes) (ns : List Nat) : Prop :=
  bs.length = (ns.length + 1) / 2 ∧ bs.toNat = Nat.ofDigits 16 ns.reverse

theorem IsNumberOf.unique {bs' : Bytes} (h : IsNumberOf bs ns) (h' : IsNumberOf bs' ns) :
    bs = bs' := by
  rw [← Bytes.ofNat_toNat bs, ← Bytes.ofNat_toNat bs', h.1, h.2, h'.1, h'.2]

/-- A zero in front of an odd number of digits changes nothing. -/
theorem isNumberOf_zero_cons_iff (hodd : ns.length % 2 = 1) :
    IsNumberOf bs (0 :: ns) ↔ IsNumberOf bs ns := by
  have hlength : (0 :: ns).length + 1 = ns.length + 1 + 1 := by rw [List.length_cons]
  have hvalue : Nat.ofDigits 16 (0 :: ns).reverse = Nat.ofDigits 16 ns.reverse := by
    rw [List.reverse_cons, Nat.ofDigits_append]
    simp
  rw [IsNumberOf, IsNumberOf, hlength, hvalue,
    show (ns.length + 1 + 1) / 2 = (ns.length + 1) / 2 by omega]

/-- What is read in pairs are digits. -/
theorem exists_forall₂_of_decodeDigits {position : Nat} (h : decodeDigits position cs = .ok bs) :
    ∃ ns, List.Forall₂ (fun b n => digit? b = some n) cs ns ∧ ns.length % 2 = 0 := by
  induction position, cs using decodeDigits.induct generalizing bs with
  | case1 position => exact ⟨[], .nil, rfl⟩
  | case2 position b => cases h
  | case3 position hi lo rest hhi =>
    rw [decodeDigits, hhi] at h
    cases h
  | case4 position hi lo rest high hlo hhi =>
    rw [decodeDigits, hhi, hlo] at h
    cases h
  | case5 position hi lo rest high low hlo hhi ih =>
    rw [decodeDigits, hhi, hlo] at h
    obtain ⟨bs', hrest, -⟩ := bind_eq_ok_iff.mp h
    obtain ⟨ns, hns, heven⟩ := ih hrest
    refine ⟨high :: low :: ns, .cons hhi (.cons hlo hns), ?_⟩
    simp only [List.length_cons]
    omega

theorem decodeDigits_eq_ok_iff (position : Nat) :
    decodeDigits position cs = .ok bs ↔
      ∃ ns, List.Forall₂ (fun b n => digit? b = some n) cs ns ∧ ns.length % 2 = 0 ∧
        IsNumberOf bs ns := by
  have hread : ∀ {ns}, List.Forall₂ (fun b n => digit? b = some n) cs ns → ns.length % 2 = 0 →
      ∃ bs, decodeDigits position cs = .ok bs ∧ IsNumberOf bs ns := by
    intro ns hns heven
    obtain ⟨bs, hbs, hlength, hvalue⟩ :=
      decodeDigits_of_forall₂ hns (by rw [hns.length_eq, heven]) position
    exact ⟨bs, hbs, by omega, hvalue⟩
  constructor
  · intro h
    obtain ⟨ns, hns, heven⟩ := exists_forall₂_of_decodeDigits h
    obtain ⟨bs', hbs', hnumber⟩ := hread hns heven
    obtain rfl := Except.ok.inj (h.symm.trans hbs')
    exact ⟨ns, hns, heven, hnumber⟩
  · rintro ⟨ns, hns, heven, hnumber⟩
    obtain ⟨bs', hbs', hnumber'⟩ := hread hns heven
    rw [hbs', hnumber.unique hnumber']

/-! ### Marks -/

theorem exists_eq_append_dropPrefix (cs : Bytes) :
    ∃ mark ∈ [[], [48, 120], [48, 88]], cs = mark ++ dropPrefix cs := by
  rw [dropPrefix.eq_def]
  split <;> simp

theorem exists_eq_append_dropLowerPrefix (cs : Bytes) :
    ∃ mark ∈ [[], [48, 120]], cs = mark ++ dropLowerPrefix cs := by
  rw [dropLowerPrefix.eq_def]
  split <;> simp

/-- The strict reader takes an even number of digits behind one prefix or none. -/
theorem decodeChars_eq_ok_iff :
    decodeChars cs = .ok bs ↔
      ∃ mark ∈ [[], [48, 120], [48, 88]], ∃ digits ns, cs = mark ++ digits ∧
        List.Forall₂ (fun b n => digit? b = some n) digits ns ∧ ns.length % 2 = 0 ∧
        IsNumberOf bs ns := by
  constructor
  · intro h
    rw [decodeChars] at h
    split at h
    · cases h
    · obtain ⟨ns, hns, heven, hnumber⟩ := (decodeDigits_eq_ok_iff 0).mp h
      obtain ⟨mark, hmark, hcs⟩ := exists_eq_append_dropPrefix cs
      exact ⟨mark, hmark, dropPrefix cs, ns, hcs, hns, heven, hnumber⟩
  · rintro ⟨mark, hmark, digits, ns, rfl, hns, heven, hnumber⟩
    have hdrop : dropPrefix (mark ++ digits) = digits := by
      fin_cases hmark
      · exact (dropPrefix_of_forall₂ hns).1
      · rfl
      · rfl
    have hlength : ¬ (mark ++ digits).length % 2 = 1 := by
      have hdigits := hns.length_eq
      fin_cases hmark <;>
        simp only [List.length_append, List.length_cons, List.length_nil] <;> omega
    rw [decodeChars, if_neg hlength, hdrop]
    exact (decodeDigits_eq_ok_iff 0).mpr ⟨ns, hns, heven, hnumber⟩

/-- A text is digits with these values behind a mark. -/
def WritesBehind (mark s : String) (ns : List Nat) : Prop :=
  ∃ ds, List.Forall₂ (fun c n => digitValue? c = some n) ds ns ∧ s = mark ++ String.ofList ds

theorem writesBehind_iff {mark : String} :
    WritesBehind mark s ns ↔
      ∃ cs, Bytes.ofText s = Bytes.ofText mark ++ cs ∧
        List.Forall₂ (fun b n => digit? b = some n) cs ns := by
  constructor
  · rintro ⟨ds, hds, rfl⟩
    refine ⟨_, ?_, forall₂_ofText hds⟩
    rw [Bytes.ofText_append, Bytes.ofText_eq (String.ofList ds), String.toList_ofList]
  · rintro ⟨cs, hs, hcs⟩
    obtain ⟨ds, hds, rfl⟩ := exists_chars_of_forall₂ hcs
    refine ⟨ds, hds, Bytes.ofText_injective ?_⟩
    rw [hs, Bytes.ofText_append, Bytes.ofText_eq (String.ofList ds), String.toList_ofList]

theorem writes_iff_writesBehind :
    Writes s ns ↔ WritesBehind "" s ns ∨ WritesBehind "0x" s ns := by
  simp only [Writes, WritesBehind, String.empty_append, and_or_left, exists_or]

/-- A number as nodes write it is digits once its first `0x` is taken off. -/
theorem writes_iff_forall₂ :
    Writes s ns ↔
      List.Forall₂ (fun b n => digit? b = some n) (dropLowerPrefix (Bytes.ofText s)) ns := by
  refine ⟨forall₂_dropLowerPrefix_of_writes, fun h => ?_⟩
  obtain ⟨mark, hmark, hs⟩ := exists_eq_append_dropLowerPrefix (Bytes.ofText s)
  simp only [writes_iff_writesBehind, writesBehind_iff, Bytes.ofText_eq "", Bytes.ofText_eq "0x"]
  fin_cases hmark
  · exact .inl ⟨_, hs, h⟩
  · exact .inr ⟨_, hs, h⟩

/-- The marks that pass in front of an even number of digits, besides a single `0x`. -/
def strayMarks : List String := ["0X", "0x0x", "0x0X", "x", "X", "0xx", "0xX"]

/-- A text is an even number of digits behind a mark that passes besides. -/
def Strays (s : String) (ns : List Nat) : Prop :=
  ns.length % 2 = 0 ∧ ∃ mark ∈ strayMarks, WritesBehind mark s ns

/-- The bytes of the marks that pass. -/
theorem ofText_strayMarks :
    strayMarks.map Bytes.ofText =
      [[48, 88], [48, 120, 48, 120], [48, 120, 48, 88], [120], [88], [48, 120, 120],
        [48, 120, 88]] := by
  simp only [strayMarks, List.map_cons, List.map_nil, Bytes.ofText_eq]
  rfl

theorem exists_writesBehind_iff {marks : List String} :
    (∃ mark ∈ marks, WritesBehind mark s ns) ↔
      ∃ mark ∈ marks.map Bytes.ofText, ∃ cs, Bytes.ofText s = mark ++ cs ∧
        List.Forall₂ (fun b n => digit? b = some n) cs ns := by
  simp only [writesBehind_iff, List.mem_map, exists_exists_and_eq_and]

/-- Without its first `0x` a stray has an `x` in front, or a prefix. -/
theorem strays_iff :
    Strays s ns ↔
      ns.length % 2 = 0 ∧ ∃ x ∈ [120, 88], ∃ cs,
        (dropLowerPrefix (Bytes.ofText s) = x :: cs ∨
          dropLowerPrefix (Bytes.ofText s) = 48 :: x :: cs) ∧
        List.Forall₂ (fun b n => digit? b = some n) cs ns := by
  rw [Strays, exists_writesBehind_iff, ofText_strayMarks, and_congr_right_iff]
  rintro -
  constructor
  · rintro ⟨mark, hmark, cs, hs, hcs⟩
    rw [hs]
    fin_cases hmark
    · exact ⟨88, by simp, cs, .inr rfl, hcs⟩
    · exact ⟨120, by simp, cs, .inr rfl, hcs⟩
    · exact ⟨88, by simp, cs, .inr rfl, hcs⟩
    · exact ⟨120, by simp, cs, .inl rfl, hcs⟩
    · exact ⟨88, by simp, cs, .inl rfl, hcs⟩
    · exact ⟨120, by simp, cs, .inl rfl, hcs⟩
    · exact ⟨88, by simp, cs, .inl rfl, hcs⟩
  · rintro ⟨x, hx, cs, hdrop, hcs⟩
    obtain ⟨lower, hlower, hs⟩ := exists_eq_append_dropLowerPrefix (Bytes.ofText s)
    rcases hdrop with hdrop | hdrop
    · rw [hdrop] at hs
      refine ⟨lower ++ [x], ?_, cs, by rw [hs, List.append_assoc, List.singleton_append], hcs⟩
      fin_cases hlower <;> fin_cases hx <;> decide
    · rw [hdrop] at hs
      refine ⟨lower ++ [48, x], ?_, cs, by rw [hs, List.append_assoc]; rfl, hcs⟩
      fin_cases hlower
      · fin_cases hx
        · -- The first `0x` would have been taken off.
          rw [hs] at hdrop
          have hlength := congrArg List.length (show cs = 48 :: 120 :: cs from hdrop)
          simp only [List.length_cons] at hlength
          omega
        · decide
      · fin_cases hx <;> decide

theorem digit?_eq_none_of_mem {x : UInt8} (h : x ∈ ([120, 88] : Bytes)) : digit? x = none := by
  fin_cases h <;> rfl

/-- A stray is no number as nodes write it. -/
theorem Strays.not_writes (h : Strays s ns) (ns' : List Nat) : ¬ Writes s ns' := by
  intro hwrites
  have hdigits := forall₂_dropLowerPrefix_of_writes hwrites
  obtain ⟨-, x, hx, cs, hdrop, -⟩ := strays_iff.mp h
  obtain ⟨n, hn⟩ : ∃ n, digit? x = some n := by
    rcases hdrop with hdrop | hdrop <;> rw [hdrop] at hdigits
    · obtain _ | ⟨hn, -⟩ := hdigits
      exact ⟨_, hn⟩
    · obtain _ | ⟨-, _ | ⟨hn, -⟩⟩ := hdigits
      exact ⟨_, hn⟩
  rw [digit?_eq_none_of_mem hx] at hn
  cases hn

/-! ### The lenient reader -/

/-- What the strict reader gets to see of a text. -/
theorem decodePadded_eq (s : String) :
    decodePadded s =
      decodeChars
        (if (dropLowerPrefix (Bytes.ofText s)).length % 2 = 1 then
          48 :: dropLowerPrefix (Bytes.ofText s)
        else dropLowerPrefix (Bytes.ofText s)) := rfl

/-- A stray passes, as the number that its digits write. -/
theorem decodePadded_of_strays (h : Strays s ns) (hnumber : IsNumberOf bs ns) :
    decodePadded s = .ok bs := by
  obtain ⟨heven, x, hx, cs, hdrop, hcs⟩ := strays_iff.mp h
  have hlength := hcs.length_eq
  have hseen : decodePadded s = decodeChars (48 :: x :: cs) := by
    rw [decodePadded_eq]
    rcases hdrop with hdrop | hdrop <;> rw [hdrop]
    · rw [if_pos (by rw [List.length_cons]; omega)]
    · rw [if_neg (by simp only [List.length_cons]; omega)]
  rw [hseen, decodeChars_eq_ok_iff]
  refine ⟨[48, x], ?_, cs, ns, rfl, hcs, heven, hnumber⟩
  fin_cases hx <;> decide

/-- What passes is a number as nodes write it, or a stray. -/
theorem writes_or_strays_of_decodePadded (h : decodePadded s = .ok bs) :
    ∃ ns, (Writes s ns ∨ Strays s ns) ∧ IsNumberOf bs ns := by
  rw [decodePadded_eq, decodeChars_eq_ok_iff] at h
  obtain ⟨mark, hmark, digits, ns, hseen, hns, heven, hnumber⟩ := h
  have hstray : ∀ x ∈ ([120, 88] : Bytes),
      (dropLowerPrefix (Bytes.ofText s) = x :: digits ∨
        dropLowerPrefix (Bytes.ofText s) = 48 :: x :: digits) →
      ∃ ns, (Writes s ns ∨ Strays s ns) ∧ IsNumberOf bs ns := fun x hx hdrop =>
    ⟨ns, .inr (strays_iff.mpr ⟨heven, x, hx, digits, hdrop, hns⟩), hnumber⟩
  -- Without a prefix the strict reader sees a number, and with one a stray.
  split at hseen
  next hodd =>
    fin_cases hmark
    · obtain rfl : 48 :: dropLowerPrefix (Bytes.ofText s) = digits := hseen
      obtain _ | ⟨hzero, hns⟩ := hns
      rename_i ns
      have hdigit : digit? 48 = some 0 := rfl
      obtain rfl := Option.some.inj (hdigit.symm.trans hzero)
      exact ⟨ns, .inl (writes_iff_forall₂.mpr hns),
        (isNumberOf_zero_cons_iff (by rw [← hns.length_eq, hodd])).mp hnumber⟩
    · exact hstray 120 (by simp) (.inl (List.cons.inj hseen).2)
    · exact hstray 88 (by simp) (.inl (List.cons.inj hseen).2)
  next =>
    fin_cases hmark
    · obtain rfl : dropLowerPrefix (Bytes.ofText s) = digits := hseen
      exact ⟨ns, .inl (writes_iff_forall₂.mpr hns), hnumber⟩
    · exact hstray 120 (by simp) (.inr hseen)
    · exact hstray 88 (by simp) (.inr hseen)

/-- The lenient reader takes numbers as nodes write them, and strays, and reads the number. -/
theorem decodePadded_eq_ok_iff :
    decodePadded s = .ok bs ↔ ∃ ns, (Writes s ns ∨ Strays s ns) ∧ IsNumberOf bs ns := by
  refine ⟨writes_or_strays_of_decodePadded, ?_⟩
  rintro ⟨ns, hwrites | hstrays, hnumber⟩
  · obtain ⟨bs', hbs', hnumber'⟩ := decodePadded_of_writes hwrites
    rw [hbs', hnumber.unique hnumber']
  · exact decodePadded_of_strays hstrays hnumber

/-- There are bytes of the number that given digits write, if a text of them passes. -/
theorem Strays.exists_isNumberOf (h : Strays s ns) : ∃ bs, IsNumberOf bs ns := by
  obtain ⟨heven, -, -, cs, -, hcs⟩ := strays_iff.mp h
  obtain ⟨bs, -, hlength, hvalue⟩ :=
    decodeDigits_of_forall₂ hcs (by rw [hcs.length_eq, heven]) 0
  exact ⟨bs, by omega, hvalue⟩

/-- For every text: the lenient reader takes it exactly if it is a number as nodes write it or a
stray, and reads the number that its digits write. So it takes the text for nothing but a number as
nodes write it exactly if the text is no stray. -/
theorem decodePadded_discriminates_iff (s : String) :
    (∀ bs, decodePadded s = .ok bs ↔ ∃ ns, (Writes s ns ∨ Strays s ns) ∧ IsNumberOf bs ns) ∧
      ((∀ bs, decodePadded s = .ok bs → ∃ ns, Writes s ns) ↔ ∀ ns, ¬ Strays s ns) := by
  refine ⟨fun _ => decodePadded_eq_ok_iff, fun h ns hstrays => ?_, fun h bs hbs => ?_⟩
  · obtain ⟨bs, hnumber⟩ := hstrays.exists_isNumberOf
    obtain ⟨ns', hwrites⟩ := h bs (decodePadded_of_strays hstrays hnumber)
    exact hstrays.not_writes ns' hwrites
  · obtain ⟨ns, hwrites | hstrays, -⟩ := decodePadded_eq_ok_iff.mp hbs
    · exact ⟨ns, hwrites⟩
    · exact absurd hstrays (h ns)

/-- The zero in front of three characters makes a prefix of an `x`, and the text passes. -/
theorem decodePadded_takes_stray :
    decodePadded "x12" = .ok [0x12] ∧ ∀ ns, ¬ Writes "x12" ns := by
  refine ⟨by decide +kernel, ?_⟩
  have hstray : Strays "x12" [1, 2] :=
    ⟨rfl, "x", by decide, ['1', '2'], .cons rfl (.cons rfl .nil), rfl⟩
  exact hstray.not_writes

end CrossCall.Hex
