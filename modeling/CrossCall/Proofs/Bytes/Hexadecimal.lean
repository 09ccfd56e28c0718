import Mathlib
import CrossCall.Bytes.Hex
import CrossCall.Bytes.Lemmas

/-!
# Hexadecimal numbers

A text of hexadecimal digits writes a number, and the lenient reader of nodes' answers reads the
bytes of the same number: two digits a byte, with a zero in front of an odd number of digits.

## Main definitions

* `Hex.digitValue?` — the value of a digit in either case
* `Hex.Writes` — a text is an optional `0x` and digits with these values

## Main results

* `Bytes.ofText_eq` — the bytes of a text, character by character
* `Bytes.ofText_injective` — texts with the same bytes are the same
* `Hex.decodeDigits_of_forall₂` — pairs of digits are read as the bytes of their number
* `Hex.decodePadded_of_writes` — a number is read as it is written
-/

namespace CrossCall

/-! ### The bytes of a text -/

private theorem toList_loop (bs : ByteArray) (i : Nat) (r : List UInt8) :
    ByteArray.toList.loop bs i r = r.reverse ++ bs.data.toList.drop i := by
  fun_induction ByteArray.toList.loop bs i r with
  | case1 i r hlt ih =>
    have hi : i < bs.data.toList.length := hlt
    rw [ih, List.reverse_cons, List.append_assoc, List.drop_eq_getElem_cons hi]
    simp [ByteArray.get!, hlt]
  | case2 i r hge =>
    have hi : bs.data.toList.length ≤ i := Nat.not_lt.mp hge
    rw [List.drop_eq_nil_of_le hi, List.append_nil]

theorem Bytes.ofText_eq_data (s : String) : ofText s = s.toUTF8.data.toList := by
  rw [ofText, ByteArray.toList, toList_loop]
  rfl

theorem Bytes.ofText_eq (s : String) : ofText s = s.toList.flatMap String.utf8EncodeChar := by
  rw [ofText_eq_data, String.toUTF8, ← String.utf8Encode_toList, List.utf8Encode]
  simp

theorem Bytes.ofText_append (s t : String) : ofText (s ++ t) = ofText s ++ ofText t := by
  simp only [ofText_eq, String.toList_append, List.flatMap_append]

theorem Bytes.ofText_injective : Function.Injective ofText := by
  intro s t h
  rw [ofText_eq_data, ofText_eq_data] at h
  exact String.toByteArray_inj.mp (ByteArray.ext (Array.toList_inj.mp h))

namespace Hex

/-! ### Digits -/

/-- The digits, in the order of their values. -/
def digits : List Char :=
  ['0', '1', '2', '3', '4', '5', '6', '7', '8', '9', 'a', 'b', 'c', 'd', 'e', 'f']

/-- The value of a hexadecimal digit, which may be in either case. -/
def digitValue? (c : Char) : Option Nat := digits.idxOf? c.toLower

private theorem digit?_ofNat :
    ∀ n < 128, digit? (UInt8.ofNat n) = digitValue? (Char.ofNat n) := by
  decide

/-- Beyond the ASCII characters there are no digits. -/
theorem lt_of_digitValue? {c : Char} {n : Nat} (h : digitValue? c = some n) : c.toNat < 128 := by
  by_contra hge
  have hlower : c.toLower = c := by
    -- The capital letters are ASCII characters.
    rw [Char.toLower, dif_neg]
    rintro ⟨-, hupper⟩
    have hle : c.toNat ≤ 'Z'.toNat := hupper
    have hz : 'Z'.toNat = 90 := rfl
    omega
  have hmem : c ∈ digits := by
    have hsome : (digits.idxOf? c).isSome := by
      rw [← hlower, ← digitValue?, h]
      rfl
    exact List.isSome_idxOf?.mp hsome
  have hascii : digits.all (·.toNat < 128) := by decide
  exact hge (by simpa using List.all_eq_true.mp hascii c hmem)

theorem digit?_lt {c : UInt8} {n : Nat} (h : digit? c = some n) : n < 16 := by
  rw [digit?] at h
  split_ifs at h with h₁ h₂ h₃
  all_goals
    simp only [Option.some.injEq, UInt8.le_iff_toNat_le, UInt8.reduceToNat] at *
    omega

theorem utf8EncodeChar_of_lt {c : Char} (h : c.toNat < 128) :
    String.utf8EncodeChar c = [UInt8.ofNat c.toNat] := by
  have hc : c.val.toNat ≤ 127 := Nat.le_of_lt_succ h
  simp only [String.utf8EncodeChar, if_pos hc]
  rfl

/-- A digit is one byte, which the reader takes for the same value. -/
theorem utf8EncodeChar_of_digitValue? {c : Char} {n : Nat} (h : digitValue? c = some n) :
    ∃ b, String.utf8EncodeChar c = [b] ∧ digit? b = some n := by
  have hlt := lt_of_digitValue? h
  refine ⟨UInt8.ofNat c.toNat, utf8EncodeChar_of_lt hlt, ?_⟩
  rw [digit?_ofNat _ hlt, Char.ofNat_toNat, h]

/-- What the reader takes for a digit is the byte of one. -/
theorem exists_char_of_digit? {b : UInt8} {n : Nat} (h : digit? b = some n) :
    ∃ c, String.utf8EncodeChar c = [b] ∧ digitValue? c = some n := by
  have hlt : b.toNat < 128 := by
    rw [digit?] at h
    split_ifs at h
    all_goals
      simp only [UInt8.le_iff_toNat_le, UInt8.reduceToNat] at *
      omega
  have hc : (Char.ofNat b.toNat).toNat = b.toNat := by
    rw [Char.toNat_ofNat, if_pos (.inl (by omega))]
  refine ⟨Char.ofNat b.toNat, ?_, ?_⟩
  · rw [utf8EncodeChar_of_lt (hc.trans_lt hlt), hc, UInt8.ofNat_toNat]
  · rw [← digit?_ofNat _ hlt, UInt8.ofNat_toNat, h]

/-! ### Texts of digits -/

/-- A text writes a number in digits of these values, most significant first, with `0x` in front or
without. -/
def Writes (s : String) (ns : List Nat) : Prop :=
  ∃ ds, List.Forall₂ (fun c n => digitValue? c = some n) ds ns ∧
    (s = String.ofList ds ∨ s = "0x" ++ String.ofList ds)

theorem forall₂_ofText {ds : List Char} {ns : List Nat}
    (h : List.Forall₂ (fun c n => digitValue? c = some n) ds ns) :
    List.Forall₂ (fun b n => digit? b = some n) (ds.flatMap String.utf8EncodeChar) ns := by
  induction h with
  | nil => exact .nil
  | cons hd _ ih =>
    obtain ⟨b, hb, hdigit⟩ := utf8EncodeChar_of_digitValue? hd
    rw [List.flatMap_cons, hb]
    exact .cons hdigit ih

variable {cs : Bytes} {ns : List Nat}

theorem exists_chars_of_forall₂ (h : List.Forall₂ (fun b n => digit? b = some n) cs ns) :
    ∃ ds, List.Forall₂ (fun c n => digitValue? c = some n) ds ns ∧
      ds.flatMap String.utf8EncodeChar = cs := by
  induction h with
  | nil => exact ⟨[], .nil, rfl⟩
  | @cons b n cs ns hdigit _ ih =>
    obtain ⟨c, hc, hvalue⟩ := exists_char_of_digit? hdigit
    obtain ⟨ds, hds, hcs⟩ := ih
    exact ⟨c :: ds, .cons hvalue hds, by rw [List.flatMap_cons, hc, hcs, List.singleton_append]⟩

/-- Digits do not begin with a prefix, which is no digit. -/
theorem dropPrefix_of_forall₂ (h : List.Forall₂ (fun b n => digit? b = some n) cs ns) :
    dropPrefix cs = cs ∧ dropLowerPrefix cs = cs := by
  cases h with
  | nil => exact ⟨rfl, rfl⟩
  | @cons b _ _ _ _ htail =>
    cases htail with
    | nil => exact ⟨by simp [dropPrefix], by simp [dropLowerPrefix]⟩
    | @cons b' _ _ _ hdigit _ =>
      have hne : ∀ x, digit? x = none → b' ≠ x := by
        rintro x hx rfl
        rw [hx] at hdigit
        cases hdigit
      have hlower := hne 120 rfl
      have hupper := hne 88 rfl
      exact ⟨by simp [dropPrefix, hlower, hupper], by simp [dropLowerPrefix, hlower]⟩

/-- Pairs of digits are read as the bytes of the number that they write. -/
theorem decodeDigits_of_forall₂ (h : List.Forall₂ (fun b n => digit? b = some n) cs ns)
    (heven : cs.length % 2 = 0) (position : Nat) :
    ∃ bs, decodeDigits position cs = .ok bs ∧ 2 * bs.length = ns.length ∧
      bs.toNat = Nat.ofDigits 16 ns.reverse := by
  induction position, cs using decodeDigits.induct generalizing ns with
  | case1 position =>
    cases h
    exact ⟨[], rfl, rfl, rfl⟩
  | case2 position b => simp at heven
  | case3 position hi lo rest hhi =>
    cases h with
    | cons hdigit _ =>
      rw [hhi] at hdigit
      cases hdigit
  | case4 position hi lo rest high hlo hhi =>
    cases h with
    | cons _ htail =>
      cases htail with
      | cons hdigit _ =>
        rw [hlo] at hdigit
        cases hdigit
  | case5 position hi lo rest high low hlo hhi ih =>
    obtain _ | ⟨hdigit, _ | ⟨hdigit', htail⟩⟩ := h
    rename_i ns
    obtain rfl := Option.some.inj (hhi.symm.trans hdigit)
    obtain rfl := Option.some.inj (hlo.symm.trans hdigit')
    have heven' : rest.length % 2 = 0 := by
      simp only [List.length_cons] at heven
      omega
    obtain ⟨bs, hbs, hlength, hvalue⟩ := ih htail heven'
    have hhigh := digit?_lt hhi
    have hlow := digit?_lt hlo
    have hbyte : (UInt8.ofNat (high * 16 + low)).toNat = high * 16 + low := by
      rw [UInt8.toNat_ofNat']
      omega
    have hpow : 256 ^ bs.length = 16 ^ ns.length := by
      rw [← hlength, Nat.pow_mul]
    refine ⟨UInt8.ofNat (high * 16 + low) :: bs, ?_, ?_, ?_⟩
    · rw [decodeDigits, hhi, hlo, hbs]
      rfl
    · simp only [List.length_cons]
      omega
    · rw [Bytes.toNat_cons, hbyte, hpow, hvalue, List.reverse_cons, List.reverse_cons,
        List.append_assoc, Nat.ofDigits_append, List.length_reverse]
      simp [Nat.ofDigits]
      ring

/-- The text without its prefix is the digits. -/
theorem forall₂_dropLowerPrefix_of_writes {s : String} (h : Writes s ns) :
    List.Forall₂ (fun b n => digit? b = some n) (dropLowerPrefix (Bytes.ofText s)) ns := by
  obtain ⟨ds, hds, rfl | rfl⟩ := h
  · have hcs := forall₂_ofText hds
    rwa [Bytes.ofText_eq, String.toList_ofList, (dropPrefix_of_forall₂ hcs).2]
  · have hcs := forall₂_ofText hds
    rwa [Bytes.ofText_eq, String.toList_append, List.flatMap_append, @String.toList_ofList ds]

/-- A number is read as it is written, with a zero in front of an odd number of digits. -/
theorem decodePadded_of_writes {s : String} (h : Writes s ns) :
    ∃ bs, decodePadded s = .ok bs ∧ bs.length = (ns.length + 1) / 2 ∧
      bs.toNat = Nat.ofDigits 16 ns.reverse := by
  have hcs := forall₂_dropLowerPrefix_of_writes h
  rw [decodePadded]
  generalize dropLowerPrefix (Bytes.ofText s) = cs at hcs
  have hlength := hcs.length_eq
  by_cases hodd : cs.length % 2 = 1
  · have hzero : List.Forall₂ (fun b n => digit? b = some n) (48 :: cs) (0 :: ns) :=
      .cons rfl hcs
    have heven : (48 :: cs).length % 2 = 0 := by
      rw [List.length_cons]
      omega
    obtain ⟨bs, hbs, hbytes, hvalue⟩ := decodeDigits_of_forall₂ hzero heven 0
    refine ⟨bs, ?_, ?_, ?_⟩
    · rw [if_pos hodd, decodeChars, if_neg (by omega), (dropPrefix_of_forall₂ hzero).1, hbs]
    · rw [List.length_cons] at hbytes
      omega
    · -- The zero in front is the last digit of the reversed ones and adds nothing.
      rw [hvalue, List.reverse_cons, Nat.ofDigits_append]
      simp
  · have heven : cs.length % 2 = 0 := by omega
    obtain ⟨bs, hbs, hbytes, hvalue⟩ := decodeDigits_of_forall₂ hcs heven 0
    refine ⟨bs, ?_, by omega, hvalue⟩
    rw [if_neg hodd, decodeChars, if_neg hodd, (dropPrefix_of_forall₂ hcs).1, hbs]

example : Writes "0xAbC" [10, 11, 12] ∧ decodePadded "0xAbC" = .ok [0x0a, 0xbc] :=
  ⟨⟨['A', 'b', 'C'], .cons rfl (.cons rfl (.cons rfl .nil)), .inr rfl⟩, by decide +kernel⟩

end Hex

end CrossCall
