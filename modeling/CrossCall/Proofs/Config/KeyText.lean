import Mathlib
import CrossCall.Proofs.Bytes.Grammar
import CrossCall.Proofs.Config.Validation

/-!
# How a key may be written

A wallet takes a secret key in 64 hexadecimal digits, with one `0x` in front or without, and white
space around it. The white space and one `0x` are taken off first, and the reader of fixed-width
texts takes off a `0x` or `0X` of its own. So a key passes behind three more marks. No other text
does, and what it stands for is always the number that the digits write.

## Main definitions

* `Pads` — a text is another one with white space around it
* `SecretKey.WrittenBehind` — a text is the digits of a key behind a mark, with white space around
* `SecretKey.IsWritten`, `SecretKey.Strays` — the same behind a mark that is meant, or behind another
  one that passes
* `Wallet.GoesBy` — what becomes of a wallet whose text stands for certain keys

## Main results

* `trimBlank_eq_of_pads` — trimming takes off the white space around a text
* `SecretKey.ofText_eq_ok_iff` — which texts are read, and as which keys
* `Wallet.verifiedAccount_discriminates` — which wallets are accepted, and what becomes of the others
-/

namespace CrossCall

/-! ### White space around a text -/

theorem not_isBlank_of_printable {c : Char} (hlow : 32 < c.toNat) (hhigh : c.toNat < 127) :
    ¬ isBlank c := by
  simp only [isBlank, blankRanges, List.any_cons, List.any_nil, Bool.or_eq_true,
    Bool.and_eq_true, decide_eq_true_eq, Bool.false_eq_true, or_false]
  omega

/-- A text is another one with white space around it. -/
def Pads (s t : String) : Prop :=
  ∃ before after : List Char, (∀ c ∈ before, isBlank c) ∧ (∀ c ∈ after, isBlank c) ∧
    s.toList = before ++ (t.toList ++ after)

theorem toList_trimBlank (s : String) :
    (trimBlank s).toList = (s.toList.dropWhile isBlank).rdropWhile isBlank :=
  String.toList_ofList

theorem pads_trimBlank (s : String) : Pads s (trimBlank s) := by
  refine ⟨s.toList.takeWhile isBlank, (s.toList.dropWhile isBlank).rtakeWhile isBlank,
    fun c hc => List.mem_takeWhile_imp hc, fun c hc => List.mem_rtakeWhile_imp hc, ?_⟩
  rw [toList_trimBlank, List.rdropWhile_append_rtakeWhile, List.takeWhile_append_dropWhile]

theorem dropWhile_append_eq {α : Type} {p : α → Bool} {before rest : List α}
    (hbefore : ∀ a ∈ before, p a) (hrest : ∀ a ∈ rest.head?, ¬ p a) :
    (before ++ rest).dropWhile p = rest := by
  rw [List.dropWhile_append_of_pos hbefore]
  cases rest with
  | nil => rfl
  | cons a rest => exact List.dropWhile_cons_of_neg (hrest a rfl)

/-- The white space around a text without any of its own is taken off. -/
theorem trimBlank_eq_of_pads {s t : String} (h : Pads s t) (hne : t.toList ≠ [])
    (hsolid : ∀ c ∈ t.toList, ¬ isBlank c) : trimBlank s = t := by
  obtain ⟨before, after, hbefore, hafter, hs⟩ := h
  have hfront : (before ++ (t.toList ++ after)).dropWhile isBlank = t.toList ++ after := by
    refine dropWhile_append_eq hbefore fun c hc => hsolid c ?_
    rw [List.head?_append_of_ne_nil _ hne] at hc
    exact List.mem_of_mem_head? hc
  -- Seen from the end, the white space is in front again.
  have hend : (after.reverse ++ t.toList.reverse).dropWhile isBlank = t.toList.reverse := by
    refine dropWhile_append_eq (fun c hc => hafter c (List.mem_reverse.mp hc)) fun c hc => ?_
    exact hsolid c (List.mem_reverse.mp (List.mem_of_mem_head? hc))
  apply String.toList_inj.mp
  rw [toList_trimBlank, hs, hfront, List.rdropWhile, List.reverse_append, hend,
    List.reverse_reverse]

namespace Hex

variable {cs bs : Bytes} {ns : List Nat} {s t mark : String}

theorem not_isBlank_of_digitValue? {c : Char} {n : Nat} (h : digitValue? c = some n) :
    ¬ isBlank c := by
  have hmem : c.toLower ∈ digits := by
    rw [← List.isSome_idxOf?, ← digitValue?, h]
    rfl
  have hprintable : digits.all (fun d => 32 < d.toNat && d.toNat < 127) := by decide
  -- Only a capital letter is a digit without being one of `digits` itself.
  by_cases hupper : 'A'.toNat ≤ c.toNat ∧ c.toNat ≤ 'Z'.toNat
  · have ha : 'A'.toNat = 65 := rfl
    have hz : 'Z'.toNat = 90 := rfl
    exact not_isBlank_of_printable (by omega) (by omega)
  · have hlower : c.toLower = c := dif_neg hupper
    rw [hlower] at hmem
    have hc := List.all_eq_true.mp hprintable c hmem
    rw [Bool.and_eq_true, decide_eq_true_eq, decide_eq_true_eq] at hc
    exact not_isBlank_of_printable hc.1 hc.2

/-- Digits behind a mark have no white space around them. -/
theorem WritesBehind.trimBlank_eq (h : WritesBehind mark t ns) (hne : ns ≠ [])
    (hmark : ∀ c ∈ mark.toList, ¬ isBlank c) (hpads : Pads s t) : trimBlank s = t := by
  obtain ⟨ds, hds, rfl⟩ := h
  have htext : (mark ++ String.ofList ds).toList = mark.toList ++ ds := by simp
  refine trimBlank_eq_of_pads hpads ?_ fun c hc => ?_
  · rw [htext]
    have hlength := hds.length_eq
    cases ds with
    | nil => exact absurd (List.length_eq_zero_iff.mp hlength.symm) hne
    | cons d ds => simp
  · rw [htext, List.mem_append] at hc
    rcases hc with hc | hc
    · exact hmark c hc
    · obtain ⟨i, hi, rfl⟩ := List.getElem_of_mem hc
      have hi' : i < ns.length := hds.length_eq ▸ hi
      exact not_isBlank_of_digitValue? (List.Forall₂.get hds hi hi')

/-- The reader of fixed-width texts takes what the strict reader takes, if it has the width. -/
theorem decodeExactChars_eq_ok_iff {width : Nat} :
    decodeExactChars width cs = .ok bs ↔ decodeChars cs = .ok bs ∧ bs.length = width := by
  rw [decodeExactChars, decodeChars]
  split
  · simp
  · have hlength : decodeDigits 0 (dropPrefix cs) = .ok bs →
        (dropPrefix cs).length = 2 * bs.length := by
      intro h
      obtain ⟨ns, hns, heven, hbytes, -⟩ := (decodeDigits_eq_ok_iff 0).mp h
      have := hns.length_eq
      omega
    split
    · simp only [reduceCtorEq, false_iff, not_and]
      intro h
      have := hlength h
      omega
    · rw [iff_self_and]
      intro h
      have := hlength h
      omega

/-- What is left after a first `0x` is digits behind a mark exactly if the text was. -/
theorem exists_mark_dropLowerPrefix_iff :
    (∃ mark ∈ [[], [48, 120], [48, 88]], ∃ digits, dropLowerPrefix cs = mark ++ digits ∧
        List.Forall₂ (fun b n => digit? b = some n) digits ns) ↔
      ∃ mark ∈ [[], [48, 120], [48, 88], [48, 120, 48, 120], [48, 120, 48, 88]], ∃ digits,
        cs = mark ++ digits ∧ List.Forall₂ (fun b n => digit? b = some n) digits ns := by
  constructor
  · rintro ⟨mark, hmark, digits, hdrop, hdigits⟩
    obtain ⟨lower, hlower, hcs⟩ := exists_eq_append_dropLowerPrefix cs
    rw [hdrop, ← List.append_assoc] at hcs
    -- What was taken off and the mark behind it are one of the five marks together.
    refine ⟨lower ++ mark, ?_, digits, hcs, hdigits⟩
    fin_cases hlower <;> fin_cases hmark <;> decide
  · rintro ⟨mark, hmark, digits, rfl, hdigits⟩
    fin_cases hmark
    · exact ⟨[], by simp, digits, (dropPrefix_of_forall₂ hdigits).2, hdigits⟩
    · exact ⟨[], by simp, digits, rfl, hdigits⟩
    · exact ⟨[48, 88], by simp, digits, rfl, hdigits⟩
    · exact ⟨[48, 120], by simp, digits, rfl, hdigits⟩
    · exact ⟨[48, 88], by simp, digits, rfl, hdigits⟩

end Hex

/-! ### Keys -/

namespace SecretKey

variable {key : SecretKey} {s : String}

/-- A text is the 64 digits of a key behind a mark, with white space around. -/
def WrittenBehind (key : SecretKey) (mark s : String) : Prop :=
  ∃ t ns, Pads s t ∧ Hex.WritesBehind mark t ns ∧ ns.length = 64 ∧
    key.scalar = Nat.ofDigits 16 ns.reverse

/-- The marks that are meant: one `0x` or none. -/
def meantMarks : List String := ["", "0x"]

/-- The marks that pass besides. -/
def strayMarks : List String := ["0X", "0x0x", "0x0X"]

/-- A text writes a key. -/
def IsWritten (key : SecretKey) (s : String) : Prop := ∃ mark ∈ meantMarks, key.WrittenBehind mark s

/-- A text does not write a key, and yet is read as one. -/
def Strays (key : SecretKey) (s : String) : Prop := ∃ mark ∈ strayMarks, key.WrittenBehind mark s

/-- The bytes of the marks. -/
theorem ofText_marks :
    (meantMarks ++ strayMarks).map Bytes.ofText =
      [[], [48, 120], [48, 88], [48, 120, 48, 120], [48, 120, 48, 88]] := by
  simp only [meantMarks, strayMarks, List.map_cons, List.map_nil, List.cons_append, List.nil_append,
    Bytes.ofText_eq]
  rfl

theorem not_isBlank_of_mem_marks :
    ∀ mark ∈ meantMarks ++ strayMarks, ∀ c ∈ mark.toList, ¬ isBlank c := by
  have hprintable : ∀ mark ∈ meantMarks ++ strayMarks, ∀ c ∈ mark.toList,
      32 < c.toNat ∧ c.toNat < 127 := by
    simp [meantMarks, strayMarks]
  exact fun mark hmark c hc =>
    not_isBlank_of_printable (hprintable mark hmark c hc).1 (hprintable mark hmark c hc).2

theorem isWritten_or_strays_iff :
    key.IsWritten s ∨ key.Strays s ↔
      ∃ mark ∈ meantMarks ++ strayMarks, key.WrittenBehind mark s := by
  simp only [IsWritten, Strays, List.mem_append, or_and_right, exists_or]

/-- The digits behind a mark are what trimming leaves. -/
theorem writtenBehind_iff {mark : String} (hmark : mark ∈ meantMarks ++ strayMarks) :
    key.WrittenBehind mark s ↔
      ∃ ns, Hex.WritesBehind mark (trimBlank s) ns ∧ ns.length = 64 ∧
        key.scalar = Nat.ofDigits 16 ns.reverse := by
  constructor
  · rintro ⟨t, ns, hpads, hwrites, hlength, hscalar⟩
    -- There are digits, so there is something that parts the white space on the two sides.
    have hne : ns ≠ [] := by
      rintro rfl
      cases hlength
    rw [← hwrites.trimBlank_eq hne (not_isBlank_of_mem_marks mark hmark) hpads] at hwrites
    exact ⟨ns, hwrites, hlength, hscalar⟩
  · rintro ⟨ns, h⟩
    exact ⟨trimBlank s, ns, pads_trimBlank s, h⟩

theorem eq_of_scalar_eq {key' : SecretKey} (h : key.scalar = key'.scalar) : key = key' := by
  obtain ⟨n, _, _⟩ := key
  obtain rfl : n = key'.scalar := h
  rfl

theorem ofNat?_eq_some_iff {n : Nat} : ofNat? n = some key ↔ key.scalar = n := by
  rw [ofNat?]
  split
  next hrange =>
    rw [Option.some.injEq]
    exact ⟨fun h => h ▸ rfl, fun h => (eq_of_scalar_eq h).symm⟩
  next hrange =>
    simp only [reduceCtorEq, false_iff]
    rintro rfl
    exact hrange ⟨key.positive, key.below⟩

/-- A key is read from the digits that the reader of fixed-width texts gets to see. -/
theorem ofText_eq_ok_iff_decodeExactChars :
    ofText s = .ok key ↔
      ∃ bs, Hex.decodeExactChars 32 (Hex.dropLowerPrefix (Bytes.ofText (trimBlank s))) = .ok bs ∧
        key.scalar = bs.toNat := by
  rw [ofText, bind_eq_ok_iff]
  simp only [mapError_eq_ok_iff, ← ofNat?_eq_some_iff]
  refine exists_congr fun bs => and_congr_right fun _ => ?_
  cases ofNat? bs.toNat <;> simp [pure, Except.pure, throw, throwThe, MonadExceptOf.throw]

/-- A text is read as a key exactly if it is the digits of the key behind one of the marks. -/
theorem ofText_eq_ok_iff : ofText s = .ok key ↔ key.IsWritten s ∨ key.Strays s := by
  have hmarks : (∃ mark ∈ meantMarks ++ strayMarks, key.WrittenBehind mark s) ↔
      ∃ ns, (∃ mark ∈ meantMarks ++ strayMarks, Hex.WritesBehind mark (trimBlank s) ns) ∧
        ns.length = 64 ∧ key.scalar = Nat.ofDigits 16 ns.reverse := by
    constructor
    · rintro ⟨mark, hmark, h⟩
      obtain ⟨ns, hwrites, h⟩ := (writtenBehind_iff hmark).mp h
      exact ⟨ns, ⟨mark, hmark, hwrites⟩, h⟩
    · rintro ⟨ns, ⟨mark, hmark, hwrites⟩, h⟩
      exact ⟨mark, hmark, (writtenBehind_iff hmark).mpr ⟨ns, hwrites, h⟩⟩
  rw [isWritten_or_strays_iff, hmarks, ofText_eq_ok_iff_decodeExactChars]
  simp only [Hex.exists_writesBehind_iff, ofText_marks, ← Hex.exists_mark_dropLowerPrefix_iff,
    Hex.decodeExactChars_eq_ok_iff, Hex.decodeChars_eq_ok_iff]
  -- Both sides speak of the bytes behind the first `0x` now, and 64 digits are 32 bytes.
  constructor
  · rintro ⟨bs, ⟨⟨mark, hmark, digits, ns, hcs, hdigits, heven, hbytes, hvalue⟩, hlength⟩, hscalar⟩
    exact ⟨ns, ⟨mark, hmark, digits, hcs, hdigits⟩, by omega, hscalar.trans hvalue⟩
  · rintro ⟨ns, ⟨mark, hmark, digits, hcs, hdigits⟩, hlength, hscalar⟩
    have heven : digits.length % 2 = 0 := by rw [hdigits.length_eq, hlength]
    obtain ⟨bs, -, hbytes, hvalue⟩ := Hex.decodeDigits_of_forall₂ hdigits heven 0
    exact ⟨bs, ⟨⟨mark, hmark, digits, ns, hcs, hdigits, by omega, by omega, hvalue⟩, by omega⟩,
      hscalar.trans hvalue.symm⟩

/-- A text that strays does not write a key, neither this one nor another. -/
theorem Strays.not_isWritten (h : key.Strays s) (key' : SecretKey) : ¬ key'.IsWritten s := by
  obtain ⟨mark, hmark, h⟩ := h
  obtain ⟨ns, hstrays, hlength, -⟩ := (writtenBehind_iff (List.mem_append_right _ hmark)).mp h
  rintro ⟨mark', hmark', h'⟩
  obtain ⟨ns', hwrites, -⟩ := (writtenBehind_iff (List.mem_append_left _ hmark')).mp h'
  -- Nodes' numbers are written behind the same marks, and these are strays among them too.
  have hmarks : ∀ mark ∈ strayMarks, mark ∈ Hex.strayMarks := by decide
  have hstrays : Hex.Strays (trimBlank s) ns := ⟨by omega, mark, hmarks mark hmark, hstrays⟩
  refine hstrays.not_writes ns' (Hex.writes_iff_writesBehind.mpr ?_)
  simp only [meantMarks, List.mem_cons, List.not_mem_nil, or_false] at hmark'
  rcases hmark' with rfl | rfl
  · exact .inl hwrites
  · exact .inr hwrites

end SecretKey

/-! ### Wallets -/

namespace Wallet

/-- What becomes of a wallet whose text stands for certain keys. Its account is that of a key with
the configured address, the address of another key is reported beside the configured one, and a text
that stands for no key is reported as invalid. -/
structure GoesBy (w : Wallet) (stands : SecretKey → Prop) : Prop where
  ok_iff (account : Account) : w.verifiedAccount = .ok account ↔
    ∃ key, stands key ∧ key.address = w.fromAddress ∧ key.account = account
  mismatch_iff (expected actual : Address) :
    w.verifiedAccount = .error (.fromAddressMismatch expected actual) ↔
      ∃ key, stands key ∧ key.address ≠ w.fromAddress ∧ w.fromAddress = expected ∧
        key.address = actual
  invalid_iff : (∃ cause, w.verifiedAccount = .error (.invalidPrivateKey cause)) ↔
    ∀ key, ¬ stands key

theorem verifiedAccount_of_error {w : Wallet} {cause : KeyError}
    (h : SecretKey.ofText w.privateKey = .error cause) :
    w.verifiedAccount = .error (.invalidPrivateKey cause) := by
  rw [verifiedAccount, account, h]
  rfl

theorem verifiedAccount_of_ne {w : Wallet} {key : SecretKey}
    (h : SecretKey.ofText w.privateKey = .ok key) (haddress : key.address ≠ w.fromAddress) :
    w.verifiedAccount = .error (.fromAddressMismatch w.fromAddress key.address) := by
  rw [verifiedAccount, account, h]
  exact if_pos haddress

theorem verifiedAccount_of_eq {w : Wallet} {key : SecretKey}
    (h : SecretKey.ofText w.privateKey = .ok key) (haddress : key.address = w.fromAddress) :
    w.verifiedAccount = .ok key.account :=
  verifiedAccount_eq_ok_iff.mpr ⟨by rw [account, h], haddress⟩

/-- A wallet goes by the key that is read from its text. -/
theorem goesBy_ofText (w : Wallet) : w.GoesBy fun key => SecretKey.ofText w.privateKey = .ok key := by
  cases htext : SecretKey.ofText w.privateKey with
  | error cause => constructor <;> simp [verifiedAccount_of_error htext]
  | ok key =>
    by_cases haddress : key.address = w.fromAddress
    · constructor <;> simp [verifiedAccount_of_eq htext haddress, haddress]
    · constructor <;> simp [verifiedAccount_of_ne htext haddress, haddress]

/-- For every wallet: it goes by the keys that its text writes and by those that stray. So it goes by
the keys that its text writes exactly if none strays. -/
theorem verifiedAccount_discriminates (w : Wallet) :
    w.GoesBy (fun key => key.IsWritten w.privateKey ∨ key.Strays w.privateKey) ∧
      (w.GoesBy (fun key => key.IsWritten w.privateKey) ↔
        ∀ key : SecretKey, ¬ key.Strays w.privateKey) := by
  have hall : w.GoesBy fun key => key.IsWritten w.privateKey ∨ key.Strays w.privateKey := by
    simpa only [SecretKey.ofText_eq_ok_iff] using w.goesBy_ofText
  refine ⟨hall, fun hwritten key hstrays => ?_, fun hnone => ?_⟩
  · -- The text writes no key, and yet the wallet would not be reported as invalid.
    have hinvalid := hwritten.invalid_iff.mpr hstrays.not_isWritten
    exact hall.invalid_iff.mp hinvalid key (.inr hstrays)
  · simpa [hnone] using hall

end Wallet

namespace DoublyMarked

/-- The smallest key, and a wallet of its account with two marks in front of the key. -/
def key : SecretKey := ⟨1, Nat.one_pos, Curve.one_lt_order⟩

def wallet : Wallet where
  fromAddress := key.account.address
  privateKey := "0x0x0000000000000000000000000000000000000000000000000000000000000001"

theorem strays_wallet : key.Strays wallet.privateKey := by
  refine ⟨"0x0x", by decide, wallet.privateKey, List.replicate 63 0 ++ [1],
    ⟨[], [], by simp, by simp, by simp⟩, ⟨List.replicate 63 '0' ++ ['1'], ?_, rfl⟩, rfl, ?_⟩
  · decide
  · simp [key, Nat.ofDigits]

end DoublyMarked

/-- A wallet is accepted although its text writes no key. -/
theorem Wallet.verifiedAccount_takes_stray :
    DoublyMarked.wallet.verifiedAccount = .ok DoublyMarked.key.account ∧
      ∀ key : SecretKey, ¬ key.IsWritten DoublyMarked.wallet.privateKey := by
  refine ⟨?_, DoublyMarked.strays_wallet.not_isWritten⟩
  have hread := SecretKey.ofText_eq_ok_iff.mpr (.inr DoublyMarked.strays_wallet)
  exact ((goesBy_ofText _).ok_iff _).mpr ⟨DoublyMarked.key, hread, rfl, rfl⟩

end CrossCall
