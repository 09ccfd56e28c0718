import Mathlib
import CrossCall.Data.Json
import CrossCall.Json.Lexeme

/-!
# The lexemes of written trees

A tree is written on many lines, with blanks in front of each. Its lexemes are the same however it is
laid out: those of its parts, held together by marks. The reader finds exactly these in the text of a
tree, wherever the tree stands, because every escaped character is read as the one that was meant and
every number as the one that was written.

## Main definitions

* `Data.IsJson` — a tree that JSON can hold
* `Data.lexemes` — the lexemes of a tree
* `Json.EndsWords` — no word in front of a text goes on into it
* `Json.Spells` — a text consists of some lexemes, whatever follows it

## Main results

* `Json.lexemes?_escaped` — a character is read as it was escaped
* `Json.word?_toString` — an integer is read as it was written
* `Json.spells_prettyAt` — the text of a tree consists of the lexemes of the tree
-/

namespace CrossCall

/-! ### Trees -/

/-- A tree that JSON can hold: lists and records nest at most `depth` deep, integers fit into 64 bits,
and a record has each field once. What is no value of ours is left out. -/
inductive Data.IsJson : (depth : Nat) → Data → Prop
  | null {depth : Nat} : IsJson depth .null
  | bool {depth : Nat} (b : Bool) : IsJson depth (.bool b)
  | int {depth : Nat} {i : Int} (low : -2 ^ 63 ≤ i) (high : i < 2 ^ 64) : IsJson depth (.int i)
  | text {depth : Nat} (s : String) : IsJson depth (.text s)
  | list {depth : Nat} {items : List Data} (items_are : ∀ d ∈ items, IsJson depth d) :
      IsJson (depth + 1) (.list items)
  | record {depth : Nat} {fields : Fields} (names_nodup : (fields.map (·.1)).Nodup)
      (values_are : ∀ f ∈ fields, IsJson depth f.2) : IsJson (depth + 1) (.record fields)

namespace Data

open Json

mutual

/-- The lexemes of a tree. -/
def lexemes : Data → List Lexeme
  | list items => .mark '[' :: ([.mark ','].intercalate (itemLexemes items) ++ [.mark ']'])
  | record fields => .mark '{' :: ([.mark ','].intercalate (fieldLexemes fields) ++ [.mark '}'])
  | d => [.scalar d]

/-- The lexemes of each item. -/
def itemLexemes : List Data → List (List Lexeme)
  | [] => []
  | d :: ds => d.lexemes :: itemLexemes ds

/-- The lexemes of each field. -/
def fieldLexemes : List (String × Data) → List (List Lexeme)
  | [] => []
  | (name, d) :: fs => (.scalar (.text name) :: .mark ':' :: d.lexemes) :: fieldLexemes fs

end

end Data

namespace Json

variable {cs cs' rest word : List Char} {ls ls' : List Lexeme} {c : Char}

theorem lexemes?_cons (m : Mode) (c : Char) (cs : List Char) :
    lexemes? m (c :: cs) = (m.next c).bind fun r => (lexemes? r.1 cs).map (r.2 ++ ·) := by
  rw [lexemes?]
  rcases m.next c with _ | ⟨mode, ended⟩
  · rfl
  · cases hrest : lexemes? mode cs <;> simp [hrest]

/-- A character that ends no lexeme is taken up into the mode. -/
theorem lexemes?_cons_of_next {m m' : Mode} (h : m.next c = some (m', [])) (cs : List Char) :
    lexemes? m (c :: cs) = lexemes? m' cs := by
  rw [lexemes?_cons, h]
  simp

/-! ### Texts and their lexemes -/

/-- No word in front of a text goes on into it. -/
def EndsWords (cs : List Char) : Prop := ∀ c ∈ cs.head?, isWordCharacter c = false

/-- A text consists of some lexemes, whatever follows it that ends a word. -/
def Spells (cs : List Char) (ls : List Lexeme) : Prop :=
  ∀ rest, EndsWords rest → lexemes? .between (cs ++ rest) = (lexemes? .between rest).map (ls ++ ·)

theorem endsWords_nil : EndsWords [] := by simp [EndsWords]

theorem endsWords_cons (h : isWordCharacter c = false) : EndsWords (c :: cs) := by
  simp [EndsWords, h]

theorem EndsWords.append (h : EndsWords cs) (h' : EndsWords cs') : EndsWords (cs ++ cs') := by
  cases cs with
  | nil => exact h'
  | cons c cs => exact h

theorem spells_nil : Spells [] [] := by
  intro rest _
  simp

/-- What consists of some lexemes may stand in front of what ends its last word. -/
theorem Spells.append (h : Spells cs ls) (h' : Spells cs' ls') (hends : EndsWords cs') :
    Spells (cs ++ cs') (ls ++ ls') := by
  intro rest hrest
  rw [List.append_assoc, h _ (hends.append hrest), h' rest hrest, Option.map_map]
  congr 1
  funext tail
  simp

theorem Spells.cons_space (h : Spells cs ls) (hc : isSpace c) : Spells (c :: cs) ls := by
  intro rest hrest
  have hnext : Mode.between.next c = some (.between, []) := by simp [Mode.next, Mode.start, hc]
  rw [List.cons_append, lexemes?_cons_of_next hnext, h rest hrest]

theorem Spells.spaces_append {spaces : List Char} (h : Spells cs ls)
    (hspaces : ∀ c ∈ spaces, isSpace c) : Spells (spaces ++ cs) ls := by
  induction spaces with
  | nil => exact h
  | cons c spaces ih =>
    exact (ih fun x hx => hspaces x (List.mem_cons_of_mem c hx)).cons_space
      (hspaces c List.mem_cons_self)

theorem Spells.cons_mark (h : Spells cs ls) (hc : isMark c) (hspace : isSpace c = false) :
    Spells (c :: cs) (.mark c :: ls) := by
  intro rest hrest
  have hnext : Mode.between.next c = some (.between, [.mark c]) := by
    simp [Mode.next, Mode.start, hc, hspace]
  rw [List.cons_append, lexemes?_cons, hnext, Option.bind_some, h rest hrest, Option.map_map]
  rfl

/-! ### Words -/

/-- A word goes on to where it ends. -/
theorem lexemes?_word (hword : ∀ c ∈ word, isWordCharacter c) (hrest : EndsWords rest)
    (before : List Char) :
    lexemes? (.word before) (word ++ rest) =
      (word? (before.reverse ++ word)).bind fun d =>
        (lexemes? .between rest).map (.scalar d :: ·) := by
  induction word generalizing before with
  | nil =>
    rw [List.nil_append, List.append_nil]
    cases rest with
    | nil => cases hd : word? before.reverse <;> simp [lexemes?, Mode.finish, hd]
    | cons c rest =>
      have hc : isWordCharacter c = false := hrest c rfl
      rw [lexemes?_cons, lexemes?_cons, Mode.next, Mode.next, if_neg (by simp [hc])]
      cases hd : word? before.reverse with
      | none => simp
      | some d => cases hstart : Mode.start c <;> simp [Option.map_map, Function.comp_def]
  | cons c word ih =>
    have hc := hword c List.mem_cons_self
    have hnext : (Mode.word before).next c = some (.word (c :: before), []) := if_pos hc
    rw [List.cons_append, lexemes?_cons_of_next hnext,
      ih (fun x hx => hword x (List.mem_cons_of_mem c hx)), List.reverse_cons, List.append_assoc,
      List.singleton_append]

theorem not_isWordCharacter_of_isSpace (h : isSpace c) : isWordCharacter c = false := by
  simp only [isSpace, Bool.or_eq_true, decide_eq_true_eq] at h
  rcases h with ((rfl | rfl) | rfl) | rfl <;> decide

theorem start_of_isWordCharacter (hc : isWordCharacter c) :
    Mode.start c = some (.word [c], []) := by
  have hspace : isSpace c = false := by
    by_contra h
    rw [Bool.not_eq_false] at h
    rw [not_isWordCharacter_of_isSpace h] at hc
    cases hc
  have hmark : isMark c = false := by
    by_contra h
    simp only [isMark, Bool.not_eq_false, List.contains_iff_mem, List.mem_cons, List.not_mem_nil,
      or_false] at h
    rcases h with rfl | rfl | rfl | rfl | rfl | rfl <;> exact absurd hc (by decide)
  have hquote : c ≠ '"' := by
    rintro rfl
    exact absurd hc (by decide)
  simp [Mode.start, hspace, hmark, hquote, hc]

theorem spells_word {d : Data} (hne : word ≠ []) (hword : ∀ c ∈ word, isWordCharacter c)
    (hd : word? word = some d) : Spells word [.scalar d] := by
  intro rest hrest
  obtain ⟨c, word, rfl⟩ := List.exists_cons_of_ne_nil hne
  have hnext : Mode.between.next c = some (.word [c], []) :=
    start_of_isWordCharacter (hword c List.mem_cons_self)
  rw [List.cons_append, lexemes?_cons_of_next hnext,
    lexemes?_word (fun x hx => hword x (List.mem_cons_of_mem c hx)) hrest, List.reverse_singleton,
    List.singleton_append, hd]
  rfl

/-! ### Numbers -/

theorem digitValue?_of_isDigit (h : c.isDigit) : digitValue? 10 c = some (c.toNat - '0'.toNat) := by
  have hdigit : '0' ≤ c ∧ c ≤ '9' := by simpa [Char.isDigit, Char.le_def] using h
  have hlow : '0'.toNat ≤ c.toNat := hdigit.1
  have hhigh : c.toNat ≤ '9'.toNat := hdigit.2
  have hzero : '0'.toNat = 48 := rfl
  have hnine : '9'.toNat = 57 := rfl
  rw [digitValue?, if_pos hdigit, if_pos (by omega)]

theorem foldlM_digitValue?_eq {digits : List Char} (hdigits : ∀ c ∈ digits, c.isDigit) (n : Nat) :
    digits.foldlM (fun n c => (digitValue? 10 c).map (n * 10 + ·)) n =
      some (Nat.ofDigitChars 10 digits n) := by
  induction digits generalizing n with
  | nil => rfl
  | cons c digits ih =>
    obtain ⟨hc, hrest⟩ := List.forall_mem_cons.mp hdigits
    rw [List.foldlM_cons, digitValue?_of_isDigit hc, Option.map_some]
    refine (ih hrest _).trans ?_
    rw [Nat.ofDigitChars, Nat.ofDigitChars, List.foldl_cons, Nat.mul_comm]

theorem number?_of_isDigit {digits : List Char} (hne : digits ≠ [])
    (hdigits : ∀ c ∈ digits, c.isDigit) :
    number? 10 digits = some (Nat.ofDigitChars 10 digits 0) := by
  obtain ⟨c, digits, rfl⟩ := List.exists_cons_of_ne_nil hne
  exact foldlM_digitValue?_eq hdigits 0

theorem isDigit_of_mem_toDigits {n : Nat} (hc : c ∈ Nat.toDigits 10 n) : c.isDigit :=
  Nat.isDigit_of_mem_toDigits (by decide) (by decide) hc

/-- The first digit of a number is not zero, unless the number is. -/
theorem head?_toDigits_ne {n : Nat} (hn : 0 < n) : (Nat.toDigits 10 n).head? ≠ some '0' := by
  induction n using Nat.strongRecOn with
  | _ n ih =>
    by_cases hsmall : n < 10
    · rw [Nat.toDigits_of_lt_base hsmall]
      interval_cases n <;> decide
    · -- The last digit changes nothing about the first.
      rw [Nat.toDigits_of_base_le (by decide) (by omega),
        List.head?_append_of_ne_nil _ Nat.toDigits_ne_nil]
      exact ih (n / 10) (by omega) (by omega)

theorem whole?_toDigits (n : Nat) : whole? (Nat.toDigits 10 n) = some n := by
  have hnumber : number? 10 (Nat.toDigits 10 n) = some n := by
    rw [number?_of_isDigit Nat.toDigits_ne_nil fun c => isDigit_of_mem_toDigits,
      Nat.ofDigitChars_ten_toDigits]
  have hfirst : ∀ d cs, Nat.toDigits 10 n ≠ '0' :: d :: cs := by
    intro d cs heq
    have hn : 0 < n := by
      by_contra hzero
      obtain rfl : n = 0 := by omega
      cases heq
    exact head?_toDigits_ne hn (by rw [heq]; rfl)
  rw [whole?, hnumber]
  exact hfirst

theorem numeral?_toDigits (isNegative : Bool) (n : Nat)
    (hfits : if isNegative then 0 < n ∧ n ≤ 2 ^ 63 else n < 2 ^ 64) :
    numeral? isNegative (Nat.toDigits 10 n) =
      some (.int (if isNegative then -(n : Int) else n)) := by
  have hall : ∀ c ∈ Nat.toDigits 10 n, c.isDigit := fun c => isDigit_of_mem_toDigits
  have htake : (Nat.toDigits 10 n).takeWhile Char.isDigit = Nat.toDigits 10 n :=
    List.takeWhile_eq_self_iff.mpr hall
  have hdrop : (Nat.toDigits 10 n).dropWhile Char.isDigit = [] := List.dropWhile_eq_nil_iff.mpr hall
  rw [numeral?, htake, hdrop, whole?_toDigits]
  cases isNegative with
  | false => simp_all
  | true => simp_all

/-- A number is none of the words. -/
theorem word?_of_isDigit (hc : c.isDigit) : word? (c :: cs) = numeral? false (c :: cs) := by
  have hne (x : Char) (hx : x.isDigit = false) : c ≠ x := by
    rintro rfl
    rw [hx] at hc
    cases hc
  have hn := hne 'n' rfl
  have ht := hne 't' rfl
  have hf := hne 'f' rfl
  have hsign := hne '-' rfl
  simp only [word?, List.cons.injEq, hn, ht, hf, false_and, if_false]
  split
  next heq => exact absurd (List.cons.inj heq).1 hsign
  next => rfl

theorem word?_sign (cs : List Char) : word? ('-' :: cs) = numeral? true cs := by
  simp [word?]

theorem toList_toString (i : Int) :
    (toString i).toList =
      if i < 0 then '-' :: Nat.toDigits 10 i.natAbs else Nat.toDigits 10 i.natAbs := by
  cases i with
  | ofNat n =>
    change (toString n).toList = _
    rw [Nat.toString_eq_ofList_toDigits, String.toList_ofList, if_neg (by simp)]
    rfl
  | negSucc n =>
    change ("-" ++ toString (n + 1)).toList = _
    rw [String.toList_append, Nat.toString_eq_ofList_toDigits, if_pos (Int.negSucc_lt_zero n),
      String.toList_ofList (l := Nat.toDigits 10 (n + 1))]
    rfl

/-- An integer is read as it was written. -/
theorem word?_toString {i : Int} (low : -2 ^ 63 ≤ i) (high : i < 2 ^ 64) :
    word? (toString i).toList = some (.int i) := by
  rw [toList_toString]
  split
  next hneg =>
    have hfits : 0 < i.natAbs ∧ i.natAbs ≤ 2 ^ 63 := by omega
    have hvalue : -(i.natAbs : Int) = i := by omega
    rw [word?_sign, numeral?_toDigits true _ hfits, if_pos rfl, hvalue]
  next hnonneg =>
    have hne : Nat.toDigits 10 i.natAbs ≠ [] := Nat.toDigits_ne_nil
    obtain ⟨c, cs, hcs⟩ := List.exists_cons_of_ne_nil hne
    have hmem : c ∈ Nat.toDigits 10 i.natAbs := hcs ▸ List.mem_cons_self
    have hc : c.isDigit := isDigit_of_mem_toDigits hmem
    have hfits : i.natAbs < 2 ^ 64 := by omega
    have hvalue : (i.natAbs : Int) = i := by omega
    rw [hcs, word?_of_isDigit hc, ← hcs, numeral?_toDigits false _ hfits, if_neg (by simp), hvalue]

/-- An integer is written as one word. -/
theorem spells_toString {i : Int} (low : -2 ^ 63 ≤ i) (high : i < 2 ^ 64) :
    Spells (toString i).toList [.scalar (.int i)] := by
  have hdigits : ∀ c ∈ Nat.toDigits 10 i.natAbs, isWordCharacter c := by
    intro c hc
    have hdigit : c.isDigit := isDigit_of_mem_toDigits hc
    simp [isWordCharacter, Char.isAlphanum, hdigit]
  refine spells_word ?_ ?_ (word?_toString low high)
  · rw [toList_toString]
    split
    · exact List.cons_ne_nil _ _
    · exact Nat.toDigits_ne_nil
  · rw [toList_toString]
    split
    · exact List.forall_mem_cons.mpr ⟨by decide, hdigits⟩
    · exact hdigits

/-! ### Quoted texts -/

/-- A letter after a backslash is read as the character that it stands for. -/
theorem lexemes?_letter {letter x : Char} {text : String} (htext : text.toList = ['\\', letter])
    (hletter : letter ≠ 'u') (hx : escape? letter = some x) (before rest : List Char) :
    lexemes? (.quoted before) (text.toList ++ rest) = lexemes? (.quoted (x :: before)) rest := by
  have hbackslash : (Mode.quoted before).next '\\' = some (.escape before, []) := rfl
  have hnext : (Mode.escape before).next letter = some (.quoted (x :: before), []) := by
    simp [Mode.next, hletter, hx]
  rw [htext, List.cons_append, List.singleton_append, lexemes?_cons_of_next hbackslash,
    lexemes?_cons_of_next hnext]

/-- Fewer than four digits name nothing yet. -/
theorem next_named {before digits : List Char} (h : digits.length < 3) (c : Char) :
    (Mode.named before digits).next c = some (.named before (digits ++ [c]), []) := by
  have hlength : (digits ++ [c]).length < 4 := by
    rw [List.length_append, List.length_singleton]
    omega
  have hnamed : named? (digits ++ [c]) = none := by
    rw [named?]
    · rintro a b c d heq
      simp [heq] at hlength
    · rintro a b c d e f g h heq
      simp [heq] at hlength
  simp only [Mode.next, hnamed, isUnfinished, hlength, decide_true, Bool.true_or, if_true]

/-- Four digits after `\u` are read as the character that they name. -/
theorem lexemes?_named {a b c d x : Char} (h : named? [a, b, c, d] = some x)
    (before rest : List Char) :
    lexemes? (.quoted before) ('\\' :: 'u' :: a :: b :: c :: d :: rest) =
      lexemes? (.quoted (x :: before)) rest := by
  have hbackslash : (Mode.quoted before).next '\\' = some (.escape before, []) := rfl
  have hletter : (Mode.escape before).next 'u' = some (.named before [], []) := rfl
  have hlast : (Mode.named before [a, b, c]).next d = some (.quoted (x :: before), []) := by
    simp [Mode.next, h]
  rw [lexemes?_cons_of_next hbackslash, lexemes?_cons_of_next hletter,
    lexemes?_cons_of_next (next_named (by decide) a),
    lexemes?_cons_of_next (next_named (by simp) b), lexemes?_cons_of_next (next_named (by simp) c)]
  exact lexemes?_cons_of_next hlast rest

theorem lexemes?_plain (hquote : c ≠ '"') (hbackslash : c ≠ '\\') (hplain : ¬c.toNat < 32)
    (before rest : List Char) :
    lexemes? (.quoted before) (c :: rest) = lexemes? (.quoted (c :: before)) rest := by
  have hnext : (Mode.quoted before).next c = some (.quoted (c :: before), []) := by
    simp [Mode.next, hquote, hbackslash, hplain]
  exact lexemes?_cons_of_next hnext rest

/-- The digits of a control character name it. -/
theorem named?_control : ∀ n < 32,
    named? ('0' :: '0' :: (Hex.encodeDigits [UInt8.ofNat n]).map fun d => Char.ofNat d.toNat) =
      some (Char.ofNat n) := by
  decide

/-- A character is read as it was escaped. -/
theorem lexemes?_escaped (c : Char) (before rest : List Char) :
    lexemes? (.quoted before) ((Data.escaped c).toList ++ rest) =
      lexemes? (.quoted (c :: before)) rest := by
  have hchar {x : Char} (h : c.toNat = x.toNat) : x = c := Char.ext (UInt32.toNat_inj.mp h.symm)
  unfold Data.escaped
  split
  next h => exact hchar (x := '"') h ▸ lexemes?_letter rfl (by decide) rfl before rest
  next h => exact hchar (x := '\\') h ▸ lexemes?_letter rfl (by decide) rfl before rest
  next h => exact hchar (x := '\x08') h ▸ lexemes?_letter rfl (by decide) rfl before rest
  next h => exact hchar (x := '\t') h ▸ lexemes?_letter rfl (by decide) rfl before rest
  next h => exact hchar (x := '\n') h ▸ lexemes?_letter rfl (by decide) rfl before rest
  next h => exact hchar (x := '\x0c') h ▸ lexemes?_letter rfl (by decide) rfl before rest
  next h => exact hchar (x := '\r') h ▸ lexemes?_letter rfl (by decide) rfl before rest
  next hquote hbackslash _ _ _ _ _ =>
    split
    next hcontrol =>
      have hnamed := named?_control c.toNat hcontrol
      rw [String.toList_append, String.toList_ofList, String.toList_ofList]
      simp only [Char.ofNat_toNat, Hex.encodeDigits, List.map_cons, List.map_nil, List.cons_append,
        List.nil_append] at hnamed ⊢
      exact lexemes?_named hnamed before rest
    next hplain =>
      rw [String.toList_singleton, List.singleton_append]
      refine lexemes?_plain ?_ ?_ hplain before rest
      · rintro rfl
        exact hquote rfl
      · rintro rfl
        exact hbackslash rfl

theorem lexemes?_quoted (s before rest : List Char) :
    lexemes? (.quoted before) (s.flatMap (fun c => (Data.escaped c).toList) ++ '"' :: rest) =
      (lexemes? .between rest).map (.scalar (.text (String.ofList (before.reverse ++ s))) :: ·) := by
  induction s generalizing before with
  | nil =>
    rw [List.flatMap_nil, List.nil_append, lexemes?_cons, List.append_nil]
    rfl
  | cons c s ih =>
    rw [List.flatMap_cons, List.append_assoc, lexemes?_escaped, ih, List.reverse_cons,
      List.append_assoc, List.singleton_append]

/-- A text is read as it was quoted. -/
theorem Spells.quoted_append (s : String) (h : Spells cs ls) :
    Spells ((Data.quoted s).toList ++ cs) (.scalar (.text s) :: ls) := by
  intro rest hrest
  have htext : (Data.quoted s).toList ++ cs ++ rest =
      '"' :: (s.toList.flatMap (fun c => (Data.escaped c).toList) ++ '"' :: (cs ++ rest)) := by
    simp [Data.quoted, List.flatMap_map]
  have hopen : Mode.between.next '"' = some (.quoted [], []) := rfl
  rw [htext, lexemes?_cons_of_next hopen, lexemes?_quoted, h rest hrest,
    Option.map_map, List.reverse_nil, List.nil_append, String.ofList_toList]
  rfl

/-! ### Trees on many lines -/

/-- Parts with commas between them, and a line for each. -/
theorem spells_intercalate {spaces : List Char} (hspaces : ∀ c ∈ spaces, isSpace c)
    {pieces : List (List Char)} {parts : List (List Lexeme)} (h : List.Forall₂ Spells pieces parts) :
    Spells ((',' :: spaces).intercalate pieces) ([.mark ','].intercalate parts) := by
  induction h with
  | nil => exact spells_nil
  | @cons piece part pieces parts hpiece hpieces ih =>
    cases hpieces with
    | nil => simpa using hpiece
    | cons hnext hrest =>
      rw [List.intercalate_cons_cons, List.intercalate_cons_cons, List.append_assoc,
        List.append_assoc]
      exact hpiece.append ((ih.spaces_append hspaces).cons_mark rfl rfl) (endsWords_cons rfl)

theorem toList_newLine (depth : Nat) :
    (Data.newLine depth).toList = '\n' :: List.replicate (2 * depth) ' ' := by
  simp [Data.newLine]

theorem isSpace_of_mem_newLine {depth : Nat} (hc : c ∈ (Data.newLine depth).toList) : isSpace c := by
  rw [toList_newLine, List.mem_cons, List.mem_replicate] at hc
  rcases hc with rfl | ⟨-, rfl⟩ <;> rfl

theorem spells_block {opening closing : String} {o c : Char} (hopening : opening.toList = [o])
    (hclosing : closing.toList = [c]) (ho : isMark o ∧ isSpace o = false)
    (hc : isMark c ∧ isSpace c = false) (depth : Nat) {lines : List String}
    {parts : List (List Lexeme)}
    (h : List.Forall₂ (fun line => Spells line.toList) lines parts) :
    Spells (Data.block opening closing depth lines).toList
      (.mark o :: ([.mark ','].intercalate parts ++ [.mark c])) := by
  have hend : Spells [c] [.mark c] := spells_nil.cons_mark hc.1 hc.2
  cases h with
  | nil =>
    have htext : (Data.block opening closing depth []).toList = o :: [c] := by
      simp [Data.block, hopening, hclosing]
    rw [htext]
    exact hend.cons_mark ho.1 ho.2
  | @cons line part lines parts hline hlines =>
    have htext : (Data.block opening closing depth (line :: lines)).toList =
        o :: ((Data.newLine (depth + 1)).toList ++
          ((',' :: (Data.newLine (depth + 1)).toList).intercalate
            ((line :: lines).map String.toList) ++ ((Data.newLine depth).toList ++ [c]))) := by
      simp [Data.block, hopening, hclosing, String.toList_intercalate]
    have hspaces {n : Nat} : ∀ x ∈ (Data.newLine n).toList, isSpace x := fun x =>
      isSpace_of_mem_newLine
    have hparts := spells_intercalate (hspaces (n := depth + 1))
      (List.forall₂_map_left_iff.mpr (List.Forall₂.cons hline hlines))
    have hlast : EndsWords ((Data.newLine depth).toList ++ [c]) := by
      rw [toList_newLine]
      exact endsWords_cons rfl
    rw [htext]
    exact ((hparts.append (hend.spaces_append hspaces) hlast).spaces_append hspaces).cons_mark
      ho.1 ho.2

theorem forall₂_prettyItems {depth : Nat} {items : List Data}
    (h : ∀ d ∈ items, Spells (Data.prettyAt depth d).toList d.lexemes) :
    List.Forall₂ (fun line => Spells line.toList) (Data.prettyItems depth items)
      (Data.itemLexemes items) := by
  induction items with
  | nil => exact .nil
  | cons d items ih =>
    rw [Data.prettyItems, Data.itemLexemes]
    obtain ⟨hd, hitems⟩ := List.forall_mem_cons.mp h
    exact .cons hd (ih hitems)

theorem forall₂_prettyFields {depth : Nat} {fields : Fields}
    (h : ∀ f ∈ fields, Spells (Data.prettyAt depth f.2).toList f.2.lexemes) :
    List.Forall₂ (fun line => Spells line.toList) (Data.prettyFields depth fields)
      (Data.fieldLexemes fields) := by
  induction fields with
  | nil => exact .nil
  | cons f fields ih =>
    obtain ⟨name, d⟩ := f
    rw [Data.prettyFields, Data.fieldLexemes]
    obtain ⟨hd, hfields⟩ := List.forall_mem_cons.mp h
    refine .cons ?_ (ih hfields)
    have htext : (Data.quoted name ++ ": " ++ Data.prettyAt depth d).toList =
        (Data.quoted name).toList ++ ':' :: ' ' :: (Data.prettyAt depth d).toList := by
      simp
    rw [htext]
    exact ((hd.cons_space rfl).cons_mark rfl rfl).quoted_append name

/-- The text of a tree consists of the lexemes of the tree, at any depth of nesting. -/
theorem spells_prettyAt {n : Nat} {d : Data} (h : d.IsJson n) (depth : Nat) :
    Spells (Data.prettyAt depth d).toList d.lexemes := by
  have hnull : Spells ['n', 'u', 'l', 'l'] [.scalar .null] :=
    spells_word (by simp) (List.all_eq_true.mp rfl) (by simp [word?])
  have htrue : Spells ['t', 'r', 'u', 'e'] [.scalar (.bool true)] :=
    spells_word (by simp) (List.all_eq_true.mp rfl) (by simp [word?])
  have hfalse : Spells ['f', 'a', 'l', 's', 'e'] [.scalar (.bool false)] :=
    spells_word (by simp) (List.all_eq_true.mp rfl) (by simp [word?])
  induction h generalizing depth with
  | null =>
    rw [Data.prettyAt]
    exact hnull
  | bool b =>
    rw [Data.prettyAt]
    cases b with
    | true => exact htrue
    | false => exact hfalse
  | int low high => exact spells_toString low high
  | text s =>
    have htext := spells_nil.quoted_append s
    rwa [List.append_nil] at htext
  | list _ ih =>
    rw [Data.prettyAt, Data.lexemes]
    exact spells_block rfl rfl ⟨rfl, rfl⟩ ⟨rfl, rfl⟩ depth
      (forall₂_prettyItems fun d hd => ih d hd (depth + 1))
  | record _ _ ih =>
    rw [Data.prettyAt, Data.lexemes]
    exact spells_block rfl rfl ⟨rfl, rfl⟩ ⟨rfl, rfl⟩ depth
      (forall₂_prettyFields fun f hf => ih f hf (depth + 1))

end Json
end CrossCall
