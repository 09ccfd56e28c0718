import Mathlib
import CrossCall.Abi.Event
import CrossCall.Bytes.Lemmas

/-!
# Reading contract data that was written

Reading a row of values gives back what was written, whatever follows the row. The reader sees a
value only through its *place*: a static value stands in the row itself, and a dynamic one stands
behind an offset that stands in the row. So the argument has two halves. The writer puts every part
of a row at its place, and a value whose part is at its place is read.

Numbers that do not fit their word are cut, and an array of values that take no room may be longer
than its length word can say. Both are excluded by the type, as `Abi.Ty.isProper`; lengths and
offsets that leave 64 bits are excluded by the length of the whole.

## Main definitions

* `Abi.Ty.isProper` — types all of whose values can be read back
* `Abi.Part.IsAt`, `Abi.AreAt` — a part, or a sequence of parts, is at its place

## Main results

* `Abi.areAt_of_assemble` — the writer puts every part at its place
* `Abi.decodeAt_of_isAt` — a value whose part is at its place is read
* `Abi.decodeRow_encodeRow`, `Abi.decodeRow_encodeCall`, `Abi.decodeSingle_encodeSingle` — the round
  trips
-/

namespace CrossCall.Abi

mutual

/-- Whether the words of a type hold at most 256 bits and the entries of its arrays take room. -/
def Ty.isProper : Ty → Bool
  | .word bits => bits ≤ 256
  | .bytes => true
  | .array element => element.isProper && 0 < element.headWords
  | .tuple fields => Ty.areProper fields

/-- Whether all types of a sequence are proper. -/
def Ty.areProper : List Ty → Bool
  | [] => true
  | t :: ts => t.isProper && Ty.areProper ts

end

/-! ### Lengths of what is written -/

@[simp] theorem length_numberWord (n : Nat) : (numberWord n).length = 32 := Bytes.length_ofNat 32 n

theorem length_le_length_padRight (bs : Bytes) : bs.length ≤ (padRight bs).length := by
  simp [padRight]

theorem length_heads (offset : Nat) (ps : List Part) : (heads offset ps).length = headsSize ps := by
  induction ps generalizing offset with
  | nil => rfl
  | cons p ps ih =>
    by_cases hp : p.isDynamic
    · simp [heads, headsSize, Part.headSize, hp, ih]
    · simp [heads, headsSize, Part.headSize, hp, ih]

theorem length_assemble (ps : List Part) :
    (assemble ps).length = headsSize ps + (tails ps).length := by
  rw [assemble, List.length_append, length_heads]

theorem length_contents_le_length_assemble {p : Part} {ps : List Part} (h : p ∈ ps) :
    p.contents.length ≤ (assemble ps).length := by
  rw [length_assemble]
  induction ps with
  | nil => simp at h
  | cons q ps ih =>
    rcases List.mem_cons.mp h with rfl | h
    · by_cases hp : p.isDynamic
      · simp only [headsSize, tails, hp, if_true, List.length_append]
        omega
      · simp only [headsSize, tails, hp, Part.headSize, Bool.false_eq_true, if_false]
        omega
    · have hps := ih h
      have ht : (tails ps).length ≤ (tails (q :: ps)).length := by
        by_cases hq : q.isDynamic <;> simp [tails, hq]
      simp only [headsSize]
      omega

theorem length_le_length_encode_bytes (bs : Bytes) : bs.length ≤ (encode .bytes bs).length := by
  have := length_le_length_padRight bs
  rw [encode, List.length_append]
  omega

theorem tails_eq_nil {ps : List Part} (h : ∀ p ∈ ps, p.isDynamic = false) : tails ps = [] := by
  induction ps with
  | nil => rfl
  | cons p ps ih =>
    have hp := h p List.mem_cons_self
    simp [tails, hp, ih fun q hq => h q (List.mem_cons_of_mem _ hq)]

theorem headWords_of_isDynamic {t : Ty} (h : t.isDynamic = true) : t.headWords = 1 := by
  cases t with
  | word bits => simp [Ty.isDynamic] at h
  | bytes => rfl
  | array element => rfl
  | tuple fields =>
    rw [Ty.isDynamic] at h
    rw [Ty.headWords, if_pos h]

/-- The part that a value adds to its row. -/
def Ty.part (t : Ty) (v : t.Value) : Part := ⟨t.isDynamic, encode t v⟩

/-- A value takes no more room than the row that it stands in. -/
theorem length_encode_le_length_encodeRow {ts : List Ty} {vs : Ty.Values ts} {t : Ty} {v : t.Value}
    (h : t.part v ∈ parts ts vs) : (encode t v).length ≤ (encodeRow ts vs).length :=
  length_contents_le_length_assemble h

/-- A tuple is written as a row. -/
theorem encode_tuple (ts : List Ty) (vs : Ty.Values ts) :
    encode (.tuple ts) vs = encodeRow ts vs := by
  rw [encode, encodeRow]

theorem isDynamic_of_mem_parts {ts : List Ty} (h : Ty.anyDynamic ts = false) (vs : Ty.Values ts) :
    ∀ p ∈ parts ts vs, p.isDynamic = false := by
  induction ts with
  | nil => simp [parts]
  | cons t ts ih =>
    obtain ⟨v, vs⟩ := vs
    rw [Ty.anyDynamic, Bool.or_eq_false_iff] at h
    intro p hp
    rcases List.mem_cons.mp hp with rfl | hp
    · exact h.1
    · exact ih h.2 vs p hp

mutual

/-- A static value takes the words of its type. -/
theorem length_encode : (t : Ty) → (v : t.Value) → t.isDynamic = false →
    (encode t v).length = 32 * t.headWords
  | .word _, v, _ => length_numberWord _
  | .bytes, _, h => absurd h (by simp [Ty.isDynamic])
  | .array _, _, h => absurd h (by simp [Ty.isDynamic])
  | .tuple ts, vs, h => by
    rw [Ty.isDynamic] at h
    have htails := tails_eq_nil (isDynamic_of_mem_parts h vs)
    rw [encode, length_assemble, htails, headsSize_parts ts vs, Ty.headWords]
    simp [h]

/-- The heads of a row take the words of the row. -/
theorem headsSize_parts : (ts : List Ty) → (vs : Ty.Values ts) →
    headsSize (parts ts vs) = 32 * Ty.rowWords ts
  | [], _ => rfl
  | t :: ts, (v, vs) => by
    have hhead : (t.part v).headSize = 32 * t.headWords := by
      cases h : t.isDynamic with
      | true => simp [Ty.part, Part.headSize, h, headWords_of_isDynamic h]
      | false => simpa [Ty.part, Part.headSize, h] using length_encode t v h
    rw [parts, headsSize, headsSize_parts ts vs, Ty.rowWords, Nat.mul_add]
    exact congrArg (· + 32 * Ty.rowWords ts) hhead

end

theorem headSize_part (t : Ty) (v : t.Value) : (t.part v).headSize = 32 * t.headWords := by
  have h := headsSize_parts [t] (v, ())
  simpa [parts, headsSize, Ty.rowWords, Ty.part] using h

theorem headsSize_map_part (t : Ty) (vs : List t.Value) :
    headsSize (vs.map t.part) = vs.length * (32 * t.headWords) := by
  induction vs with
  | nil => simp [headsSize]
  | cons v vs ih =>
    rw [List.map_cons, headsSize, ih, headSize_part, List.length_cons,
      Nat.add_one_mul vs.length, Nat.add_comm]

/-! ### Places -/

/-- The part is at its place in a row: a static one at the position, a dynamic one behind the offset
that stands there. -/
def Part.IsAt (p : Part) (row : Bytes) (position : Nat) : Prop :=
  if p.isDynamic then
    ∃ offset, offset < 2 ^ 64 ∧ numberWord offset <+: row.drop position ∧
      offset ≤ row.length ∧ p.contents <+: row.drop offset
  else p.contents <+: row.drop position

/-- The parts are at their places, the heads one after the other from a position on. -/
def AreAt : List Part → Bytes → Nat → Prop
  | [], _, _ => True
  | p :: ps, row, position => p.IsAt row position ∧ AreAt ps row (position + p.headSize)

theorem prefix_drop_append {a b row : Bytes} {n : Nat} (h : a ++ b <+: row.drop n) :
    a <+: row.drop n ∧ b <+: row.drop (n + a.length) := by
  obtain ⟨rest, hrest⟩ := h
  have hb : row.drop (n + a.length) = b ++ rest := by
    rw [← List.drop_drop, ← hrest, List.append_assoc, List.drop_left]
  exact ⟨⟨b ++ rest, by rw [← hrest, List.append_assoc]⟩, ⟨rest, hb.symm⟩⟩

theorem add_length_le_of_prefix_drop {a row : Bytes} {n : Nat} (hn : n ≤ row.length)
    (h : a <+: row.drop n) : n + a.length ≤ row.length := by
  have hlen := h.length_le
  rw [List.length_drop] at hlen
  omega

/-- Heads and tails that stand anywhere in a row, the heads with the offset of the tails, put their
parts at their places. -/
theorem areAt_of_heads {ps : List Part} {row : Bytes} {position offset : Nat}
    (hheads : heads offset ps <+: row.drop position) (htails : tails ps <+: row.drop offset)
    (hoffset : offset ≤ row.length) (hsize : offset + (tails ps).length < 2 ^ 64) :
    AreAt ps row position := by
  induction ps generalizing position offset with
  | nil => trivial
  | cons p ps ih =>
    -- A dynamic part takes its contents off the tails, so the offset moves with them; a static one
    -- leaves the tails as they are.
    cases hp : p.isDynamic with
    | true =>
      simp only [heads, tails, hp, if_true] at hheads htails hsize
      obtain ⟨hword, hheads⟩ := prefix_drop_append hheads
      obtain ⟨hcontents, htails⟩ := prefix_drop_append htails
      rw [length_numberWord] at hheads
      rw [List.length_append] at hsize
      refine ⟨?_, ?_⟩
      · rw [Part.IsAt, if_pos hp]
        exact ⟨offset, by omega, hword, hoffset, hcontents⟩
      · rw [Part.headSize, if_pos hp]
        exact ih hheads htails (add_length_le_of_prefix_drop hoffset hcontents) (by omega)
    | false =>
      simp only [heads, tails, hp, Bool.false_eq_true, if_false] at hheads htails hsize
      obtain ⟨hcontents, hheads⟩ := prefix_drop_append hheads
      refine ⟨?_, ?_⟩
      · rw [Part.IsAt, if_neg (by simp [hp])]
        exact hcontents
      · rw [Part.headSize, if_neg (by simp [hp])]
        exact ih hheads htails hoffset hsize

/-- The writer puts every part of a row at its place. -/
theorem areAt_of_assemble {ps : List Part} {row : Bytes} (h : assemble ps <+: row)
    (hsize : (assemble ps).length < 2 ^ 64) : AreAt ps row 0 := by
  have hrow : assemble ps <+: row.drop 0 := by rwa [List.drop_zero]
  obtain ⟨hheads, htails⟩ := prefix_drop_append hrow
  rw [length_heads, Nat.zero_add] at htails
  rw [length_assemble] at hsize
  have hlen := h.length_le
  rw [length_assemble] at hlen
  exact areAt_of_heads hheads htails (by omega) hsize

/-- A row of static parts is at its place wherever it is written. -/
theorem areAt_of_static {ps : List Part} {row : Bytes} {position : Nat}
    (hps : ∀ p ∈ ps, p.isDynamic = false) (h : assemble ps <+: row.drop position)
    (hsize : (assemble ps).length < 2 ^ 64) : AreAt ps row position := by
  have hlen := h.length_le
  have htails := tails_eq_nil hps
  rw [length_assemble, List.length_drop] at hlen
  rw [length_assemble] at hsize
  refine areAt_of_heads (prefix_drop_append h).1 ?_ (by omega) hsize
  rw [htails]
  exact List.nil_prefix

/-! ### Reading at a place -/

theorem slice?_of_isPrefix {bs data : Bytes} {position : Nat} (hposition : position ≤ data.length)
    (h : bs <+: data.drop position) : data.slice? position bs.length = some bs := by
  have hlen := add_length_le_of_prefix_drop hposition h
  rw [Bytes.slice?, if_pos hlen, ← List.prefix_iff_eq_take.mp h]

theorem le_length_of_prefix_drop {bs data : Bytes} {position : Nat} (hbs : bs ≠ [])
    (h : bs <+: data.drop position) : position ≤ data.length := by
  by_contra hlt
  -- Behind the end there is nothing that could start with `bs`.
  rw [List.drop_eq_nil_of_le (by omega), List.prefix_nil] at h
  exact hbs h

theorem wordAt_of_isPrefix {n : Nat} {data : Bytes} {position : Nat}
    (h : numberWord n <+: data.drop position) : wordAt data position = .ok (BitVec.ofNat 256 n) := by
  have hne : numberWord n ≠ [] := by
    rw [← List.length_pos_iff, length_numberWord]
    decide
  have hslice := slice?_of_isPrefix (le_length_of_prefix_drop hne h) h
  rw [length_numberWord] at hslice
  rw [wordAt, hslice]
  simp only [Except.ok.injEq]
  apply BitVec.eq_of_toNat_eq
  rw [Bytes.toBitVec, BitVec.toNat_ofNat, numberWord, Bytes.toNat_ofNat, BitVec.toNat_ofNat]
  exact Nat.mod_mod_of_dvd n (by decide)

theorem sizeAt_of_isPrefix {n : Nat} {data : Bytes} {position : Nat} (hn : n < 2 ^ 64)
    (h : numberWord n <+: data.drop position) : sizeAt data position = .ok n := by
  have hword : (BitVec.ofNat 256 n).toNat = n := by
    rw [BitVec.toNat_ofNat]
    exact Nat.mod_eq_of_lt (by omega)
  rw [sizeAt, wordAt_of_isPrefix h]
  simpa [bind, Except.bind, pure, Except.pure, hword] using hn

theorem follow_of_isPrefix {offset : Nat} {row : Bytes} {position : Nat} (hoffset : offset < 2 ^ 64)
    (h : numberWord offset <+: row.drop position) (hrow : offset ≤ row.length) :
    follow row position = .ok (row.drop offset) := by
  rw [follow, sizeAt_of_isPrefix hoffset h]
  simp [bind, Except.bind, pure, Except.pure, hrow]

theorem readBytes_of_isPrefix {bs data : Bytes} (hbs : bs.length < 2 ^ 64)
    (h : encode .bytes bs <+: data) : readBytes data = .ok bs := by
  have hdata : encode .bytes bs <+: data.drop 0 := by rwa [List.drop_zero]
  rw [encode] at hdata
  obtain ⟨hlength, hpadded⟩ := prefix_drop_append hdata
  rw [length_numberWord] at hpadded
  have hcontents : bs <+: data.drop 32 := (List.prefix_append bs _).trans hpadded
  have hroom : 32 ≤ data.length := by
    have hlen := h.length_le
    rw [encode, List.length_append, length_numberWord] at hlen
    omega
  rw [readBytes, sizeAt_of_isPrefix hbs hlength]
  simp [bind, Except.bind, pure, Except.pure, slice?_of_isPrefix hroom hcontents]

/-- Entries whose parts are at their places are read, if a single one is. -/
theorem readMany_of_areAt {α : Type} {read : Nat → Except Failure α} {part : α → Part} {step : Nat}
    {row : Bytes} {vs : List α} {position : Nat} (hstep : ∀ v ∈ vs, (part v).headSize = step)
    (hread : ∀ v ∈ vs, ∀ i, (part v).IsAt row i → read i = .ok v)
    (h : AreAt (vs.map part) row position) : readMany read step vs.length position = .ok vs := by
  induction vs generalizing position with
  | nil => rfl
  | cons v vs ih =>
    obtain ⟨hv, hvs⟩ := h
    rw [hstep v List.mem_cons_self] at hvs
    have hrest := ih (fun w hw => hstep w (List.mem_cons_of_mem _ hw))
      (fun w hw => hread w (List.mem_cons_of_mem _ hw)) hvs
    rw [List.length_cons, readMany, hread v List.mem_cons_self position hv, hrest]
    rfl

mutual

/-- A value whose part is at its place is read. -/
theorem decodeAt_of_isAt (t : Ty) (ht : t.isProper) (v : t.Value) (row : Bytes) (position : Nat)
    (hsize : (encode t v).length < 2 ^ 64) (h : (t.part v).IsAt row position) :
    decodeAt t row position = .ok v := by
  cases t with
  | word bits =>
    have hbits : bits ≤ 256 := by simpa [Ty.isProper] using ht
    have hword : numberWord v.toNat <+: row.drop position := by
      simpa [Part.IsAt, Ty.part, Ty.isDynamic, encode] using h
    rw [decodeAt, wordAt_of_isPrefix hword]
    simp [bind, Except.bind, pure, Except.pure, BitVec.setWidth_setWidth_of_le v hbits]
  | bytes =>
    obtain ⟨offset, hoffset, hword, hrow, hcontents⟩ := h
    have hv : v.length < 2 ^ 64 := (length_le_length_encode_bytes v).trans_lt hsize
    rw [decodeAt, follow_of_isPrefix hoffset hword hrow]
    exact readBytes_of_isPrefix hv hcontents
  | array t =>
    obtain ⟨offset, hoffset, hword, hrow, hcontents⟩ := h
    obtain ⟨htt, hwords⟩ : t.isProper ∧ 0 < t.headWords := by
      simpa [Ty.isProper] using ht
    have hencode : encode (.array t) v = numberWord v.length ++ assemble (v.map t.part) := by
      rw [encode]
      rfl
    have hsize' : (assemble (v.map t.part)).length < 2 ^ 64 := by
      rw [hencode, List.length_append] at hsize
      omega
    -- The heads of the entries alone bound the number of entries.
    have hheads : v.length * (32 * t.headWords) ≤ (assemble (v.map t.part)).length := by
      rw [length_assemble, headsSize_map_part]
      omega
    have hcount : v.length < 2 ^ 64 := by
      have := Nat.le_mul_of_pos_right v.length (show 0 < 32 * t.headWords by omega)
      omega
    have hfront : encode (.array t) v <+: (row.drop offset).drop 0 := by
      rw [List.drop_zero]
      exact hcontents
    rw [hencode] at hfront
    obtain ⟨hlength, hentries⟩ := prefix_drop_append hfront
    rw [length_numberWord, Nat.zero_add] at hentries
    have hroom : v.length * t.headWords ≤ ((row.drop offset).drop 32).length / 32 := by
      have := hentries.length_le
      rw [Nat.mul_left_comm] at hheads
      omega
    have hread : readMany (decodeAt t ((row.drop offset).drop 32)) (32 * t.headWords) v.length 0 =
        .ok v :=
      readMany_of_areAt (fun w _ => headSize_part t w)
        (fun w hw i hi => decodeAt_of_isAt t htt w _ i
          ((length_contents_le_length_assemble (List.mem_map_of_mem hw)).trans_lt hsize') hi)
        (areAt_of_assemble hentries hsize')
    rw [decodeAt, follow_of_isPrefix hoffset hword hrow]
    simp only [bind, Except.bind]
    rw [sizeAt_of_isPrefix hcount hlength]
    simp only [if_pos hroom]
    exact hread
  | tuple ts =>
    rw [Ty.isProper] at ht
    rw [encode] at hsize
    have hparts : ∀ p ∈ parts ts v, p.contents.length < 2 ^ 64 := fun p hp =>
      (length_contents_le_length_assemble hp).trans_lt hsize
    -- The fields of a dynamic tuple are a row of their own, behind its offset; those of a static one
    -- stand in the row around it.
    cases hd : Ty.anyDynamic ts with
    | true =>
      rw [Part.IsAt, if_pos (by simp [Ty.part, Ty.isDynamic, hd])] at h
      obtain ⟨offset, hoffset, hword, hrow, hcontents⟩ := h
      rw [Ty.part, encode] at hcontents
      rw [decodeAt, if_pos hd, follow_of_isPrefix hoffset hword hrow]
      exact decodeFields_of_areAt ts ht v _ 0 hparts (areAt_of_assemble hcontents hsize)
    | false =>
      rw [Part.IsAt, if_neg (by simp [Ty.part, Ty.isDynamic, hd]), Ty.part, encode] at h
      rw [decodeAt, if_neg (by simp [hd])]
      exact decodeFields_of_areAt ts ht v row position hparts
        (areAt_of_static (isDynamic_of_mem_parts hd v) h hsize)
termination_by structural t

/-- Values whose parts are at their places are read. -/
theorem decodeFields_of_areAt (ts : List Ty) (hts : Ty.areProper ts) (vs : Ty.Values ts)
    (row : Bytes) (position : Nat) (hsize : ∀ p ∈ parts ts vs, p.contents.length < 2 ^ 64)
    (h : AreAt (parts ts vs) row position) : decodeFields ts row position = .ok vs := by
  cases ts with
  | nil => rfl
  | cons t ts =>
    obtain ⟨v, vs⟩ := vs
    obtain ⟨ht, hts⟩ : t.isProper ∧ Ty.areProper ts := by
      simpa [Ty.areProper] using hts
    obtain ⟨hv, hvs⟩ := h
    have hstep : (t.part v).headSize = 32 * t.headWords := headSize_part t v
    rw [← Ty.part, hstep] at hvs
    have hfirst := decodeAt_of_isAt t ht v row position (hsize _ List.mem_cons_self) hv
    have hrest := decodeFields_of_areAt ts hts vs row _
      (fun p hp => hsize p (List.mem_cons_of_mem _ hp)) hvs
    rw [decodeFields, hfirst]
    simp only [bind, Except.bind]
    rw [hrest]
    rfl
termination_by structural ts

end

/-- A row of values reads back, whatever follows it. -/
theorem decodeRow_encodeRow {ts : List Ty} (hts : Ty.areProper ts) (vs : Ty.Values ts)
    (hsize : (encodeRow ts vs).length < 2 ^ 64) (rest : Bytes) :
    decodeRow ts (encodeRow ts vs ++ rest) = .ok vs :=
  decodeFields_of_areAt ts hts vs _ 0
    (fun _ hp => (length_contents_le_length_assemble hp).trans_lt hsize)
    (areAt_of_assemble (List.prefix_append _ rest) hsize)

/-- The selector and the arguments of a function call read back from its data. -/
theorem decodeRow_encodeCall {ts : List Ty} (hts : Ty.areProper ts) (selector : BitVec 32)
    (vs : Ty.Values ts) (hsize : (encodeCall selector ts vs).length < 2 ^ 64) :
    (encodeCall selector ts vs).take 4 = Bytes.ofBitVec selector ∧
      decodeRow ts ((encodeCall selector ts vs).drop 4) = .ok vs := by
  have hlength : (Bytes.ofBitVec selector).length = 4 := Bytes.length_ofBitVec selector
  rw [encodeCall, List.length_append] at hsize
  have hrow := decodeRow_encodeRow hts vs (by omega) []
  rw [List.append_nil] at hrow
  rw [encodeCall, ← hlength, List.take_left, List.drop_left]
  exact ⟨rfl, hrow⟩

/-- A single value reads back, whatever follows it. -/
theorem decodeSingle_encodeSingle {t : Ty} (ht : t.isProper) (v : t.Value)
    (hsize : (encodeSingle t v).length < 2 ^ 64) (rest : Bytes) :
    decodeSingle t (encodeSingle t v ++ rest) = .ok v := by
  have hts : Ty.areProper [t] := by simpa [Ty.areProper] using ht
  -- A single value is a row of one.
  have h := decodeRow_encodeRow hts (v, ()) hsize rest
  rw [decodeRow, decodeFields] at h
  rw [decodeSingle]
  cases hv : decodeAt t (encodeRow [t] (v, ()) ++ rest) 0 with
  | error e => simp [hv, bind, Except.bind] at h
  | ok w =>
    simp only [hv, bind, Except.bind, decodeFields, pure, Except.pure, Except.ok.injEq,
      Prod.mk.injEq] at h
    rw [encodeSingle, hv, h.1]

end CrossCall.Abi
