import Mathlib
import CrossCall.Proofs.Bytes.Hexadecimal
import CrossCall.Proofs.Node.Questions
import CrossCall.Settlement.SlotProof

/-!
# What a node's proof of a slot is read as

The proof of a slot takes one question. Of the answer the first storage entry counts, and all texts
in it are written by the node: trie nodes and a value, in hexadecimal digits of any number and case.
A slot is proven exactly if all of them can be read, and then the proof holds what was written, for
the slot that was asked for. Else the first fault is reported, in the order in which the answer is
read.

## Main definitions

* `SlotProof.readAnswer` — what is made of an answer
* `SlotProof.Holds` — a proof holds what an answer says
* `SlotProof.Fault` — what can be wrong with an answer, each fault judged on its own
* `SlotProof.ProvenByAnswer` — how the answer decides what is proven

## Main results

* `SlotProof.asksOnce_prove` — one question is asked
* `SlotProof.readAnswer_eq_ok_iff`, `SlotProof.readAnswer_eq_error_iff` — what comes of an answer
* `SlotProof.prove_provenByAnswer` — all of it, for every node, contract, slot and block
-/

namespace CrossCall

open Session

variable {χ : Type}

namespace SlotProof

/-! ### The question -/

/-- What is made of a node's answer about a slot. -/
def readAnswer (slot : Word) (answer : Except ClientError AccountProof) :
    Except SlotProofError SlotProof := do
  let proof ← answer.mapError .request
  match proof.storageProof with
  | [] => throw .noStorageProof
  | entry :: _ => ofAnswer slot proof.accountProof entry

/-- For a slot one question is asked, with one key. -/
theorem asksOnce_prove (node : χ) (contract : Address) (slot : Word) (block : BlockTag) :
    AsksOnce (prove node contract slot block) node (.proof contract [slot] block)
      (readAnswer slot) := by
  refine (silent_report _ _ _).bind_asksOnce ((asksOnce_query node _ _).bind_silent fun proof => ?_)
  cases proof.storageProof with
  | nil => exact silent_throw _
  | cons entry rest =>
    -- There are notes before what is read from the entry and after it.
    exact (silent_report _ _ _).bind_of_ok ((silent_lift _).bind_same fun p =>
      (silent_report _ _ _).bind_of_ok (silent_pure p))

/-! ### Trie nodes -/

variable {onError : Nat → HexError → SlotProofError} {index : Nat} {texts : List String}
variable {nodes : List Bytes}

theorem decodeNodes_eq_ok_iff :
    decodeNodes onError index texts = .ok nodes ↔
      List.Forall₂ (fun text node => Hex.decodePadded text = .ok node) texts nodes := by
  induction texts generalizing index nodes with
  | nil =>
    rw [decodeNodes, List.forall₂_nil_left_iff]
    exact ⟨fun h => (Except.ok.inj h).symm, fun h => h ▸ rfl⟩
  | cons text texts ih =>
    rw [decodeNodes, bind_eq_ok_iff, List.forall₂_cons_left_iff]
    simp only [mapError_eq_ok_iff, bind_eq_ok_iff, ih]
    constructor
    · rintro ⟨node, hnode, rest, hrest, ⟨⟩⟩
      exact ⟨node, rest, hnode, hrest, rfl⟩
    · rintro ⟨node, rest, hnode, hrest, rfl⟩
      exact ⟨node, hnode, rest, hrest, rfl⟩

/-- The first text that cannot be read is reported with its number. -/
theorem decodeNodes_eq_error {i : Nat} {text : String} {cause : HexError}
    (htext : texts[i]? = some text) (hbad : Hex.decodePadded text = .error cause)
    (hfirst : ∀ j < i, ∀ text cause, texts[j]? = some text → Hex.decodePadded text ≠ .error cause) :
    decodeNodes onError index texts = .error (onError (index + i) cause) := by
  induction texts generalizing index i with
  | nil => simp at htext
  | cons head texts ih =>
    cases i with
    | zero =>
      cases htext
      rw [decodeNodes, hbad]
      rfl
    | succ i =>
      rcases hhead : Hex.decodePadded head with cause' | node
      · exact absurd hhead (hfirst 0 (Nat.zero_lt_succ i) head cause' rfl)
      · have hrest : decodeNodes onError (index + 1) texts =
            .error (onError (index + 1 + i) cause) :=
          ih htext fun j hj text cause htext =>
            hfirst (j + 1) (Nat.succ_lt_succ hj) text cause htext
        rw [show index + 1 + i = index + (i + 1) by omega] at hrest
        rw [decodeNodes, hhead]
        simp only [Except.mapError, hrest]
        rfl

/-- Without a text that cannot be read all of them are read. -/
theorem exists_decodeNodes_eq_ok
    (h : ∀ (i : Nat) text cause, texts[i]? = some text → Hex.decodePadded text ≠ .error cause) :
    ∃ nodes, decodeNodes onError index texts = .ok nodes := by
  simp only [decodeNodes_eq_ok_iff]
  induction texts with
  | nil => exact ⟨[], .nil⟩
  | cons text texts ih =>
    obtain ⟨nodes, hnodes⟩ := ih fun i => h (i + 1)
    rcases htext : Hex.decodePadded text with cause | node
    · exact absurd htext (h 0 text cause rfl)
    · exact ⟨node :: nodes, .cons htext hnodes⟩

/-! ### What an answer says -/

/-- A proof holds what an answer says: the trie nodes in their order and, for the slot that was
asked for, the value with zeros in front of it. What key the answer names does not matter. -/
structure Holds (p : SlotProof) (slot : Word) (proof : AccountProof) (entry : StorageEntry)
    (value : Bytes) : Prop where
  first : proof.storageProof.head? = some entry
  accountNodes : List.Forall₂ (fun text node => Hex.decodePadded text = .ok node)
    proof.accountProof p.accountNodes
  storageNodes : List.Forall₂ (fun text node => Hex.decodePadded text = .ok node)
    entry.proof p.storageNodes
  value_read : Hex.decodePadded entry.value = .ok value
  value_short : value.length ≤ 32
  slot_eq : p.slot = slot
  value_eq : Bytes.ofBitVec p.value = List.replicate (32 - value.length) 0 ++ value

theorem decodeValue_eq_ok_iff {text : String} {w : Word} :
    decodeValue text = .ok w ↔
      ∃ value, Hex.decodePadded text = .ok value ∧ value.length ≤ 32 ∧
        Bytes.ofBitVec w = List.replicate (32 - value.length) 0 ++ value := by
  rw [decodeValue]
  rcases Hex.decodePadded text with cause | value
  · simp
  · by_cases hshort : value.length ≤ 32
    · have hwritten : Bytes.ofBitVec (Bytes.toBitVec 256 value) =
          List.replicate (32 - value.length) 0 ++ value :=
        Bytes.ofBitVec_toBitVec (by omega)
      simp only [if_pos hshort, Except.ok.injEq]
      constructor
      · rintro rfl
        exact ⟨value, rfl, hshort, hwritten⟩
      · rintro ⟨_, rfl, -, hw⟩
        rw [← Bytes.toBitVec_ofBitVec w, hw, ← hwritten, Bytes.toBitVec_ofBitVec]
    · simp only [if_neg hshort, reduceCtorEq, false_iff]
      rintro ⟨_, h, hle, -⟩
      cases h
      exact hshort hle

theorem ofAnswer_eq_ok_iff {slot : Word} {account : List String} {entry : StorageEntry}
    {p : SlotProof} :
    ofAnswer slot account entry = .ok p ↔
      decodeNodes .accountNode 0 account = .ok p.accountNodes ∧
        decodeNodes .storageNode 0 entry.proof = .ok p.storageNodes ∧
        decodeValue entry.value = .ok p.value ∧ p.slot = slot := by
  simp only [ofAnswer, bind_eq_ok_iff]
  constructor
  · rintro ⟨accountNodes, haccount, storageNodes, hstorage, value, hvalue, ⟨⟩⟩
    exact ⟨haccount, hstorage, hvalue, rfl⟩
  · rintro ⟨haccount, hstorage, hvalue, rfl⟩
    exact ⟨_, haccount, _, hstorage, _, hvalue, rfl⟩

theorem readAnswer_eq_ok_iff {slot : Word} {answer : Except ClientError AccountProof}
    {p : SlotProof} :
    readAnswer slot answer = .ok p ↔
      ∃ proof entry value, answer = .ok proof ∧ p.Holds slot proof entry value := by
  rw [readAnswer, bind_eq_ok_iff]
  simp only [mapError_eq_ok_iff]
  constructor
  · rintro ⟨proof, hanswer, hproof⟩
    rcases hentries : proof.storageProof with _ | ⟨entry, rest⟩
    · rw [hentries] at hproof
      cases hproof
    · simp only [hentries, ofAnswer_eq_ok_iff, decodeNodes_eq_ok_iff, decodeValue_eq_ok_iff]
        at hproof
      obtain ⟨haccount, hstorage, ⟨value, hvalue, hshort, hw⟩, hslot⟩ := hproof
      exact ⟨proof, entry, value, hanswer,
        { first := congrArg List.head? hentries, accountNodes := haccount
          storageNodes := hstorage, value_read := hvalue, value_short := hshort, slot_eq := hslot
          value_eq := hw }⟩
  · rintro ⟨proof, entry, value, hanswer, h⟩
    obtain ⟨rest, hentries⟩ := List.head?_eq_some_iff.mp h.first
    refine ⟨proof, hanswer, ?_⟩
    simp only [hentries, ofAnswer_eq_ok_iff, decodeNodes_eq_ok_iff, decodeValue_eq_ok_iff]
    exact ⟨h.accountNodes, h.storageNodes, ⟨value, h.value_read, h.value_short, h.value_eq⟩,
      h.slot_eq⟩

/-! ### What is wrong with an answer -/

/-- What can be wrong with an answer, as the error that tells it. No fault hides another, except
that an answer is needed to look into it, and a first entry to look into that. -/
inductive Fault (answer : Except ClientError AccountProof) : SlotProofError → Prop
  | request {cause : ClientError} (unanswered : answer = .error cause) :
      Fault answer (.request cause)
  | noStorageProof {proof : AccountProof} (answered : answer = .ok proof)
      (empty : proof.storageProof.head? = none) : Fault answer .noStorageProof
  | accountNode {proof : AccountProof} {i : Nat} {text : String} {cause : HexError}
      (answered : answer = .ok proof) (node : proof.accountProof[i]? = some text)
      (bad : Hex.decodePadded text = .error cause) : Fault answer (.accountNode i cause)
  | storageNode {proof : AccountProof} {entry : StorageEntry} {i : Nat} {text : String}
      {cause : HexError} (answered : answer = .ok proof)
      (first : proof.storageProof.head? = some entry) (node : entry.proof[i]? = some text)
      (bad : Hex.decodePadded text = .error cause) : Fault answer (.storageNode i cause)
  | storageValue {proof : AccountProof} {entry : StorageEntry} (answered : answer = .ok proof)
      (first : proof.storageProof.head? = some entry)
      (bad : ∀ value, Hex.decodePadded entry.value = .ok value → 32 < value.length) :
      Fault answer .storageValue

/-- The order in which faults are reported: by what they are about, and by its place. -/
def faultRank : SlotProofError → Nat ×ₗ Nat
  | .request _ => toLex (0, 0)
  | .noStorageProof => toLex (1, 0)
  | .accountNode i _ => toLex (2, i)
  | .storageNode i _ => toLex (3, i)
  | .storageValue => toLex (4, 0)

variable {slot : Word} {answer : Except ClientError AccountProof} {e : SlotProofError}

theorem decodeValue_eq_error {text : String}
    (h : ∀ value, Hex.decodePadded text = .ok value → 32 < value.length) :
    decodeValue text = .error .storageValue := by
  rw [decodeValue]
  rcases hvalue : Hex.decodePadded text with cause | value
  · rfl
  · exact if_neg (Nat.not_le.mpr (h value hvalue))

theorem readAnswer_ok (slot : Word) (proof : AccountProof) :
    readAnswer slot (.ok proof) =
      match proof.storageProof with
      | [] => .error .noStorageProof
      | entry :: _ => ofAnswer slot proof.accountProof entry := rfl

theorem readAnswer_of_head? {proof : AccountProof} {entry : StorageEntry}
    (h : proof.storageProof.head? = some entry) :
    readAnswer slot (.ok proof) = ofAnswer slot proof.accountProof entry := by
  obtain ⟨rest, hentries⟩ := List.head?_eq_some_iff.mp h
  rw [readAnswer_ok, hentries]

/-- An answer with an entry is read node by node, the account's first and the value last. -/
theorem ofAnswer_of_decodeNodes {account : List String} {entry : StorageEntry}
    {accountNodes : List Bytes} (haccount : decodeNodes .accountNode 0 account = .ok accountNodes) :
    ofAnswer slot account entry = (do
      let storageNodes ← decodeNodes .storageNode 0 entry.proof
      let value ← decodeValue entry.value
      return { slot, value, accountNodes, storageNodes }) := by
  rw [ofAnswer, haccount]
  rfl

/-- A fault is reported if there is none that comes before it. -/
theorem readAnswer_of_minimalFor (h : MinimalFor (Fault answer) faultRank e) :
    readAnswer slot answer = .error e := by
  obtain ⟨hfault, hfirst⟩ := minimalFor_iff_forall_lt.mp h
  -- What is read before the fault is read well, since else there were an earlier fault.
  have hentry : faultRank .noStorageProof < faultRank e → ∀ proof, answer = .ok proof →
      ∃ entry, proof.storageProof.head? = some entry := by
    intro hlt proof hanswer
    by_contra hnone
    exact hfirst hlt (.noStorageProof hanswer
      (Option.eq_none_iff_forall_ne_some.mpr (not_exists.mp hnone)))
  have haccount : (∀ i cause, faultRank (.accountNode i cause) < faultRank e) →
      ∀ proof, answer = .ok proof →
        ∃ nodes, decodeNodes .accountNode 0 proof.accountProof = .ok nodes := by
    intro hlt proof hanswer
    refine exists_decodeNodes_eq_ok fun i text cause htext hbad => ?_
    exact hfirst (hlt i cause) (.accountNode hanswer htext hbad)
  have hstorage : (∀ i cause, faultRank (.storageNode i cause) < faultRank e) →
      ∀ proof entry, answer = .ok proof → proof.storageProof.head? = some entry →
        ∃ nodes, decodeNodes .storageNode 0 entry.proof = .ok nodes := by
    intro hlt proof entry hanswer hhead
    refine exists_decodeNodes_eq_ok fun i text cause htext hbad => ?_
    exact hfirst (hlt i cause) (.storageNode hanswer hhead htext hbad)
  cases hfault with
  | request unanswered =>
    rw [unanswered]
    rfl
  | @noStorageProof proof answered empty =>
    rw [answered, readAnswer_ok, List.head?_eq_none_iff.mp empty]
  | @accountNode proof i text cause answered node bad =>
    obtain ⟨entry, hhead⟩ := hentry (by simp [faultRank, Prod.Lex.toLex_lt_toLex]) proof answered
    have hnodes : decodeNodes .accountNode 0 proof.accountProof =
        .error (.accountNode (0 + i) cause) :=
      decodeNodes_eq_error node bad fun j hj text cause' htext hbad =>
        hfirst (j := .accountNode j cause') (by simpa [faultRank, Prod.Lex.toLex_lt_toLex])
          (.accountNode answered htext hbad)
    rw [answered, readAnswer_of_head? hhead, ofAnswer, hnodes, Nat.zero_add]
    rfl
  | @storageNode proof entry i text cause answered first node bad =>
    obtain ⟨accountNodes, hnodes⟩ :=
      haccount (by simp [faultRank, Prod.Lex.toLex_lt_toLex]) proof answered
    have hnodes' : decodeNodes .storageNode 0 entry.proof = .error (.storageNode (0 + i) cause) :=
      decodeNodes_eq_error node bad fun j hj text cause' htext hbad =>
        hfirst (j := .storageNode j cause') (by simpa [faultRank, Prod.Lex.toLex_lt_toLex])
          (.storageNode answered first htext hbad)
    rw [answered, readAnswer_of_head? first, ofAnswer_of_decodeNodes hnodes, hnodes', Nat.zero_add]
    rfl
  | @storageValue proof entry answered first bad =>
    obtain ⟨accountNodes, hnodes⟩ :=
      haccount (by simp [faultRank, Prod.Lex.toLex_lt_toLex]) proof answered
    obtain ⟨storageNodes, hnodes'⟩ :=
      hstorage (by simp [faultRank, Prod.Lex.toLex_lt_toLex]) proof entry answered first
    rw [answered, readAnswer_of_head? first, ofAnswer_of_decodeNodes hnodes, hnodes',
      decodeValue_eq_error bad]
    rfl

/-- An answer without faults is read. -/
theorem exists_readAnswer_of_forall_not_fault (h : ∀ e, ¬ Fault answer e) :
    ∃ p, readAnswer slot answer = .ok p := by
  rcases hanswer : answer with cause | proof
  · exact absurd (.request hanswer) (h _)
  rcases hhead : proof.storageProof.head? with _ | entry
  · exact absurd (.noStorageProof hanswer hhead) (h _)
  obtain ⟨accountNodes, haccount⟩ : ∃ nodes, decodeNodes .accountNode 0 proof.accountProof =
      .ok nodes :=
    exists_decodeNodes_eq_ok fun i text cause htext hbad =>
      h _ (.accountNode hanswer htext hbad)
  obtain ⟨storageNodes, hstorage⟩ : ∃ nodes, decodeNodes .storageNode 0 entry.proof = .ok nodes :=
    exists_decodeNodes_eq_ok fun i text cause htext hbad =>
      h _ (.storageNode hanswer hhead htext hbad)
  rw [readAnswer_of_head? hhead, ofAnswer_of_decodeNodes haccount, hstorage]
  rcases hvalue : decodeValue entry.value with e | value
  · refine absurd (.storageValue hanswer hhead fun value hread => ?_) (h .storageValue)
    by_contra hshort
    rw [decodeValue, hread] at hvalue
    simp only [if_pos (not_lt.mp hshort), reduceCtorEq] at hvalue
  · exact ⟨_, rfl⟩

/-- Of all that is wrong with an answer the first fault is reported. -/
theorem readAnswer_eq_error_iff :
    readAnswer slot answer = .error e ↔ MinimalFor (Fault answer) faultRank e :=
  eq_error_iff_minimalFor (fun _ => readAnswer_of_minimalFor) exists_readAnswer_of_forall_not_fault

/-! ### What is proven -/

/-- How a node's answer decides what is proven about a slot of a contract at a block. -/
structure ProvenByAnswer (node : χ) (contract : Address) (slot : Word) (block : BlockTag) :
    Prop where
  /-- The node is asked once, for this slot at this block. -/
  asks :
    AsksOnce (prove node contract slot block) node (.proof contract [slot] block) (readAnswer slot)
  ok_iff : ∀ answer p, readAnswer slot answer = .ok p ↔
    ∃ proof entry value, answer = .ok proof ∧ p.Holds slot proof entry value
  error_iff : ∀ answer e, readAnswer slot answer = .error e ↔
    MinimalFor (Fault answer) faultRank e
  /-- Digits are read as the bytes of the number that they write, two digits a byte. -/
  digits : ∀ text ns, Hex.Writes text ns → ∃ bs, Hex.decodePadded text = .ok bs ∧
    bs.length = (ns.length + 1) / 2 ∧ bs.toNat = Nat.ofDigits 16 ns.reverse
  /-- The value is the number that the node wrote. -/
  value : ∀ proof p entry ns, readAnswer slot (.ok proof) = .ok p →
    proof.storageProof.head? = some entry → Hex.Writes entry.value ns →
      p.value.toNat = Nat.ofDigits 16 ns.reverse

/-- The number that a value is left-padded from. -/
theorem Holds.toNat_value {p : SlotProof} {proof : AccountProof} {entry : StorageEntry}
    {value : Bytes} (h : p.Holds slot proof entry value) : p.value.toNat = value.toNat := by
  rw [← Bytes.toNat_ofBitVec, h.value_eq, Bytes.toNat_replicate_zero_append]

/-- What is proven about a slot is what a node wrote in one answer, read as it was written. -/
theorem prove_provenByAnswer (node : χ) (contract : Address) (slot : Word) (block : BlockTag) :
    ProvenByAnswer node contract slot block where
  asks := asksOnce_prove node contract slot block
  ok_iff _ _ := readAnswer_eq_ok_iff
  error_iff _ _ := readAnswer_eq_error_iff
  digits _ _ := Hex.decodePadded_of_writes
  value proof p entry ns hread hhead hwrites := by
    obtain ⟨_, entry', value, ⟨⟩, h⟩ := readAnswer_eq_ok_iff.mp hread
    obtain rfl := Option.some.inj (hhead.symm.trans h.first)
    obtain ⟨bs, hbs, -, hvalue⟩ := Hex.decodePadded_of_writes hwrites
    obtain rfl := Except.ok.inj (hbs.symm.trans h.value_read)
    rw [h.toNat_value, hvalue]

end SlotProof

end CrossCall
