import Mathlib
import CrossCall.Proofs.Settlement.Snapshot

/-!
# What a bundle proves

A slot that was never written holds zero, so a proof that a slot holds zero is a proof of absence. A
bundle is to show that the inbox has a record and that the rollup has the assertion, but nobody looks
at the values on the way: whatever the nodes prove is what the bundle holds.

## Main definitions

* `ProofBundle.ShowsExistence` — neither of the values that a bundle proves is zero
* `AccountProof.value?` — the value in a node's proof
* `ProofBundle.ProvenBy` — the two proofs that a bundle was made of

## Main results

* `ProofBundle.exists_provenBy_of_compose` — every bundle was made of two proofs and has their values
* `ProofBundle.ProvenBy.showsExistence_iff` — it shows existence exactly if neither of them is of zero
-/

namespace CrossCall

variable {χ σ : Type}

open Session

/-- Neither of the values that a bundle proves is zero: the inbox has a record of the message, and the
rollup has the assertion. -/
def ProofBundle.ShowsExistence (b : ProofBundle) : Prop :=
  b.inboxProof.value ≠ 0 ∧ b.assertionProof.value ≠ 0

instance (b : ProofBundle) : Decidable b.ShowsExistence :=
  inferInstanceAs (Decidable (_ ∧ _))

/-- The value in the first storage entry of a node's proof, if it can be read. -/
def AccountProof.value? (p : AccountProof) : Option Word :=
  p.storageProof.head?.bind fun entry => (SlotProof.decodeValue entry.value).toOption

/-- Whether a node was asked for a proof. -/
def Exchange.isProof (e : Exchange χ) : Bool :=
  match e.request with
  | .proof _ _ _ => true
  | _ => false

/-- The exchanges that are about proofs. -/
def provings (es : List (Exchange χ)) : List (Exchange χ) := es.filter Exchange.isProof

@[simp] theorem provings_append (es es' : List (Exchange χ)) :
    provings (es ++ es') = provings es ++ provings es' :=
  List.filter_append es es'

/-- The two proofs that a bundle was made of: of the assertion at a block of the base chain, and of
the record at the block of the rollup that the assertion ends at. No other proof was asked for. -/
structure ProofBundle.ProvenBy (b : ProofBundle) (l1 l2 : χ) (rollup : Rollup) (inbox : Address)
    (messageId : Word) (es : List (Exchange χ)) (asserted recorded : AccountProof) : Prop where
  asked : ∃ (l1Block : BitVec 64) (hash : Word) (last : SealedHeader),
    last.header.hash = b.assertion.afterState.globalState.blockHash ∧
      ⟨l2, .headerByHash last.header.hash, .ok (some last)⟩ ∈ es ∧
      provings es =
        [⟨l1, .proof rollup.contract [mappingSlot hash rollup.assertionsSlot] (.number l1Block),
          .ok asserted⟩,
         ⟨l2, .proof inbox [mappingSlot messageId fulfillmentInfoSlot] (.number last.header.number),
          .ok recorded⟩]
  assertion_value : asserted.value? = some b.assertionProof.value
  inbox_value : recorded.value? = some b.inboxProof.value

/-- A bundle shows existence exactly if neither of the proofs is of zero. -/
theorem ProofBundle.ProvenBy.showsExistence_iff {b : ProofBundle} {l1 l2 : χ} {rollup : Rollup}
    {inbox : Address} {messageId : Word} {es : List (Exchange χ)} {asserted recorded : AccountProof}
    (h : b.ProvenBy l1 l2 rollup inbox messageId es asserted recorded) :
    b.ShowsExistence ↔ recorded.value? ≠ some 0 ∧ asserted.value? ≠ some 0 := by
  rw [h.assertion_value, h.inbox_value, ShowsExistence]
  simp

/-! ### The values of a composition -/

variable {env : Environment χ σ} {s s' : σ} {es : List (Exchange χ)}

theorem SlotProof.value_of_ofAnswer {slot : Word} {account : List String} {entry : StorageEntry}
    {proof : SlotProof} (h : ofAnswer slot account entry = .ok proof) :
    decodeValue entry.value = .ok proof.value := by
  obtain ⟨accountNodes, -, h⟩ := bind_eq_ok_iff.mp h
  obtain ⟨storageNodes, -, h⟩ := bind_eq_ok_iff.mp h
  obtain ⟨value, hvalue, h⟩ := bind_eq_ok_iff.mp h
  cases h
  exact hvalue

/-- A slot is proven by one answer, and its value is that of the answer. -/
theorem SlotProof.exists_value_of_talk_prove {node : χ} {contract : Address} {slot : Word}
    {block : BlockTag} {proof : SlotProof}
    (h : (prove node contract slot block).run.talk env s = (.ok proof, s', es)) :
    ∃ answer : AccountProof, answer.value? = some proof.value ∧
      es = [⟨node, .proof contract [slot] block, .ok answer⟩] := by
  obtain ⟨answer, entry, rest, hentries, hread, rfl⟩ := of_talk_prove h
  refine ⟨answer, ?_, rfl⟩
  rw [AccountProof.value?, hentries]
  simp [value_of_ofAnswer hread, Except.toOption]

/-- The proof of an assertion is the only one that is asked for on the way to the confirmed state. -/
theorem Rollup.exists_value_of_talk_capture {r : Rollup} {l1 l2 : χ} {l1Block : BitVec 64}
    {snapshot : RollupSnapshot}
    (h : (r.capture l1 l2 l1Block).run.talk env s = (.ok snapshot, s', es)) :
    ∃ (hash : Word) (last : SealedHeader) (answer : AccountProof),
      last.header.hash = snapshot.assertion.afterState.globalState.blockHash ∧
      last.header.number = snapshot.l2Block ∧
      ⟨l2, .headerByHash last.header.hash, .ok (some last)⟩ ∈ es ∧
      answer.value? = some snapshot.proof.value ∧
      provings es =
        [⟨l1, .proof r.contract [mappingSlot hash r.assertionsSlot] (.number l1Block),
          .ok answer⟩] := by
  obtain ⟨hash, created, afterState, header, proof, s₁, s₂, s₃, es₁, es₂, es₃, es₄, hconfirmed,
    hcreated, -, hheader, hproof, rfl, rfl⟩ := of_talk_capture h
  obtain ⟨confirmed, -, rfl⟩ := of_talk_latestConfirmed hconfirmed
  obtain ⟨logs, log, -, -, -, rfl⟩ := of_talk_assertionCreated hcreated
  obtain ⟨hhash, found, rfl, rfl⟩ := of_talk_headerOf hheader
  obtain ⟨answer, hvalue, rfl⟩ := SlotProof.exists_value_of_talk_prove hproof
  refine ⟨hash, found, answer, hhash, rfl, ?_, hvalue, rfl⟩
  -- The header was asked for by the hash of the state, which is the hash that it has.
  rw [hhash]
  simp

/-- Every bundle was made of two proofs and has their values. -/
theorem ProofBundle.exists_provenBy_of_compose {l1 l2 : χ} {devnet : Bool} {rollup : Rollup}
    {inbox : Address} {messageId : Word} {block : BlockTag} {bundle : ProofBundle}
    (h : (compose l1 l2 devnet rollup inbox messageId block).run.talk env s = (.ok bundle, s', es)) :
    ∃ asserted recorded, bundle.ProvenBy l1 l2 rollup inbox messageId es asserted recorded := by
  obtain ⟨base, s₁, es₁, _, hbase, h₁, rfl⟩ := exists_of_talk_bind h
  obtain ⟨u, s₂, es₂, _, hactive, h₂, rfl⟩ := exists_of_talk_bind h₁
  obtain ⟨snapshot, s₃, es₃, _, hsnapshot, h₃, rfl⟩ := exists_of_talk_bind h₂
  obtain ⟨u', s₄, es₄, _, hactive', h₄, rfl⟩ := exists_of_talk_bind h₃
  obtain ⟨inboxProof, s₅, es₅, _, hinbox, h₅, rfl⟩ := exists_of_talk_bind h₄
  rw [talk_bind_of_silent _ (talk_report _ _ _)] at h₅
  obtain ⟨rfl, rfl, rfl⟩ := of_talk_pure h₅
  obtain ⟨-, -, rfl⟩ := L1Snapshot.of_talk_capture (of_talk_adapt hbase)
  obtain ⟨rfl, rfl⟩ := of_talk_ensureActive hactive
  obtain ⟨rfl, rfl⟩ := of_talk_ensureActive hactive'
  obtain ⟨recorded, hrecorded, rfl⟩ := SlotProof.exists_value_of_talk_prove (of_talk_adapt hinbox)
  obtain ⟨hash, last, asserted, hhash, hnumber, hfound, hasserted, hproof⟩ :=
    Rollup.exists_value_of_talk_capture (of_talk_adapt hsnapshot)
  -- The parts on the way from the base chain's header to the record ask for no proof of their own.
  refine ⟨asserted, recorded, ⟨base.source.header.number, hash, last, hhash, ?_, ?_⟩, hasserted,
    hrecorded⟩
  · simp [hfound]
  · rw [provings_append, provings_append, provings_append, provings_append, provings_append, hproof,
      hnumber]
    rfl

end CrossCall
