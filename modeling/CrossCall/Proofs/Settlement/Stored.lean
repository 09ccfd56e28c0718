import Mathlib
import CrossCall.Proofs.Data.Finding
import CrossCall.Proofs.Job.Printing
import CrossCall.Proofs.Json.Nesting
import CrossCall.Proofs.Settlement.Snapshot
import CrossCall.Settlement.Bundle

/-!
# Stored proofs

The job of proving prints a bundle as a text, and an operator stores the text until the claim is made.
Nothing is lost on the way: all that the contract data of a bundle is made of is found in its text, in
fields of their own names, and the bundle that is read is the one that was printed.

## Main results

* `ProofBundle.finds_toData` — a bundle is found in its written form, and so is each of its parts
* `ProofBundle.isJson_toData` — the written form is a tree that JSON can hold
* `ProofBundle.stored_restores` — the text of a bundle is read as the bundle
-/

namespace CrossCall

open Data

/-! ### Single values -/

namespace Data

variable {depth n : Nat} {α : Type}

theorem isJson_ofFixed (w : BitVec n) : (ofFixed w).IsJson depth := .text _

theorem isJson_ofBytes (bs : Bytes) : (ofBytes bs).IsJson depth := .text _

theorem isJson_ofBits (hn : n ≤ 64) (w : BitVec n) : (ofBits w).IsJson depth := by
  have hw : w.toNat < 2 ^ 64 := w.isLt.trans_le (Nat.pow_le_pow_right (by decide) hn)
  exact .int (by omega) (by exact_mod_cast hw)

theorem isJson_map {write : α → Data} (h : ∀ a, (write a).IsJson depth) (as : List α) :
    (Data.list (as.map write)).IsJson (depth + 1) := by
  refine .list fun d hd => ?_
  obtain ⟨a, -, rfl⟩ := List.mem_map.mp hd
  exact h a

end Data

/-! ### The parts of a bundle -/

namespace SlotProof

theorem finds_toData (p : SlotProof) : Finds ofData? p.toData p := by
  refine finds_record fun fields h => ?_
  have hslot : fields.required? "storageKey" (fixed? .json 256) = some p.slot :=
    required?_eq_of_agree h rfl (finds_ofFixed (by decide) p.slot)
  have hvalue : fields.required? "storageValue" (fixed? .json 256) = some p.value :=
    required?_eq_of_agree h rfl (finds_ofFixed (by decide) p.value)
  have haccount : fields.required? "accountProof" (listOf? bytes?) = some p.accountNodes :=
    required?_eq_of_agree h rfl (finds_listOf? finds_ofBytes p.accountNodes)
  have hstorage : fields.required? "storageProof" (listOf? bytes?) = some p.storageNodes :=
    required?_eq_of_agree h rfl (finds_listOf? finds_ofBytes p.storageNodes)
  rw [hslot, hvalue, haccount, hstorage]
  rfl

theorem isJson_toData (p : SlotProof) (depth : Nat) : p.toData.IsJson (depth + 2) := by
  refine .record (by simp) ?_
  simp only [List.forall_mem_cons]
  exact ⟨isJson_ofFixed _, isJson_ofFixed _, isJson_map isJson_ofBytes _,
    isJson_map isJson_ofBytes _, by simp⟩

end SlotProof

namespace L1StateProof

theorem finds_toData (p : L1StateProof) : Finds ofData? p.toData p := by
  refine finds_record fun fields h => ?_
  have hbeacon : fields.required? "beaconRoot" (fixed? .json 256) = some p.beaconRoot :=
    required?_eq_of_agree h rfl (finds_ofFixed (by decide) p.beaconRoot)
  have htimestamp : fields.required? "beaconTimestamp" (bits? 64) = some p.beaconTimestamp :=
    required?_eq_of_agree h rfl (finds_ofBits p.beaconTimestamp)
  have hstate : fields.required? "executionStateRoot" (fixed? .json 256) =
      some p.executionStateRoot :=
    required?_eq_of_agree h rfl (finds_ofFixed (by decide) p.executionStateRoot)
  have hproof : fields.required? "stateRootProof" (listOf? (fixed? .json 256)) =
      some p.stateRootProof :=
    required?_eq_of_agree h rfl (finds_listOf? (finds_ofFixed (by decide)) p.stateRootProof)
  rw [hbeacon, htimestamp, hstate, hproof]
  rfl

theorem isJson_toData (p : L1StateProof) (depth : Nat) : p.toData.IsJson (depth + 2) := by
  refine .record (by simp) ?_
  simp only [List.forall_mem_cons]
  exact ⟨isJson_ofFixed _, isJson_ofBits le_rfl _, isJson_ofFixed _, isJson_map isJson_ofFixed _,
    by simp⟩

end L1StateProof

theorem MachineStatus.lookup_name (s : MachineStatus) : words.lookup s.name = some s := by
  cases s <;> rfl

namespace AssertionState

theorem finds_toData (s : AssertionState) : Finds ofData? s.toData s := by
  have hglobal : Finds globalState?
      (.record
        [("bytes32Vals", .list [.ofFixed s.globalState.blockHash, .ofFixed s.globalState.sendRoot]),
         ("u64Vals",
           .list [.ofBits s.globalState.inboxPosition, .ofBits s.globalState.messagePosition])])
      s.globalState := by
    refine finds_record fun fields h => ?_
    have hhashes : fields.required? "bytes32Vals" (pairOf? (fixed? .json 256)) =
        some (s.globalState.blockHash, s.globalState.sendRoot) :=
      required?_eq_of_agree h rfl
        (finds_pairOf? (finds_ofFixed (by decide) _) (finds_ofFixed (by decide) _))
    have hpositions : fields.required? "u64Vals" (pairOf? (bits? 64)) =
        some (s.globalState.inboxPosition, s.globalState.messagePosition) :=
      required?_eq_of_agree h rfl (finds_pairOf? (finds_ofBits _) (finds_ofBits _))
    rw [hhashes, hpositions]
    rfl
  refine finds_record fun fields h => ?_
  have hstate : fields.required? "globalState" globalState? = some s.globalState :=
    required?_eq_of_agree h rfl hglobal
  have hstatus : fields.required? "machineStatus" (word? .json MachineStatus.words) =
      some s.machineStatus :=
    required?_eq_of_agree h rfl (finds_word? s.machineStatus.lookup_name)
  have hhistory : fields.required? "endHistoryRoot" (fixed? .json 256) = some s.endHistoryRoot :=
    required?_eq_of_agree h rfl (finds_ofFixed (by decide) s.endHistoryRoot)
  rw [hstate, hstatus, hhistory]
  rfl

theorem isJson_toData (s : AssertionState) (depth : Nat) : s.toData.IsJson (depth + 3) := by
  refine .record (by simp) ?_
  simp only [List.forall_mem_cons]
  refine ⟨.record (by simp) ?_, .text _, isJson_ofFixed _, by simp⟩
  simp only [List.forall_mem_cons]
  refine ⟨.list ?_, .list ?_, by simp⟩
  · simp only [List.forall_mem_cons]
    exact ⟨isJson_ofFixed _, isJson_ofFixed _, by simp⟩
  · simp only [List.forall_mem_cons]
    exact ⟨isJson_ofBits le_rfl _, isJson_ofBits le_rfl _, by simp⟩

end AssertionState

namespace RollupAssertion

theorem finds_toData (a : RollupAssertion) : Finds ofData? a.toData a := by
  refine finds_record fun fields h => ?_
  have hheader : fields.required? "encodedBlockArray" bytes? = some a.encodedHeader :=
    required?_eq_of_agree h rfl (finds_ofBytes a.encodedHeader)
  have hafter : fields.required? "afterState" AssertionState.ofData? = some a.afterState :=
    required?_eq_of_agree h rfl a.afterState.finds_toData
  have hparent : fields.required? "prevAssertionHash" (fixed? .json 256) =
      some a.prevAssertionHash :=
    required?_eq_of_agree h rfl (finds_ofFixed (by decide) a.prevAssertionHash)
  have hbatch : fields.required? "sequencerBatchAcc" (fixed? .json 256) =
      some a.sequencerBatchAcc :=
    required?_eq_of_agree h rfl (finds_ofFixed (by decide) a.sequencerBatchAcc)
  rw [hheader, hafter, hparent, hbatch]
  rfl

theorem isJson_toData (a : RollupAssertion) (depth : Nat) : a.toData.IsJson (depth + 4) := by
  refine .record (by simp) ?_
  simp only [List.forall_mem_cons]
  exact ⟨isJson_ofBytes _, a.afterState.isJson_toData depth, isJson_ofFixed _, isJson_ofFixed _,
    by simp⟩

end RollupAssertion

/-! ### The whole bundle -/

namespace ProofBundle

theorem finds_toData (b : ProofBundle) : Finds ofData? b.toData b := by
  refine finds_record fun fields h => ?_
  have hl1State : fields.required? "l1StateProof" L1StateProof.ofData? = some b.l1State :=
    required?_eq_of_agree h rfl b.l1State.finds_toData
  have hassertion : fields.required? "destRollupAssertion" RollupAssertion.ofData? =
      some b.assertion :=
    required?_eq_of_agree h rfl b.assertion.finds_toData
  have hassertionProof : fields.required? "destL2StateRootProof" SlotProof.ofData? =
      some b.assertionProof :=
    required?_eq_of_agree h rfl b.assertionProof.finds_toData
  have hinboxProof : fields.required? "destL2AccountProof" SlotProof.ofData? =
      some b.inboxProof :=
    required?_eq_of_agree h rfl b.inboxProof.finds_toData
  rw [hl1State, hassertion, hassertionProof, hinboxProof]
  rfl

theorem isJson_toData (b : ProofBundle) (depth : Nat) : b.toData.IsJson (depth + 5) := by
  refine .record (by simp) ?_
  simp only [List.forall_mem_cons]
  exact ⟨b.l1State.isJson_toData (depth + 2), b.assertion.isJson_toData depth,
    b.assertionProof.isJson_toData (depth + 2), b.inboxProof.isJson_toData (depth + 2), by simp⟩

theorem ofText?_pretty (b : ProofBundle) (before after : String)
    (hbefore : ∀ c ∈ before.toList, Json.isSpace c) (hafter : ∀ c ∈ after.toList, Json.isSpace c) :
    ofText? (before ++ b.toData.pretty ++ after) = some b := by
  have hjson : b.toData.IsJson Json.maxDepth := b.isJson_toData 122
  rw [ofText?, Json.parse?_pretty hjson hbefore hafter]
  exact b.finds_toData.eq

/-- A bundle is read off its written form, whatever the order of the fields, and off its text with
any white space around it. So what a job prints, if it prints anything, is read as a bundle again, and
the contract data of that bundle is the one that is printed next. -/
theorem stored_restores :
    (∀ b : ProofBundle,
      (∀ d, b.toData.Agrees d → ofData? d = some b) ∧
        ∀ before after : String, (∀ c ∈ before.toList, Json.isSpace c) →
          (∀ c ∈ after.toList, Json.isSpace c) →
            ofText? (before ++ b.toData.pretty ++ after) = some b ∧
              (ofText? (before ++ b.toData.pretty ++ after)).map encode = some b.encode) ∧
    ∀ {σ : Type} (env : Environment NodeClient σ) (s : σ) (c : Configuration)
      (request : ProofRequest),
      printed ((Job.proveFulfillment c request).run.run env s).2.2 = [] ∨
        ∃ b text rest,
          printed ((Job.proveFulfillment c request).run.run env s).2.2 =
            text :: b.encode.hex :: rest ∧
          ofText? text = some b := by
  constructor
  · intro b
    refine ⟨b.finds_toData, fun before after hbefore hafter => ?_⟩
    have htext := b.ofText?_pretty before after hbefore hafter
    exact ⟨htext, by rw [htext, Option.map_some]⟩
  · intro σ env s c request
    rcases Job.nonempty_course c request (Prod.ext rfl (Prod.ext rfl rfl)) with hnil | ⟨⟨course⟩⟩
    · exact .inl hnil
    · refine .inr ⟨course.bundle, _, course.claims, course.printed_eq, ?_⟩
      have htext := course.bundle.ofText?_pretty "" "" (by simp) (by simp)
      rwa [String.empty_append, String.append_empty] at htext

end ProofBundle

namespace Devnet

/-- The written form of a bundle with its fields in alphabetical order. -/
def sortedData : Data :=
  .record
    [("destL2AccountProof", bundle.inboxProof.toData),
     ("destL2StateRootProof", bundle.assertionProof.toData),
     ("destRollupAssertion", bundle.assertion.toData), ("l1StateProof", bundle.l1State.toData)]

theorem agrees_sortedData : bundle.toData.Agrees sortedData := by
  refine agrees_of_perm ?_ (by simp)
  exact (List.reverse_perm _).symm

theorem stored_restores_sortedData :
    bundle.toData.Agrees sortedData ∧ ProofBundle.ofData? sortedData = some bundle ∧
      (∀ c ∈ "\n".toList, Json.isSpace c) ∧
      ProofBundle.ofText? ("\n" ++ bundle.toData.pretty ++ "\n") = some bundle := by
  have hline : ∀ c ∈ "\n".toList, Json.isSpace c := by simp [Json.isSpace]
  obtain ⟨hdata, htext⟩ := ProofBundle.stored_restores.1 bundle
  exact ⟨agrees_sortedData, hdata _ agrees_sortedData, hline, (htext "\n" "\n" hline hline).1⟩

end Devnet

end CrossCall
