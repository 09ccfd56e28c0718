import Mathlib
import CrossCall.Proofs.Message.Contents

/-!
# The total of a batch

The values of calls are added one after the other, and the first sum that leaves 256 bits ends the
addition. Values are never negative, so a sum on the way leaves 256 bits only if the whole sum does.
What comes out is therefore decided by the exact sum, whatever the order of the calls is and however
they are divided.

## Main definitions

* `addBatch` — adds the total of a batch to a sum
* `totalOfParts` — the total of the totals of several batches

## Main results

* `foldlM_addCallValue_eq` — where a running total ends
* `foldlM_addCallValue_eq_addBatch` — a batch may be added at once
* `totalCallValue_isExact` — the total of a batch is its exact sum if that is a word, in any order and
  in any parts
-/

namespace CrossCall

variable {calls calls' : List Call} {total : Word}

/-! ### Exact sums -/

theorem exactCallValue_singleton (call : Call) : exactCallValue [call] = call.value.toNat := by
  simp [exactCallValue]

theorem exactCallValue_eq_of_perm (h : calls.Perm calls') :
    exactCallValue calls = exactCallValue calls' :=
  (h.map _).sum_eq

/-! ### Running totals -/

/-- There is one way for an addition to fail. -/
theorem eq_of_foldlM_addCallValue_eq_error {e : DecodeError}
    (h : calls.foldlM addCallValue total = .error e) : e = .callValueOverflow := by
  induction calls generalizing total with
  | nil => cases h
  | cons call calls ih =>
    rw [List.foldlM_cons, bind_eq_error_iff] at h
    rcases h with hfirst | ⟨next, -, hrest⟩
    · rw [addCallValue] at hfirst
      split at hfirst
      · exact (Except.error.inj hfirst).symm
      · cases hfirst
    · exact ih hrest

/-- Where a running total ends depends on the exact sum alone. -/
theorem foldlM_addCallValue_eq (calls : List Call) (total : Word) :
    calls.foldlM addCallValue total =
      if total.toNat + exactCallValue calls < 2 ^ 256 then
        .ok (BitVec.ofNat 256 (total.toNat + exactCallValue calls))
      else .error .callValueOverflow := by
  by_cases hfits : total.toNat + exactCallValue calls < 2 ^ 256
  · rw [if_pos hfits, foldlM_addCallValue_eq_ok_iff, BitVec.toNat_ofNat, Nat.mod_eq_of_lt hfits]
  · rw [if_neg hfits]
    cases h : calls.foldlM addCallValue total with
    | ok sum =>
      -- The end of the addition would be a word that holds the whole sum.
      have hsum := foldlM_addCallValue_eq_ok_iff.mp h
      have hword := sum.isLt
      omega
    | error e => rw [eq_of_foldlM_addCallValue_eq_error h]

theorem totalCallValue_eq (calls : List Call) :
    totalCallValue calls =
      if exactCallValue calls < 2 ^ 256 then .ok (BitVec.ofNat 256 (exactCallValue calls))
      else .error .callValueOverflow := by
  have h := foldlM_addCallValue_eq calls 0
  rwa [show (0 : Word).toNat = 0 from rfl, Nat.zero_add] at h

/-! ### Batches in parts -/

/-- Adds the total of a batch to a sum. -/
def addBatch (total : Word) (batch : List Call) : Except DecodeError Word := do
  let value ← totalCallValue batch
  addCallValue total { value }

/-- The total of the totals of several batches. -/
def totalOfParts (parts : List (List Call)) : Except DecodeError Word := parts.foldlM addBatch 0

/-- A batch may be added at once. -/
theorem foldlM_addCallValue_eq_addBatch (calls : List Call) (total : Word) :
    calls.foldlM addCallValue total = addBatch total calls := by
  rw [addBatch, totalCallValue_eq]
  by_cases hfits : exactCallValue calls < 2 ^ 256
  · -- The batch is worth as much as one call with its total.
    let call : Call := { value := BitVec.ofNat 256 (exactCallValue calls) }
    have hone : addCallValue total call = [call].foldlM addCallValue total := by simp
    have hvalue : exactCallValue [call] = exactCallValue calls := by
      rw [exactCallValue_singleton, BitVec.toNat_ofNat, Nat.mod_eq_of_lt hfits]
    rw [if_pos hfits]
    change _ = addCallValue total call
    rw [hone, foldlM_addCallValue_eq, foldlM_addCallValue_eq, hvalue]
  · rw [if_neg hfits, foldlM_addCallValue_eq, if_neg (by omega)]
    rfl

theorem foldlM_flatten_eq (parts : List (List Call)) (total : Word) :
    parts.flatten.foldlM addCallValue total = parts.foldlM addBatch total := by
  induction parts generalizing total with
  | nil => rfl
  | cons batch parts ih =>
    rw [List.flatten_cons, List.foldlM_append, List.foldlM_cons, foldlM_addCallValue_eq_addBatch]
    exact bind_congr fun next => ih next

/-- The total of a batch is the exact sum of its values if that is a word, and there is none if it is
not. Sums on the way decide nothing: the total is the same in any order of the calls, and it is the
total of the totals of any parts. -/
theorem totalCallValue_isExact :
    (∀ calls : List Call,
      totalCallValue calls =
        if exactCallValue calls < 2 ^ 256 then .ok (BitVec.ofNat 256 (exactCallValue calls))
        else .error .callValueOverflow) ∧
    (∀ calls calls' : List Call, calls.Perm calls' →
      totalCallValue calls = totalCallValue calls') ∧
    ∀ parts : List (List Call), totalCallValue parts.flatten = totalOfParts parts := by
  refine ⟨totalCallValue_eq, fun calls calls' h => ?_, fun parts => foldlM_flatten_eq parts 0⟩
  rw [totalCallValue_eq, totalCallValue_eq, exactCallValue_eq_of_perm h]

/-- Two batches in two orders: one that fills a word, and one that goes beyond it. -/
theorem totalCallValue_isExact_reversed :
    let full : List Call := [{ value := 2 ^ 256 - 2 }, {}, { target := 3, value := 1 }]
    let beyond : List Call := { data := [4], value := 1 } :: full
    full.Perm full.reverse ∧ totalCallValue full.reverse = .ok (2 ^ 256 - 1) ∧
      beyond.Perm beyond.reverse ∧ totalCallValue beyond.reverse = .error .callValueOverflow := by
  refine ⟨(List.reverse_perm _).symm, ?_, (List.reverse_perm _).symm, ?_⟩
  · rw [← totalCallValue_isExact.2.1 _ _ (List.reverse_perm _).symm]
    decide +kernel
  · rw [← totalCallValue_isExact.2.1 _ _ (List.reverse_perm _).symm]
    decide +kernel

end CrossCall
