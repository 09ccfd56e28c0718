import Mathlib
import CrossCall.Config.Configuration
import CrossCall.Proofs.Message.Contents

/-!
# Accepted configurations

A configuration is checked once, before anything is done with it. What the rest of the program may
rely on is what the checks say and no more.

## Main definitions

* `Configuration.Accepted` — what the checks make sure of

## Main results

* `Configuration.firstRepeated_eq_none_iff` — the search for a repeated id finds none only if all differ
* `Configuration.validate_eq_ok_iff` — the checks pass exactly for the accepted configurations
-/

namespace CrossCall

theorem discard_eq_ok_iff {ε α : Type} {x : Except ε α} :
    discard x = .ok () ↔ ∃ a, x = .ok a := by
  cases x <;> simp [discard, Functor.discard, Functor.mapConst, Except.map]

theorem Wallet.verifiedAccount_eq_ok_iff {w : Wallet} {account : Account} :
    w.verifiedAccount = .ok account ↔ w.account = .ok account ∧ account.address = w.fromAddress := by
  rw [verifiedAccount, bind_eq_ok_iff]
  constructor
  · rintro ⟨found, hfound, h⟩
    split at h
    next => cases h
    next haddress =>
      cases h
      exact ⟨hfound, not_not.mp haddress⟩
  · rintro ⟨hfound, haddress⟩
    exact ⟨account, hfound, by simp [haddress, pure, Except.pure]⟩

namespace Configuration

/-- What the checks make sure of: there are chains, their ids differ, queues hold something, the
prover's base chain is configured, and the key belongs to the configured address. -/
structure Accepted (c : Configuration) : Prop where
  chains_ne : c.chains ≠ []
  distinct : (c.endpoints.map (·.chainId)).Nodup
  capacity_ne : c.fulfillment.queueCapacity ≠ 0
  l1_configured : ∀ prover, c.prover = some prover → prover.l1ChainId ∈ c.endpoints.map (·.chainId)
  wallet : ∃ account, c.wallet.verifiedAccount = .ok account

theorem Accepted.capacity_pos {c : Configuration} (h : c.Accepted) :
    0 < c.fulfillment.queueCapacity.toNat :=
  Nat.pos_of_ne_zero fun hzero => h.capacity_ne (BitVec.eq_of_toNat_eq hzero)

theorem firstRepeated_eq_none_iff {seen ids : List ChainId} :
    firstRepeated seen ids = none ↔ ids.Nodup ∧ ∀ id ∈ ids, id ∉ seen := by
  -- By induction on the ids, for any that were seen before: an id joins them once it is passed.
  induction ids generalizing seen with
  | nil => simp [firstRepeated]
  | cons id ids ih =>
    rw [firstRepeated]
    split
    next hmem => simp [hmem]
    next hmem =>
      rw [ih, List.nodup_cons]
      simp only [List.mem_cons, not_or, forall_eq_or_imp, hmem, not_false_eq_true, true_and]
      constructor
      · rintro ⟨hnodup, hall⟩
        exact ⟨⟨fun hid => (hall id hid).1 rfl, hnodup⟩, fun other h => (hall other h).2⟩
      · rintro ⟨⟨hid, hnodup⟩, hall⟩
        refine ⟨hnodup, fun other h => ⟨?_, hall other h⟩⟩
        rintro rfl
        exact hid h

/-- The checks pass exactly for the accepted configurations. -/
theorem validate_eq_ok_iff {c : Configuration} : c.validate = .ok () ↔ c.Accepted := by
  rw [validate]
  simp only [guard_eq_ok_iff, List.isEmpty_iff]
  -- A repeated id ends the checks, and the prover's chain is looked at only if there is a prover.
  cases hrepeated : firstRepeated [] (c.endpoints.map (·.chainId)) with
  | some id =>
    constructor
    · rintro ⟨-, h⟩
      cases h
    · intro h
      have hnone := firstRepeated_eq_none_iff.mpr ⟨h.distinct, fun _ _ => List.not_mem_nil⟩
      rw [hrepeated] at hnone
      cases hnone
  | none =>
    have hdistinct := (firstRepeated_eq_none_iff.mp hrepeated).1
    cases hprover : c.prover with
    | none =>
      simp only [guard_eq_ok_iff, discard_eq_ok_iff]
      constructor
      · rintro ⟨hchains, hcapacity, hwallet⟩
        exact ⟨hchains, hdistinct, hcapacity, by simp [hprover], hwallet⟩
      · intro h
        exact ⟨h.chains_ne, h.capacity_ne, h.wallet⟩
    | some prover =>
      simp only [guard_eq_ok_iff, discard_eq_ok_iff, not_not]
      constructor
      · rintro ⟨hchains, hcapacity, hl1, hwallet⟩
        refine ⟨hchains, hdistinct, hcapacity, ?_, hwallet⟩
        rintro prover' hprover'
        obtain rfl : prover = prover' := Option.some.inj (hprover.symm.trans hprover')
        exact hl1
      · intro h
        exact ⟨h.chains_ne, h.capacity_ne, h.l1_configured prover hprover, h.wallet⟩

end Configuration

end CrossCall
