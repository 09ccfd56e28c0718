import Mathlib
import CrossCall.Proofs.Fulfillment.Acceptance

/-!
# Rewards in exact numbers

The limit of a transaction, what it can cost and what a reward has to exceed are computed in 64, 128
and 256 bits, with a division that rounds down, a product and a sum that stops at the greatest word.
None of the bounds shows in what is accepted: a reward is accepted exactly if it exceeds the sum
that unbounded numbers would give, and a sum that is no word is exceeded by no reward.

## Main definitions

* `Fee.cost` — the exact sum of a value and the most that a transaction can cost
* `WeighsExactly` — the laws of a gas limit and of the reward that it requires

## Main results

* `requiredReward_mono` — a reward stays accepted if it grows, and if what it pays for shrinks
* `requiredReward_weighsExactly` — rewards are weighed in exact numbers
-/

namespace CrossCall

/-- The exact sum of a value and the most that a transaction can cost. -/
def Fee.cost (fee : Fee) (value : Word) : Nat :=
  value.toNat + fee.gasLimit.toNat * fee.gasPrice.toNat

/-! ### The gas limit -/

/-- A limit is no less than the estimate, although it is rounded down and cut off. -/
theorem le_bufferedGasLimit (estimate : BitVec 64) : estimate ≤ bufferedGasLimit estimate := by
  have hlt := estimate.isLt
  rw [BitVec.le_def, toNat_bufferedGasLimit]
  omega

theorem bufferedGasLimit_mono {estimate estimate' : BitVec 64} (h : estimate ≤ estimate') :
    bufferedGasLimit estimate ≤ bufferedGasLimit estimate' := by
  rw [BitVec.le_def] at h
  have hproduct : estimate.toNat * 12 / 10 ≤ estimate'.toNat * 12 / 10 :=
    Nat.div_le_div_right (Nat.mul_le_mul_right 12 h)
  rw [BitVec.le_def, toNat_bufferedGasLimit, toNat_bufferedGasLimit]
  exact min_le_min_left _ hproduct

/-! ### The reward -/

theorem Fee.cost_mono {fee fee' : Fee} {value value' : Word} (hlimit : fee.gasLimit ≤ fee'.gasLimit)
    (hprice : fee.gasPrice ≤ fee'.gasPrice) (hvalue : value ≤ value') :
    fee.cost value ≤ fee'.cost value' :=
  Nat.add_le_add (BitVec.le_def.mp hvalue)
    (Nat.mul_le_mul (BitVec.le_def.mp hlimit) (BitVec.le_def.mp hprice))

/-- A reward stays accepted if it grows, and if the limit, the price and the value shrink. -/
theorem requiredReward_mono {a a' : Attributes} {value value' required : Word} {fee fee' : Fee}
    (h : requiredReward a value fee = .ok required) (hasset : a'.rewardAsset = a.rewardAsset)
    (hamount : a.rewardAmount ≤ a'.rewardAmount) (hvalue : value' ≤ value)
    (hlimit : fee'.gasLimit ≤ fee.gasLimit) (hprice : fee'.gasPrice ≤ fee.gasPrice) :
    ∃ required', requiredReward a' value' fee' = .ok required' := by
  obtain ⟨hnative, hpaid, -⟩ := requiredReward_eq_ok_iff.mp h
  refine exists_requiredReward_iff.mpr ⟨hasset.trans hnative, ?_⟩
  calc fee'.cost value' ≤ fee.cost value := Fee.cost_mono hlimit hprice hvalue
    _ < a.rewardAmount.toNat := hpaid
    _ ≤ a'.rewardAmount.toNat := BitVec.le_def.mp hamount

/-- The laws by which an estimate becomes a limit, and a reward is weighed against the value and the
most that a transaction can cost. -/
structure WeighsExactly (limit : BitVec 64 → BitVec 64) (bound : Fee → Word)
    (required : Attributes → Word → Fee → Except FulfillmentError Word) : Prop where
  /-- The limit is the estimate and a fifth more, rounded down, or the greatest limit. -/
  limit_eq : ∀ estimate, (limit estimate).toNat = min (2 ^ 64 - 1) (estimate.toNat * 12 / 10)
  le_limit : ∀ estimate, estimate ≤ limit estimate
  limit_mono : ∀ estimate estimate', estimate ≤ estimate' → limit estimate ≤ limit estimate'
  /-- The most that a transaction can cost is a word. -/
  bound_eq : ∀ fee, (bound fee).toNat = fee.gasLimit.toNat * fee.gasPrice.toNat
  /-- A reward is accepted if it is paid in the chain's own currency and exceeds the exact sum,
  which is then what it had to exceed. -/
  accepts_iff : ∀ a value fee r, required a value fee = .ok r ↔
    a.rewardAsset = nativeAsset ∧ fee.cost value < a.rewardAmount.toNat ∧ r.toNat = fee.cost value
  /-- A sum that is no word is exceeded by no reward. -/
  refuses : ∀ a value fee, 2 ^ 256 ≤ fee.cost value → ∃ e, required a value fee = .error e
  /-- What is accepted stays accepted for more, and at a lower estimate, price and value. -/
  accepts_mono : ∀ (a a' : Attributes) (value value' : Word) (estimate estimate' : BitVec 64)
    (price price' : BitVec 128) (r : Word),
    required a value ⟨limit estimate, price⟩ = .ok r → a'.rewardAsset = a.rewardAsset →
      a.rewardAmount ≤ a'.rewardAmount → value' ≤ value → estimate' ≤ estimate → price' ≤ price →
        ∃ r', required a' value' ⟨limit estimate', price'⟩ = .ok r'

theorem requiredReward_weighsExactly :
    WeighsExactly bufferedGasLimit Fee.bound requiredReward where
  limit_eq := toNat_bufferedGasLimit
  le_limit := le_bufferedGasLimit
  limit_mono _ _ := bufferedGasLimit_mono
  bound_eq := Fee.toNat_bound
  accepts_iff _ _ _ _ := requiredReward_eq_ok_iff
  refuses a value fee hcost := by
    rcases hrequired : requiredReward a value fee with e | r
    · exact ⟨e, rfl⟩
    · -- An accepted reward exceeds the sum, and a reward is a word.
      obtain ⟨-, hpaid, -⟩ := requiredReward_eq_ok_iff.mp hrequired
      have hlt : fee.cost value < 2 ^ 256 := hpaid.trans a.rewardAmount.isLt
      exact absurd hcost (Nat.not_le.mpr hlt)
  accepts_mono _ _ _ _ _ _ _ _ _ h hasset hamount hvalue hestimate hprice :=
    requiredReward_mono h hasset hamount hvalue (bufferedGasLimit_mono hestimate) hprice

/-- A reward that equals the sum is refused, and one more is accepted. The sum is what the greatest
transaction costs. -/
example :
    let fee : Fee := ⟨bufferedGasLimit 0xffffffffffffffff, 0xffffffffffffffffffffffffffffffff⟩
    (requiredReward { rewardAsset := nativeAsset, rewardAmount := fee.bound } 0 fee).isOk = false ∧
      requiredReward { rewardAsset := nativeAsset, rewardAmount := fee.bound + 1 } 0 fee =
        .ok fee.bound := by
  decide +kernel

end CrossCall
