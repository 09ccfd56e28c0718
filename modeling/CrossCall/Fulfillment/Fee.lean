import CrossCall.Fulfillment.Call

/-!
# Fees and rewards

The gas limit of a transaction is the node's estimate and a fifth more. A reward is enough if it is
paid in the chain's own currency and exceeds the value and the most that the transaction can cost.

## Main definitions

* `Fee` — a gas limit and a gas price, `Fee.bound` the most they can cost
* `bufferedGasLimit` — the limit for an estimate
* `Fee.quote` — asks a node for both
* `requiredReward` — what a reward has to exceed, if it does
-/

namespace CrossCall

/-- A gas limit and a price per unit. -/
structure Fee where
  gasLimit : BitVec 64
  gasPrice : BitVec 128
deriving DecidableEq

/-- The margin on an estimate as a fraction. -/
def gasMargin : Nat × Nat := (12, 10)

/-- An estimate and its margin, rounded down, or the greatest limit where that is less. -/
def bufferedGasLimit (estimate : BitVec 64) : BitVec 64 :=
  BitVec.ofNat 64 (min (BitVec.allOnes 64).toNat (estimate.toNat * gasMargin.1 / gasMargin.2))

/-- The sum of two words, or the greatest word where that is less. -/
def saturatingAdd (a b : Word) : Word := if a.uaddOverflow b then BitVec.allOnes 256 else a + b

namespace Fee

/-- The most that a transaction can cost. -/
def bound (f : Fee) : Word := f.gasLimit.setWidth 256 * f.gasPrice.setWidth 256

/-- Asks a node for the fee of a call: first for an estimate, then for the price. -/
def quote {χ : Type} (node : χ) (call : FulfillmentCall) :
    ExceptT FulfillmentError (Session χ) Fee := do
  let estimate ← Session.query node (.estimateGas call.toRequest) .gasEstimate
  let gasPrice ← Session.query node .gasPrice .gasPrice
  return { gasLimit := bufferedGasLimit estimate, gasPrice }

theorem toNat_bound (f : Fee) : f.bound.toNat = f.gasLimit.toNat * f.gasPrice.toNat := by
  have hl := f.gasLimit.isLt
  have hp := f.gasPrice.isLt
  have : f.gasLimit.toNat * f.gasPrice.toNat < 2 ^ 64 * 2 ^ 128 := Nat.mul_lt_mul'' hl hp
  have hl' : f.gasLimit.toNat % 2 ^ 256 = f.gasLimit.toNat := by omega
  have hp' : f.gasPrice.toNat % 2 ^ 256 = f.gasPrice.toNat := by omega
  rw [bound, BitVec.toNat_mul, BitVec.toNat_setWidth, BitVec.toNat_setWidth, hl', hp']
  omega

end Fee

/-- The address that stands for the chain's own currency. -/
def nativeAsset : Address := 0xEeeeeEeeeEeEeeEeEeEeeEEEeeeeEeeeeeeeEEeE

/-- What a reward has to exceed for a message that needs `value`, if it does. -/
def requiredReward (attributes : Attributes) (value : Word) (fee : Fee) :
    Except FulfillmentError Word :=
  if attributes.rewardAsset ≠ nativeAsset then .error (.rewardAssetNotNative attributes.rewardAsset)
  else
    let required := saturatingAdd value fee.bound
    if attributes.rewardAmount.toNat ≤ required.toNat then
      .error (.insufficientReward required attributes.rewardAmount)
    else .ok required

end CrossCall
