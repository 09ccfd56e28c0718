import CrossCall.Fulfillment.Validation

/-!
# Why a message is not fulfilled

## Main definitions

* `FulfillmentError` — the ways in which a message is rejected
* `FulfillmentError.stage` — how far it got
-/

namespace CrossCall

/-- Why a message is not fulfilled. -/
inductive FulfillmentError
  | unknownSourceChain (chain : ChainId)
  | decode (cause : DecodeError)
  | validation (cause : ValidationError)
  | gasEstimate (cause : ClientError)
  | gasPrice (cause : ClientError)
  | rewardAssetNotNative (asset : Address)
  | insufficientReward (required provided : Word)
  | nonce (cause : ClientError)
  | submission (cause : ClientError)
deriving DecidableEq

namespace FulfillmentError

/-- The stage at which a message was rejected. -/
def stage : FulfillmentError → Stage
  | decode _ | validation (.decode _) => .decode
  | unknownSourceChain _ | validation _ => .validate
  | gasEstimate _ | gasPrice _ => .gas
  | rewardAssetNotNative _ | insufficientReward _ _ => .reward
  | nonce _ | submission _ => .submit

/-- The text of an error. -/
def message : FulfillmentError → String
  | unknownSourceChain chain => s!"source chain is not configured: {chain.toNat}"
  | decode cause => cause.message
  | validation cause => cause.message
  | gasEstimate cause => s!"estimating gas: {cause.message}"
  | gasPrice cause => s!"fetching gas price: {cause.message}"
  | rewardAssetNotNative _ => "reward asset is not ETH"
  | insufficientReward required provided =>
    s!"reward amount is not enough, required minimum: {required.toNat}, provided: {provided.toNat}"
  | nonce cause => s!"fetching pending nonce: {cause.message}"
  | submission cause => s!"sending transaction: {cause.message}"

end FulfillmentError

end CrossCall
