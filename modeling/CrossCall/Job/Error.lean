import CrossCall.Chain.Registry
import CrossCall.Config.Error
import CrossCall.Fulfillment.Error
import CrossCall.Service.Supervisor
import CrossCall.Settlement.Claim

/-!
# Why a job fails

## Main definitions

* `JobError` — what went wrong
* `JobError.message`, `JobError.cause?` — its text, and that of what caused it
-/

namespace CrossCall

/-- Why a job fails. -/
inductive JobError
  | config (path : String) (cause : ConfigError)
  | connections (cause : RegistryError)
  | registry (cause : RegistryError)
  | wallet (cause : ConfigError)
  | missingProver
  | unknownL1Chain (chain : ChainId)
  | unknownChain (chain : ChainId)
  | noClient (chain : ChainId)
  | inbox (cause : InboxError)
  | composition (cause : CompositionError)
  | claim (cause : ClaimError)
  | fulfillment (cause : FulfillmentError)
  | start (cause : Service.StartError)
deriving DecidableEq

namespace JobError

/-- The text of an error. -/
def message : JobError → String
  | config path _ => s!"failed to load config from {path}"
  | connections _ => "failed to connect to configured chains"
  | registry cause => cause.message
  | wallet cause => cause.message
  | missingProver => "missing [prover] configuration"
  | unknownL1Chain chain => s!"L1 chain {chain.toNat} is not configured"
  | unknownChain chain => s!"chain {chain.toNat} is not configured"
  | noClient chain => s!"no client for chain {chain.toNat}"
  | inbox cause => cause.message
  | composition cause => cause.message
  | claim cause => cause.message
  | fulfillment cause => cause.message
  | start cause => cause.message

/-- The text of what caused an error that only says what was tried. -/
def cause? : JobError → Option String
  | config _ cause => some cause.message
  | connections cause => some cause.message
  | _ => none

end JobError

end CrossCall
