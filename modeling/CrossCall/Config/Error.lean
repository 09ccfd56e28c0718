import CrossCall.Config.Path
import CrossCall.Signature.Key

/-!
# What can be wrong with a configuration

## Main definitions

* `ConfigError` — why a configuration is refused
* `ConfigError.canonical` — the form in which errors are compared
* `FileError` — why a file cannot be read
-/

namespace CrossCall

/-- Why a file cannot be read as a text. -/
inductive FileError
  | notFound
  | notText
  | other (text : String)
deriving DecidableEq

/-- Why a configuration is refused. -/
inductive ConfigError
  | unreadable (path : String) (cause : FileError)
  | malformed (contents : String)
  | noChains
  | duplicateChain (chain : ChainId)
  | invalidPrivateKey (cause : KeyError)
  | fromAddressMismatch (expected actual : Address)
  | zeroQueueCapacity
  | unknownL1Chain (chain : ChainId)
  | unknownTopology (name : String)
deriving DecidableEq

/-- The same error with the shortest text of its path. Two errors have one cause if their canonical
forms are equal. -/
def ConfigError.canonical : ConfigError → ConfigError
  | unreadable path cause => unreadable (FilePath.canonical path) cause
  | e => e

/-- The text of an error. -/
def ConfigError.message : ConfigError → String
  | unreadable path _ => s!"reading config file {path}"
  | malformed _ => "parsing config"
  | noChains => "no chains configured"
  | duplicateChain chain => s!"duplicate chain id: {chain.toNat}"
  | invalidPrivateKey cause => s!"invalid private key: {cause.message}"
  | fromAddressMismatch expected actual =>
    s!"wallet from-address mismatch, want: {Address.checksummed expected}, " ++
      s!"got: {Address.checksummed actual}"
  | zeroQueueCapacity => "fulfillment queue capacity must be positive"
  | unknownL1Chain chain => s!"prover l1 chain is not configured: {chain.toNat}"
  | unknownTopology name => s!"unknown fulfillment topology: {name}"

end CrossCall
