import CrossCall.Chain.Endpoint
import CrossCall.Config.Settings
import CrossCall.Config.Wallet
import CrossCall.Toml.Reader

/-!
# The configuration

## Main definitions

* `Configuration` — the chains, the wallet and the settings
* `Configuration.validate` — checks what concerns several fields
* `Configuration.parse`, `Configuration.load` — read the configuration from a text or a file
* `Configuration.chain?` — the chain with an id
-/

namespace CrossCall

/-- The chains by name, the wallet and the settings. -/
structure Configuration where
  /-- Sorted by name. -/
  chains : List (String × Endpoint)
  wallet : Wallet
  fulfillment : FulfillmentSettings := {}
  prover : Option ProverSettings := none
deriving DecidableEq

namespace Configuration

/-- The configured endpoints in the order of their names. -/
def endpoints (c : Configuration) : List Endpoint := c.chains.map (·.2)

/-- The configured chain with an id. -/
def chain? (c : Configuration) (id : ChainId) : Option Endpoint :=
  c.endpoints.find? fun e => e.chainId = id

/-- The first id that has occurred before. -/
def firstRepeated (seen : List ChainId) : List ChainId → Option ChainId
  | [] => none
  | id :: ids => if id ∈ seen then some id else firstRepeated (id :: seen) ids

/-- Checks, in this order: there are chains, their ids differ, queues hold something, the prover's
base chain is configured, and the key belongs to the configured address. -/
def validate (c : Configuration) : Except ConfigError Unit := do
  if c.chains.isEmpty then throw .noChains
  if let some id := firstRepeated [] (c.endpoints.map (·.chainId)) then throw (.duplicateChain id)
  if c.fulfillment.queueCapacity = 0 then throw .zeroQueueCapacity
  if let some prover := c.prover then
    if prover.l1ChainId ∉ c.endpoints.map (·.chainId) then throw (.unknownL1Chain prover.l1ChainId)
  discard c.wallet.verifiedAccount

/-- Named endpoints. -/
def chains? : Data → Option (List (String × Endpoint))
  | .record fields => do
    let entries ← fields.mapM fun (name, d) => (Endpoint.ofData? .toml d).map fun e => (name, e)
    return sortByName entries
  | _ => none

/-- Reads a configuration. The chains and the wallet have to be given. -/
def ofData? (d : Data) : Option Configuration := do
  let fs ← d.fields? .toml ["chains", "wallets", "fulfillment", "prover"] true
  let chains ← fs.required? "chains" chains?
  let wallet ← fs.required? "wallets" Wallet.ofData?
  let fulfillment ← fs.withDefault? "fulfillment" {} (FulfillmentSettings.ofData? .toml)
  let prover ← fs.optional? "prover" ProverSettings.ofData?
  return { chains, wallet, fulfillment, prover }

/-- The written form of a configuration. -/
def toData (c : Configuration) : Data :=
  .record
    [("chains", .record (c.chains.map fun e => (e.1, e.2.toData))), ("wallets", c.wallet.toData),
     ("fulfillment", c.fulfillment.toData),
     ("prover", (c.prover.map ProverSettings.toData).getD .null)]

/-- Reads and checks the text of a configuration. -/
def parse (s : String) : Except ConfigError Configuration :=
  match (Toml.parse? s).bind ofData? with
  | none => .error (.malformed s)
  | some c => do
    c.validate
    return c

/-- Reads and checks the configuration in a file. -/
def load (path : String) (contents : Except FileError Bytes) : Except ConfigError Configuration :=
  match contents with
  | .error e => .error (.unreadable path e)
  | .ok bs =>
    match String.fromUTF8? (ByteArray.mk bs.toArray) with
    | none => .error (.unreadable path .notText)
    | some s => parse s

end Configuration

end CrossCall
