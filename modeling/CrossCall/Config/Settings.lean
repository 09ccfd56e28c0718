import CrossCall.Config.Error
import CrossCall.Data.Basic

/-!
# Settings of the service and of the prover

## Main definitions

* `Topology` — how messages are spread over consumers
* `FulfillmentSettings` — queues and polling
* `ProverSettings` — what a proof is anchored in
-/

namespace CrossCall

/-- How messages are spread over consumers: one for all destinations, or one for each. -/
inductive Topology
  | single
  | perDestination
deriving DecidableEq

namespace Topology

/-- The words for the topologies. -/
def words : List (String × Topology) :=
  [("single", single), ("per-destination", perDestination)]

/-- The word for a topology. -/
def name : Topology → String
  | single => "single"
  | perDestination => "per-destination"

/-- The topology with a name. -/
def ofName (s : String) : Except ConfigError Topology :=
  match words.lookup s with
  | some t => .ok t
  | none => .error (.unknownTopology s)

end Topology

/-- Settings of the service; the interval between polls is in milliseconds. -/
structure FulfillmentSettings where
  queueCapacity : BitVec 64 := 10
  pollInterval : BitVec 64 := 2000
  topology : Topology := .single
deriving DecidableEq

namespace FulfillmentSettings

/-- Reads the settings, of which each has a default. -/
def ofData? (form : Data.Form) (d : Data) : Option FulfillmentSettings := do
  let fs ← d.fields? form ["queue-capacity", "poll-interval-ms", "topology"] true
  let queueCapacity ← fs.withDefault? "queue-capacity" 10 (Data.bits? 64)
  let pollInterval ← fs.withDefault? "poll-interval-ms" 2000 (Data.bits? 64)
  let topology ← fs.withDefault? "topology" .single (Data.word? form Topology.words)
  return { queueCapacity, pollInterval, topology }

/-- The written form of the settings. -/
def toData (s : FulfillmentSettings) : Data :=
  .record
    [("queue-capacity", .ofBits s.queueCapacity), ("poll-interval-ms", .ofBits s.pollInterval),
     ("topology", .text s.topology.name)]

end FulfillmentSettings

/-- Settings of the prover. -/
structure ProverSettings where
  l1ChainId : ChainId
  devnet : Bool := false
  lookback : BitVec 64 := 100000
deriving DecidableEq

namespace ProverSettings

/-- Reads the settings, of which only the base chain has to be given. -/
def ofData? (d : Data) : Option ProverSettings := do
  let fs ← d.fields? .toml ["l1-chain-id", "devnet", "assertion-lookback-blocks"] true
  let l1ChainId ← fs.required? "l1-chain-id" (Data.bits? 64)
  let devnet ← fs.withDefault? "devnet" false Data.bool?
  let lookback ← fs.withDefault? "assertion-lookback-blocks" 100000 (Data.bits? 64)
  return { l1ChainId, devnet, lookback }

/-- The written form of the settings. -/
def toData (s : ProverSettings) : Data :=
  .record
    [("l1-chain-id", .ofBits s.l1ChainId), ("devnet", .bool s.devnet),
     ("assertion-lookback-blocks", .ofBits s.lookback)]

end ProverSettings

end CrossCall
