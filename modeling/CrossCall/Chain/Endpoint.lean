import CrossCall.Data.Basic

/-!
# Endpoints

What is configured about a chain: how its node is reached and which contracts stand on it.

## Main definitions

* `Endpoint` — the configuration of a chain
* `Endpoint.outboxName?` — the name of a watched outbox
* `Endpoint.ofData?`, `Endpoint.toData` — its written form
-/

namespace CrossCall

/-- Inserts into a list sorted by name, in place of an entry of the same name. -/
def insertByName {α : Type} (name : String) (a : α) : List (String × α) → List (String × α)
  | [] => [(name, a)]
  | (other, b) :: rest =>
    if name < other then (name, a) :: (other, b) :: rest
    else if name = other then (name, a) :: rest
    else (other, b) :: insertByName name a rest

/-- Sorts entries by name; of several with one name the last stays. -/
def sortByName {α : Type} (entries : List (String × α)) : List (String × α) :=
  entries.foldl (fun sorted e => insertByName e.1 e.2 sorted) []

/-- The configuration of a chain. A contract that is not configured has the address zero. -/
structure Endpoint where
  chainId : ChainId
  nodeUrl : String
  skipVerify : Bool := false
  /-- The watched outboxes, sorted by name. -/
  outboxes : List (String × Address) := []
  inbox : Address := 0
  entrypoint : Address := 0
  l2Oracle : Address := 0
  l2OracleStorageKey : Word := 0
deriving DecidableEq, Inhabited

namespace Endpoint

/-- Whether an address is a watched outbox. -/
def isOutbox (e : Endpoint) (a : Address) : Bool := e.outboxes.any fun o => o.2 = a

/-- The first name under which an address is watched. -/
def outboxName? (e : Endpoint) (a : Address) : Option String :=
  (e.outboxes.find? fun o => o.2 = a).map (·.1)

/-- The names of the fields. -/
def fieldNames : List String :=
  ["chain-id", "node-url", "node-insecure-skip-verify", "outbox-addresses", "inbox-address",
   "entrypoint-address", "l2-oracle", "l2-oracle-storage-key"]

/-- Named addresses. -/
def outboxes? (form : Data.Form) : Data → Option (List (String × Address))
  | .record fields => do
    let entries ← fields.mapM fun (name, d) => (d.fixed? form 160).map fun a => (name, a)
    return sortByName entries
  | _ => none

/-- Reads an endpoint. Only the chain id and the node's URL have to be given. -/
def ofData? (form : Data.Form) (d : Data) : Option Endpoint := do
  let fs ← d.fields? form fieldNames true
  let chainId ← fs.required? "chain-id" (Data.bits? 64)
  let nodeUrl ← fs.required? "node-url" Data.text?
  let skipVerify ← fs.withDefault? "node-insecure-skip-verify" false Data.bool?
  let outboxes ← fs.withDefault? "outbox-addresses" [] (outboxes? form)
  let inbox ← fs.withDefault? "inbox-address" 0 (Data.fixed? form 160)
  let entrypoint ← fs.withDefault? "entrypoint-address" 0 (Data.fixed? form 160)
  let l2Oracle ← fs.withDefault? "l2-oracle" 0 (Data.fixed? form 160)
  let l2OracleStorageKey ← fs.withDefault? "l2-oracle-storage-key" 0 (Data.fixed? form 256)
  return { chainId, nodeUrl, skipVerify, outboxes, inbox, entrypoint, l2Oracle, l2OracleStorageKey }

/-- The written form of an endpoint. -/
def toData (e : Endpoint) : Data :=
  .record
    [("chain-id", .ofBits e.chainId), ("node-url", .text e.nodeUrl),
     ("node-insecure-skip-verify", .bool e.skipVerify),
     ("outbox-addresses", .record (e.outboxes.map fun o => (o.1, .ofFixed o.2))),
     ("inbox-address", .ofFixed e.inbox), ("entrypoint-address", .ofFixed e.entrypoint),
     ("l2-oracle", .ofFixed e.l2Oracle), ("l2-oracle-storage-key", .ofFixed e.l2OracleStorageKey)]

end Endpoint

end CrossCall
