import CrossCall.Data.Basic
import CrossCall.Node.Request

/-!
# Proofs as nodes write them

## Main definitions

* `AccountProof.ofData?`, `AccountProof.toData` — the written form of a node's proof
-/

namespace CrossCall

/-- Reads a storage entry; the proof may be absent. -/
def StorageEntry.ofData? (d : Data) : Option StorageEntry := do
  let fs ← d.fields? .json ["key", "value", "proof"] false
  let key ← fs.required? "key" Data.text?
  let value ← fs.required? "value" Data.text?
  let proof ← fs.withDefault? "proof" [] (Data.listOf? Data.text?)
  return { key, value, proof }

/-- The written form of a storage entry. -/
def StorageEntry.toData (e : StorageEntry) : Data :=
  .record
    [("key", .text e.key), ("value", .text e.value), ("proof", .list (e.proof.map .text))]

namespace AccountProof

/-- Reads a node's proof. Only the address has to be there, and other fields are passed over. -/
def ofData? (d : Data) : Option AccountProof := do
  let fs ← d.fields? .json ["address", "accountProof", "storageHash", "storageProof"] false
  let address ← fs.required? "address" (Data.fixed? .json 160)
  let accountProof ← fs.withDefault? "accountProof" [] (Data.listOf? Data.text?)
  let storageHash ← fs.withDefault? "storageHash" 0 (Data.fixed? .json 256)
  let storageProof ← fs.withDefault? "storageProof" [] (Data.listOf? StorageEntry.ofData?)
  return { address, accountProof, storageHash, storageProof }

/-- The written form of a node's proof. -/
def toData (p : AccountProof) : Data :=
  .record
    [("address", .ofFixed p.address), ("accountProof", .list (p.accountProof.map .text)),
     ("storageHash", .ofFixed p.storageHash),
     ("storageProof", .list (p.storageProof.map StorageEntry.toData))]

end AccountProof

end CrossCall
