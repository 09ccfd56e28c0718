import CrossCall.Abi.Encoder
import CrossCall.Data.Basic
import CrossCall.Node.Session

/-!
# Proofs of storage slots

A node proves the value of a storage slot by the trie nodes on the way from the state root to the
account and from there to the slot. It writes them as hexadecimal texts, with leading zeros left out
at times.

## Main definitions

* `mappingSlot` — where a mapping keeps the value of a key
* `SlotProof` — a proven slot
* `SlotProof.prove` — asks a node for the proof of a slot
* `SlotProofError` — why there is none
-/

namespace CrossCall

/-- The slot at which the mapping at `slot` keeps the value of `key`. -/
def mappingSlot (key slot : Word) : Word := keccak256 (Bytes.ofBitVec key ++ Bytes.ofBitVec slot)

/-- Why a slot is not proven. -/
inductive SlotProofError
  | request (cause : ClientError)
  | noStorageProof
  | accountNode (index : Nat) (cause : HexError)
  | storageNode (index : Nat) (cause : HexError)
  | storageValue
deriving DecidableEq

/-- The text of an error. -/
def SlotProofError.message : SlotProofError → String
  | request cause => s!"failed to get proof from RPC: {cause.message}"
  | noStorageProof => "no storage proof returned"
  | accountNode index cause =>
    s!"failed to decode account proof item {index}: {cause.message}"
  | storageNode index cause =>
    s!"failed to decode storage proof item {index}: {cause.message}"
  | storageValue => "failed to decode storage value"

/-- A proven slot: its value and the trie nodes that prove the account and the value. -/
structure SlotProof where
  slot : Word
  value : Word
  accountNodes : List Bytes
  storageNodes : List Bytes
deriving DecidableEq

namespace SlotProof

/-- Reads trie nodes; the first that cannot be read is reported with its number. -/
def decodeNodes (onError : Nat → HexError → SlotProofError) (index : Nat) :
    List String → Except SlotProofError (List Bytes)
  | [] => .ok []
  | s :: rest => do
    let node ← (Hex.decodePadded s).mapError (onError index)
    let nodes ← decodeNodes onError (index + 1) rest
    return node :: nodes

/-- Reads a value of at most 32 bytes. -/
def decodeValue (s : String) : Except SlotProofError Word :=
  match Hex.decodePadded s with
  | .ok bs => if bs.length ≤ 32 then .ok (Bytes.toBitVec 256 bs) else .error .storageValue
  | .error _ => .error .storageValue

/-- Reads a node's answer about a slot, of which the first storage entry counts. -/
def ofAnswer (slot : Word) (account : List String) (entry : StorageEntry) :
    Except SlotProofError SlotProof := do
  let accountNodes ← decodeNodes .accountNode 0 account
  let storageNodes ← decodeNodes .storageNode 0 entry.proof
  let value ← decodeValue entry.value
  return { slot, value, accountNodes, storageNodes }

/-- Asks a node for the proof of a slot of a contract. -/
def prove {χ : Type} (node : χ) (contract : Address) (slot : Word) (block : BlockTag) :
    ExceptT SlotProofError (Session χ) SlotProof := do
  Session.report .info "filler::prover" "Getting storage proof"
  let answer ← Session.query node (.proof contract [slot] block) .request
  match answer.storageProof with
  | [] => throw .noStorageProof
  | entry :: _ => do
    Session.report .debug "filler::prover" "Raw proof data"
    let proof ← liftM (ofAnswer slot answer.accountProof entry)
    Session.report .info "filler::prover" "Storage proof"
    return proof

/-- The writing of the nodes that prove the account. -/
def accountRlp (p : SlotProof) : Bytes := Rlp.encodeStrings p.accountNodes

/-- The writing of the nodes that prove the value. -/
def storageRlp (p : SlotProof) : Bytes := Rlp.encodeStrings p.storageNodes

/-- The type of a proven slot in contract data. -/
abbrev ty : Abi.Ty := .tuple [.bytes, .bytes, .bytes, .bytes]

/-- A proven slot as contract data. -/
def toValue (p : SlotProof) : ty.Value :=
  (Bytes.ofBitVec p.slot, Bytes.ofBitVec p.value, p.accountRlp, p.storageRlp, ())

/-- The written form of a proven slot. -/
def toData (p : SlotProof) : Data :=
  .record
    [("storageKey", .ofFixed p.slot), ("storageValue", .ofFixed p.value),
     ("accountProof", .list (p.accountNodes.map .ofBytes)),
     ("storageProof", .list (p.storageNodes.map .ofBytes))]

/-- Reads a proven slot. -/
def ofData? (d : Data) : Option SlotProof := do
  let fs ← d.fields? .json ["storageKey", "storageValue", "accountProof", "storageProof"] false
  let slot ← fs.required? "storageKey" (Data.fixed? .json 256)
  let value ← fs.required? "storageValue" (Data.fixed? .json 256)
  let accountNodes ← fs.required? "accountProof" (Data.listOf? Data.bytes?)
  let storageNodes ← fs.required? "storageProof" (Data.listOf? Data.bytes?)
  return { slot, value, accountNodes, storageNodes }

end SlotProof

end CrossCall
