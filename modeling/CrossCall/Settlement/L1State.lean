import CrossCall.Abi.Encoder
import CrossCall.Data.Basic
import CrossCall.Node.Session

/-!
# The state of the base chain

The state root of a block of the base chain is anchored in the root of a beacon block. A development
network has no beacon chain, and the hash of the state root stands in for the beacon root.

## Main definitions

* `L1StateProof` — a state root with its anchor
* `L1Snapshot.capture` — asks the node of the base chain for a block and its proof
* `L1StateError` — why there is none
-/

namespace CrossCall

/-- A state root of the base chain with its anchor. -/
structure L1StateProof where
  beaconRoot : Word
  beaconTimestamp : BitVec 64
  executionStateRoot : Word
  stateRootProof : List Word
deriving DecidableEq

/-- Why the state is not captured. -/
inductive L1StateError
  | noBeaconChain
  | request (cause : ClientError)
  | blockNotFound (block : BlockTag)
deriving DecidableEq

/-- The text of an error. -/
def L1StateError.message : L1StateError → String
  | noBeaconChain => "production beacon chain proof generation not implemented"
  | request cause => s!"failed to get L1 block: {cause.message}"
  | blockNotFound block => s!"L1 block not found: {block.text}"

namespace L1StateProof

/-- The proof that stands in for a beacon chain. -/
def ofHeader (h : Header) : L1StateProof :=
  { beaconRoot := keccak256 (Bytes.ofBitVec h.stateRoot), beaconTimestamp := h.timestamp,
    executionStateRoot := h.stateRoot, stateRootProof := [0] }

/-- The type of a state proof in contract data. -/
abbrev ty : Abi.Ty := .tuple [.word 256, .word 256, .word 256, .array (.word 256)]

/-- A state proof as contract data. -/
def toValue (p : L1StateProof) : ty.Value :=
  (p.beaconRoot, p.beaconTimestamp.setWidth 256, p.executionStateRoot, p.stateRootProof, ())

/-- The written form of a state proof. -/
def toData (p : L1StateProof) : Data :=
  .record
    [("beaconRoot", .ofFixed p.beaconRoot), ("beaconTimestamp", .ofBits p.beaconTimestamp),
     ("executionStateRoot", .ofFixed p.executionStateRoot),
     ("stateRootProof", .list (p.stateRootProof.map .ofFixed))]

/-- Reads a state proof. -/
def ofData? (d : Data) : Option L1StateProof := do
  let names := ["beaconRoot", "beaconTimestamp", "executionStateRoot", "stateRootProof"]
  let fs ← d.fields? .json names false
  let beaconRoot ← fs.required? "beaconRoot" (Data.fixed? .json 256)
  let beaconTimestamp ← fs.required? "beaconTimestamp" (Data.bits? 64)
  let executionStateRoot ← fs.required? "executionStateRoot" (Data.fixed? .json 256)
  let stateRootProof ← fs.required? "stateRootProof" (Data.listOf? (Data.fixed? .json 256))
  return { beaconRoot, beaconTimestamp, executionStateRoot, stateRootProof }

end L1StateProof

/-- A state proof with the header it was taken from. -/
structure L1Snapshot where
  proof : L1StateProof
  source : SealedHeader
deriving DecidableEq

/-- Captures the state of a block. Outside of development networks there is no proof to be had. -/
def L1Snapshot.capture {χ : Type} (node : χ) (devnet : Bool) (block : BlockTag) :
    ExceptT L1StateError (Session χ) L1Snapshot := do
  if !devnet then throw .noBeaconChain
  let answer ← Session.query node (.headerByNumber block) .request
  match answer with
  | none => throw (.blockNotFound block)
  | some source => do
    Session.report .info "filler::prover" "Generated L1 state proof for devnet"
    return { proof := .ofHeader source.header, source }

end CrossCall
