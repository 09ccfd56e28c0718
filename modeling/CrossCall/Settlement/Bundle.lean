import CrossCall.Json.Reader
import CrossCall.Settlement.L1State
import CrossCall.Settlement.Rollup

/-!
# Proof bundles

A bundle proves to the source chain that a message was fulfilled: the state of the base chain, the
rollup's assertion in it, and the inbox's record in the state of the rollup.

## Main definitions

* `ProofBundle` — the parts of the proof
* `ProofBundle.encode` — its contract data
* `ProofBundle.toData`, `ProofBundle.ofData?`, `ProofBundle.ofText?` — its written form
* `ProofBundle.compose` — collects the parts from the nodes
* `CompositionError` — the part that failed
-/

namespace CrossCall

/-- The parts of the proof that a message was fulfilled. -/
structure ProofBundle where
  l1State : L1StateProof
  assertion : RollupAssertion
  assertionProof : SlotProof
  inboxProof : SlotProof
deriving DecidableEq

/-- Which part of a proof failed. -/
inductive CompositionError
  | l1State (cause : L1StateError)
  | rollupState (cause : RollupError)
  | inboxStorage (cause : SlotProofError)
  | cancelled
deriving DecidableEq

/-- The text of an error. -/
def CompositionError.message : CompositionError → String
  | l1State cause => s!"failed to generate L1 state proof: {cause.message}"
  | rollupState cause => s!"failed to generate arbitrum state proof: {cause.message}"
  | inboxStorage cause => s!"failed to generate inbox storage proof: {cause.message}"
  | cancelled => "proof composition cancelled"

/-- The slot at which an inbox keeps the mapping of its records. -/
def fulfillmentInfoSlot : Word := 0x40f2eef6aad3cb0e74d3b59b45d3d5f2d5fc8dc382e739617b693cdd4bc30c00

namespace ProofBundle

/-- The type of a bundle in contract data. -/
abbrev ty : Abi.Ty :=
  .tuple
    [.bytes, AssertionState.ty, .word 256, .word 256, L1StateProof.ty, SlotProof.ty, SlotProof.ty]

/-- A bundle as contract data. -/
def toValue (b : ProofBundle) : ty.Value :=
  (b.assertion.encodedHeader, b.assertion.afterState.toValue, b.assertion.prevAssertionHash,
    b.assertion.sequencerBatchAcc, b.l1State.toValue, b.assertionProof.toValue,
    b.inboxProof.toValue, ())

/-- The contract data of a bundle. -/
def encode (b : ProofBundle) : Bytes := Abi.encodeSingle ty b.toValue

/-- The written form of a bundle. -/
def toData (b : ProofBundle) : Data :=
  .record
    [("l1StateProof", b.l1State.toData), ("destRollupAssertion", b.assertion.toData),
     ("destL2StateRootProof", b.assertionProof.toData),
     ("destL2AccountProof", b.inboxProof.toData)]

/-- Reads a bundle. -/
def ofData? (d : Data) : Option ProofBundle := do
  let fs ← d.fields? .json
    ["l1StateProof", "destRollupAssertion", "destL2StateRootProof", "destL2AccountProof"] false
  let l1State ← fs.required? "l1StateProof" L1StateProof.ofData?
  let assertion ← fs.required? "destRollupAssertion" RollupAssertion.ofData?
  let assertionProof ← fs.required? "destL2StateRootProof" SlotProof.ofData?
  let inboxProof ← fs.required? "destL2AccountProof" SlotProof.ofData?
  return { l1State, assertion, assertionProof, inboxProof }

/-- Reads the text of a bundle. -/
def ofText? (s : String) : Option ProofBundle := do
  let d ← Json.parse? s
  ofData? d

/-- Stops a composition that has been cancelled. -/
def ensureActive {χ : Type} : ExceptT CompositionError (Session χ) Unit := do
  if ← Session.checkCancelled then throw .cancelled

/-- Collects the parts: the state of the base chain at `block`, what the rollup had confirmed there,
and the record of the message at the block of the rollup that the assertion ends at. -/
def compose {χ : Type} (l1 l2 : χ) (devnet : Bool) (rollup : Rollup) (inbox : Address)
    (messageId : Word) (block : BlockTag) : ExceptT CompositionError (Session χ) ProofBundle := do
  let l1State ← (L1Snapshot.capture l1 devnet block).adapt CompositionError.l1State
  ensureActive
  let snapshot ←
    (rollup.capture l1 l2 l1State.source.header.number).adapt CompositionError.rollupState
  ensureActive
  let inboxProof ←
    (SlotProof.prove l2 inbox (mappingSlot messageId fulfillmentInfoSlot)
      (.number snapshot.l2Block)).adapt CompositionError.inboxStorage
  Session.report .info "filler::prover" "Composed proof bundle"
  return {
    l1State := l1State.proof, assertion := snapshot.assertion, assertionProof := snapshot.proof,
    inboxProof }

end ProofBundle

end CrossCall
