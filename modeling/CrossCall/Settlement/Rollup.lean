import CrossCall.Settlement.Assertion
import CrossCall.Settlement.SlotProof

/-!
# The confirmed state of a rollup

The latest confirmed assertion is read from the rollup's contract on the base chain, its log is
looked for among recent blocks, and the header of the block it ends at is fetched from the rollup's
own node and checked against the hash in the assertion. The assertion is proven in the storage of
the contract.

## Main definitions

* `Rollup` — where a rollup keeps its assertions
* `Rollup.capture` — the latest confirmed assertion as of a block of the base chain
* `RollupError` — why it is not captured
-/

namespace CrossCall

/-- Why the state of a rollup is not captured. -/
inductive RollupError
  | noL1Block
  | latestConfirmed (cause : ClientError)
  | latestConfirmedAnswer (cause : Abi.Failure)
  | assertionLogs (cause : ClientError)
  | assertionNotFound (hash : Word) (fromBlock toBlock : BitVec 64)
  | assertionLog (cause : Abi.Failure)
  | machineStatus (number : BitVec 8)
  | l2Block (cause : ClientError)
  | l2BlockNotFound (hash : Word)
  | blockHashMismatch (expected actual : Word)
  | slotProof (cause : SlotProofError)
deriving DecidableEq

/-- The text of an error. -/
def RollupError.message : RollupError → String
  | noL1Block => "l1 block cannot be nil"
  | latestConfirmed cause => s!"reading latest confirmed assertion: {cause.message}"
  | latestConfirmedAnswer _ => "decoding latest confirmed assertion"
  | assertionLogs cause => s!"fetching assertion logs: {cause.message}"
  | assertionNotFound hash fromBlock toBlock =>
    s!"assertion {fixedHex hash} not found in L1 blocks {fromBlock.toNat}..={toBlock.toNat}"
  | assertionLog _ => "decoding AssertionCreated log"
  | machineStatus number => s!"invalid machine status: {number.toNat}"
  | l2Block cause => s!"failed to get L2 block: {cause.message}"
  | l2BlockNotFound hash => s!"L2 block not found: {fixedHex hash}"
  | blockHashMismatch expected actual =>
    s!"L2 header hash mismatch, want: {fixedHex expected}, got: {fixedHex actual}"
  | slotProof cause => cause.message

/-- Where a rollup keeps its assertions: the contract, the slot of the mapping, and how many blocks
back the log of an assertion is looked for. -/
structure Rollup where
  contract : Address
  assertionsSlot : Word
  lookback : BitVec 64
deriving DecidableEq

/-- The confirmed state of a rollup: the assertion, its proof, and the number of the block it ends
at. -/
structure RollupSnapshot where
  assertion : RollupAssertion
  proof : SlotProof
  l2Block : BitVec 64
deriving DecidableEq

namespace Rollup

variable {χ : Type}

/-- The selector of `latestConfirmed`. -/
def latestConfirmedSelector : BitVec 32 := 0x65f7f80d

/-- The first of the blocks in which the log of an assertion is looked for. -/
def firstBlock (r : Rollup) (l1Block : BitVec 64) : BitVec 64 :=
  BitVec.ofNat 64 (l1Block.toNat - r.lookback.toNat)

/-- The filter for the log of an assertion. -/
def assertionFilter (r : Rollup) (hash : Word) (l1Block : BitVec 64) : LogFilter :=
  { addresses := [r.contract]
    topics := [[AssertionCreated.event.signature], [hash], [], []]
    fromBlock := some (r.firstBlock l1Block)
    toBlock := some l1Block }

/-- The hash of the latest assertion that is confirmed at a block. -/
def latestConfirmed (r : Rollup) (l1 : χ) (l1Block : BitVec 64) :
    ExceptT RollupError (Session χ) Word := do
  let tx : TransactionRequest :=
    { target := some r.contract, data := some (Bytes.ofBitVec latestConfirmedSelector) }
  let answer ← Session.query l1 (.call tx (.number l1Block)) .latestConfirmed
  liftM ((Abi.decodeSingle (.word 256) answer).mapError RollupError.latestConfirmedAnswer)

/-- The last log of an assertion among recent blocks. -/
def assertionCreated (r : Rollup) (l1 : χ) (hash : Word) (l1Block : BitVec 64) :
    ExceptT RollupError (Session χ) AssertionCreated := do
  let logs ← Session.query l1 (.logs (r.assertionFilter hash l1Block)) .assertionLogs
  match logs.getLast? with
  | none => throw (.assertionNotFound hash (r.firstBlock l1Block) l1Block)
  | some log => liftM ((AssertionCreated.decodeLog log).mapError RollupError.assertionLog)

/-- The header of the block with a hash, which its writing has to have. -/
def headerOf (l2 : χ) (hash : Word) : ExceptT RollupError (Session χ) Header := do
  let answer ← Session.query l2 (.headerByHash hash) .l2Block
  match answer with
  | none => throw (.l2BlockNotFound hash)
  | some found =>
    if found.header.hash ≠ hash then throw (.blockHashMismatch hash found.header.hash)
    return found.header

/-- Captures the state that is confirmed at a block of the base chain. -/
def capture (r : Rollup) (l1 l2 : χ) (l1Block : BitVec 64) :
    ExceptT RollupError (Session χ) RollupSnapshot := do
  let hash ← r.latestConfirmed l1 l1Block
  let created ← r.assertionCreated l1 hash l1Block
  let afterState ← liftM ((AssertionState.ofValue created.after).mapError RollupError.machineStatus)
  let header ← headerOf l2 afterState.globalState.blockHash
  let proof ← (SlotProof.prove l1 r.contract (mappingSlot hash r.assertionsSlot)
    (.number l1Block)).adapt RollupError.slotProof
  Session.report .info "filler::prover" "Captured confirmed assertion"
  return {
    assertion := {
      encodedHeader := header.encode, afterState, prevAssertionHash := created.parent,
      sequencerBatchAcc := created.inboxAccumulator }
    proof, l2Block := header.number }

/-- Captures the state that is confirmed at a block that may not be known. -/
def captureAt (r : Rollup) (l1 l2 : χ) (l1Block : Option (BitVec 64)) :
    ExceptT RollupError (Session χ) RollupSnapshot :=
  match l1Block with
  | none => throw .noL1Block
  | some l1Block => r.capture l1 l2 l1Block

end Rollup

end CrossCall
