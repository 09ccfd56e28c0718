import CrossCall.Abi.Event
import CrossCall.Data.Basic

/-!
# Assertions of a rollup

A rollup asserts on its base chain which state its machine has reached. The assertion names the last
block of the rollup by its hash.

## Main definitions

* `MachineStatus`, `GlobalState`, `AssertionState` — the state that an assertion ends at
* `AssertionCreated` — the log that reports an assertion
* `RollupAssertion` — an assertion with the header of the block it ends at
-/

namespace CrossCall

/-- Whether the machine of a rollup still runs. -/
inductive MachineStatus
  | running
  | finished
  | errored
deriving DecidableEq

namespace MachineStatus

/-- The number of a status in contract data. -/
def number : MachineStatus → BitVec 8
  | running => 0
  | finished => 1
  | errored => 2

/-- The status with a number. -/
def ofNumber? (n : BitVec 8) : Option MachineStatus :=
  if n = 0 then some running else if n = 1 then some finished else if n = 2 then some errored
  else none

/-- The words for the statuses. -/
def words : List (String × MachineStatus) :=
  [("running", running), ("finished", finished), ("errored", errored)]

/-- The word for a status. -/
def name : MachineStatus → String
  | running => "running"
  | finished => "finished"
  | errored => "errored"

@[simp] theorem ofNumber?_number (s : MachineStatus) : ofNumber? s.number = some s := by
  cases s <;> decide

end MachineStatus

/-- What a rollup has processed: its last block, what it has sent, and how far it has read. -/
structure GlobalState where
  blockHash : Word := 0
  sendRoot : Word := 0
  inboxPosition : BitVec 64 := 0
  messagePosition : BitVec 64 := 0
deriving DecidableEq

/-- The state that an assertion ends at. -/
structure AssertionState where
  globalState : GlobalState
  machineStatus : MachineStatus
  endHistoryRoot : Word
deriving DecidableEq

namespace AssertionState

/-- The type of an assertion's state in contract data. -/
abbrev ty : Abi.Ty :=
  .tuple [.tuple [.tuple [.word 256, .word 256], .tuple [.word 64, .word 64]], .word 8, .word 256]

/-- An assertion's state as contract data. -/
def toValue (s : AssertionState) : ty.Value :=
  (((s.globalState.blockHash, s.globalState.sendRoot, ()),
    (s.globalState.inboxPosition, s.globalState.messagePosition, ()), ()),
    s.machineStatus.number, s.endHistoryRoot, ())

/-- The assertion's state in contract data, or the number that is no status. -/
def ofValue : ty.Value → Except (BitVec 8) AssertionState
  | (((blockHash, sendRoot, ()), (inboxPosition, messagePosition, ()), ()), status, endHistoryRoot,
      ()) =>
    match MachineStatus.ofNumber? status with
    | none => .error status
    | some machineStatus =>
      .ok
        { globalState := { blockHash, sendRoot, inboxPosition, messagePosition }
          machineStatus, endHistoryRoot }

theorem ofValue_toValue (s : AssertionState) : ofValue s.toValue = .ok s := by
  simp [toValue, ofValue]

/-- The written form of an assertion's state. -/
def toData (s : AssertionState) : Data :=
  .record
    [("globalState", .record
        [("bytes32Vals", .list [.ofFixed s.globalState.blockHash, .ofFixed s.globalState.sendRoot]),
         ("u64Vals",
           .list [.ofBits s.globalState.inboxPosition, .ofBits s.globalState.messagePosition])]),
     ("machineStatus", .text s.machineStatus.name), ("endHistoryRoot", .ofFixed s.endHistoryRoot)]

/-- Reads a global state. -/
def globalState? (d : Data) : Option GlobalState := do
  let fs ← d.fields? .json ["bytes32Vals", "u64Vals"] false
  let (blockHash, sendRoot) ← fs.required? "bytes32Vals" (Data.pairOf? (Data.fixed? .json 256))
  let (inboxPosition, messagePosition) ← fs.required? "u64Vals" (Data.pairOf? (Data.bits? 64))
  return { blockHash, sendRoot, inboxPosition, messagePosition }

/-- Reads an assertion's state. -/
def ofData? (d : Data) : Option AssertionState := do
  let fs ← d.fields? .json ["globalState", "machineStatus", "endHistoryRoot"] false
  let globalState ← fs.required? "globalState" globalState?
  let machineStatus ← fs.required? "machineStatus" (Data.word? .json MachineStatus.words)
  let endHistoryRoot ← fs.required? "endHistoryRoot" (Data.fixed? .json 256)
  return { globalState, machineStatus, endHistoryRoot }

end AssertionState

/-- What the log of an assertion says that is of use: its parent, the state it ends at, and what the
sequencer had delivered. -/
structure AssertionCreated where
  parent : Word
  after : AssertionState.ty.Value
  inboxAccumulator : Word

namespace AssertionCreated

/-- The type of an assertion with the states before and after it. -/
abbrev inputsTy : Abi.Ty :=
  .tuple
    [.tuple
      [.word 256, .word 256,
       .tuple [.word 256, .word 256, .word 160, .word 64, .word 64]],
     AssertionState.ty, AssertionState.ty]

/-- The event that reports an assertion: its hash and its parent's are topics. -/
abbrev event : Abi.Event where
  signature := 0x901c3aee23cf4478825462caaab375c606ab83516060388344f0650340753630
  indexed := 2
  fields := [inputsTy, .word 256, .word 256, .word 256, .word 256, .word 160, .word 64]

/-- Reads the log of an assertion. -/
def decodeLog (log : Log) : Except Abi.Failure AssertionCreated :=
  match event.decode log.topics log.data with
  | .error e => .error e
  | .ok (indexed, (_, _, after, ()), inboxAccumulator, _) =>
    .ok { parent := indexed.getD 1 0, after, inboxAccumulator }

end AssertionCreated

/-- An assertion with the writing of the header of the block it ends at. -/
structure RollupAssertion where
  encodedHeader : Bytes
  afterState : AssertionState
  prevAssertionHash : Word
  sequencerBatchAcc : Word
deriving DecidableEq

namespace RollupAssertion

/-- The written form of an assertion. -/
def toData (a : RollupAssertion) : Data :=
  .record
    [("encodedBlockArray", .ofBytes a.encodedHeader), ("afterState", a.afterState.toData),
     ("prevAssertionHash", .ofFixed a.prevAssertionHash),
     ("sequencerBatchAcc", .ofFixed a.sequencerBatchAcc)]

/-- Reads an assertion. -/
def ofData? (d : Data) : Option RollupAssertion := do
  let fs ← d.fields? .json
    ["encodedBlockArray", "afterState", "prevAssertionHash", "sequencerBatchAcc"] false
  let encodedHeader ← fs.required? "encodedBlockArray" Data.bytes?
  let afterState ← fs.required? "afterState" AssertionState.ofData?
  let prevAssertionHash ← fs.required? "prevAssertionHash" (Data.fixed? .json 256)
  let sequencerBatchAcc ← fs.required? "sequencerBatchAcc" (Data.fixed? .json 256)
  return { encodedHeader, afterState, prevAssertionHash, sequencerBatchAcc }

end RollupAssertion

end CrossCall
