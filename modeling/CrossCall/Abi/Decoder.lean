import CrossCall.Abi.Basic

/-!
# Reading contract data

The reader follows every offset that does not point beyond the end of the data, wherever it leads,
and looks neither at padding nor at what follows the last value. Offsets count from the start of the
row they stand in, and for the entries of an array from the word after its length.

## Main definitions

* `Abi.Failure` — why data is refused
* `Abi.decodeAt` — reads the value whose head stands at a position
* `Abi.decodeRow`, `Abi.decodeSingle` — read a row of values, or one value as a row of one
-/

namespace CrossCall.Abi

/-- Why contract data is refused. -/
inductive Failure
  /-- The data ends before the value does. -/
  | overrun
  /-- An offset or a length that does not fit 64 bits. -/
  | oversized (w : Word)
  /-- An event with a wrong number of topics. -/
  | topicCount
  /-- A log of another event. -/
  | otherEvent (topic : Word)
deriving DecidableEq

/-- The word at a position. -/
def wordAt (data : Bytes) (position : Nat) : Except Failure Word :=
  match data.slice? position 32 with
  | some bs => .ok (Bytes.toBitVec 256 bs)
  | none => .error .overrun

/-- The offset or length at a position. -/
def sizeAt (data : Bytes) (position : Nat) : Except Failure Nat := do
  let w ← wordAt data position
  if (w.setWidth 64).toNat = w.toNat then return w.toNat else throw (.oversized w)

/-- The data from the place that the offset at a position points to. -/
def follow (data : Bytes) (position : Nat) : Except Failure Bytes := do
  let offset ← sizeAt data position
  if offset ≤ data.length then return data.drop offset else throw .overrun

/-- Reads `count` entries, `step` bytes apart. -/
def readMany {α : Type} (read : Nat → Except Failure α) (step : Nat) :
    (count position : Nat) → Except Failure (List α)
  | 0, _ => .ok []
  | count + 1, position => do
    let a ← read position
    let rest ← readMany read step count (position + step)
    return a :: rest

/-- The byte string whose length stands first in `data`. -/
def readBytes (data : Bytes) : Except Failure Bytes := do
  let length ← sizeAt data 0
  match data.slice? 32 length with
  | some bs => return bs
  | none => throw .overrun

mutual

/-- The value whose head stands at a position of a row. -/
def decodeAt : (t : Ty) → (row : Bytes) → (position : Nat) → Except Failure t.Value
  | .word bits, row, position => do
    let w ← wordAt row position
    return w.setWidth bits
  | .bytes, row, position => do
    readBytes (← follow row position)
  | .array t, row, position => do
    let contents ← follow row position
    let count ← sizeAt contents 0
    let entries := contents.drop 32
    if count * t.headWords ≤ entries.length / 32 then
      readMany (decodeAt t entries) (32 * t.headWords) count 0
    else throw .overrun
  | .tuple ts, row, position =>
    if Ty.anyDynamic ts then do
      decodeFields ts (← follow row position) 0
    else decodeFields ts row position

/-- The values whose heads stand one after the other from a position of a row. -/
def decodeFields : (ts : List Ty) → (row : Bytes) → (position : Nat) → Except Failure (Ty.Values ts)
  | [], _, _ => .ok ()
  | t :: ts, row, position => do
    let v ← decodeAt t row position
    let vs ← decodeFields ts row (position + 32 * t.headWords)
    return (v, vs)

end

/-- A row of values. -/
def decodeRow (ts : List Ty) (data : Bytes) : Except Failure (Ty.Values ts) :=
  decodeFields ts data 0

/-- One value as a row of one. -/
def decodeSingle (t : Ty) (data : Bytes) : Except Failure t.Value := decodeAt t data 0

end CrossCall.Abi
