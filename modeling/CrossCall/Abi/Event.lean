import CrossCall.Abi.Encoder
import CrossCall.Abi.Decoder

/-!
# Logs and events

A contract reports what happened as a log: topics, of which the first names the event, and data. The
indexed parameters of an event stand in its topics and the others in its data.

## Main definitions

* `Log` — a log with the address that emitted it
* `Abi.Event` — the layout of an event
* `Abi.Event.encode`, `Abi.Event.decode` — its logs
-/

namespace CrossCall

/-- A log entry of a chain. -/
structure Log where
  address : Address
  topics : List Word
  data : Bytes
  blockNumber : Option (BitVec 64)
deriving DecidableEq

namespace Abi

/-- An event: the first topic, the number of indexed words, and the types in the data. -/
structure Event where
  signature : Word
  indexed : Nat
  fields : List Ty

/-- The topics and data of an event. -/
def Event.encode (e : Event) (indexed : List Word) (vs : Ty.Values e.fields) : List Word × Bytes :=
  (e.signature :: indexed, encodeRow e.fields vs)

/-- The indexed words and the values of an event. The number of topics is looked at first, then the
signature, then the data. -/
def Event.decode (e : Event) (topics : List Word) (data : Bytes) :
    Except Failure (List Word × Ty.Values e.fields) :=
  match topics with
  | [] => .error .topicCount
  | signature :: indexed =>
    if indexed.length ≠ e.indexed then .error .topicCount
    else if signature ≠ e.signature then .error (.otherEvent signature)
    else do
      let vs ← decodeRow e.fields data
      return (indexed, vs)

end Abi

end CrossCall
