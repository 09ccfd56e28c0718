import CrossCall.Fulfillment.Error

/-!
# The call that fulfills a message

Calls are handed to the inbox of the destination with the value they need; a user operation is
handed to the entrypoint as a batch of one that pays the relayer.

## Main definitions

* `FulfillmentCall` — a call by the relayer
* `FulfillmentCall.ofMessage` — the call that fulfills an accepted message
-/

namespace CrossCall

/-- A call by the relayer. -/
structure FulfillmentCall where
  sender : Address
  target : Address
  data : Bytes
  value : Word
deriving DecidableEq

namespace FulfillmentCall

/-- The call as a request for an estimate. -/
def toRequest (c : FulfillmentCall) : TransactionRequest :=
  { sender := some c.sender, target := some c.target, value := some c.value, data := some c.data }

/-- The arguments of the inbox's `fulfill`: source chain, sender, payload, attributes, relayer. -/
abbrev fulfillTy : List Abi.Ty := [.word 256, .word 256, .bytes, attributeListTy, .word 160]

/-- The selector of `fulfill`. -/
def fulfillSelector : BitVec 32 := 0xabdfebbe

/-- The arguments of the entrypoint's `handleOps`: user operations and the beneficiary. -/
abbrev handleOpsTy : List Abi.Ty := [.array UserOperation.ty, .word 160]

/-- The selector of `handleOps`. -/
def handleOpsSelector : BitVec 32 := 0x765e827f

/-- The data of a call of `fulfill`. -/
def fulfillData (m : PostedMessage) (relayer : Address) : Bytes :=
  Abi.encodeCall fulfillSelector fulfillTy
    (m.sourceChain, m.sender, m.payload, m.attributes, relayer, ())

/-- The data of a call of `handleOps`. -/
def handleOpsData (op : UserOperation) (relayer : Address) : Bytes :=
  Abi.encodeCall handleOpsSelector handleOpsTy ([op.toValue], relayer, ())

/-- The call that fulfills an accepted message. -/
def ofMessage (m : ValidMessage) (destination : Endpoint) (relayer : Address) :
    Except DecodeError FulfillmentCall :=
  match m.body with
  | .direct => do
    let calls ← decodeCalls m.message.payload
    let value ← totalCallValue calls
    return { sender := relayer, target := destination.inbox, data := fulfillData m.message relayer,
             value }
  | .userOperation op =>
    return { sender := relayer, target := destination.entrypoint, data := handleOpsData op relayer,
             value := 0 }

end FulfillmentCall

end CrossCall
