import CrossCall.Abi.Event
import CrossCall.Message.Payload

/-!
# Posted messages

An outbox reports a requested message as a log. Chains and accounts are words there, of which only
the low bits count.

## Main definitions

* `PostedMessage` — a message as an outbox reports it
* `PostedMessage.decodeLog`, `PostedMessage.encodeLog` — its log
-/

namespace CrossCall

/-- A message as an outbox reports it. -/
structure PostedMessage where
  id : Word := 0
  sourceChain : Word := 0
  sender : Word := 0
  destinationChain : Word := 0
  receiver : Word := 0
  payload : Bytes := []
  attributes : List Bytes := []
deriving DecidableEq

namespace PostedMessage

/-- The event that reports a message: the id is a topic, all else is data. -/
abbrev event : Abi.Event where
  signature := 0x8c3e2b6a5f9f3998732307b6e6be96b5c909d7801671bffa843457af80ccc21f
  indexed := 1
  fields := [.word 256, .word 256, .word 256, .word 256, .bytes, attributeListTy]

/-- The number of the source chain. -/
def sourceId (m : PostedMessage) : ChainId := m.sourceChain.toChainId

/-- The number of the destination chain. -/
def destinationId (m : PostedMessage) : ChainId := m.destinationChain.toChainId

/-- The address of the sender. -/
def senderAddress (m : PostedMessage) : Address := m.sender.toAddress

/-- The address of the receiver. -/
def receiverAddress (m : PostedMessage) : Address := m.receiver.toAddress

/-- The topics and data of the log that reports a message. -/
def encodeLog (m : PostedMessage) : List Word × Bytes :=
  event.encode [m.id]
    (m.sourceChain, m.sender, m.destinationChain, m.receiver, m.payload, m.attributes, ())

/-- The message with the given contents of its log. -/
def ofContents (indexed : List Word) : Abi.Ty.Values event.fields → PostedMessage
  | (sourceChain, sender, destinationChain, receiver, payload, attributes, ()) =>
    { id := indexed.headD 0, sourceChain, sender, destinationChain, receiver, payload, attributes }

/-- The message that a log reports. -/
def decodeLog (log : Log) : Except DecodeError PostedMessage :=
  match event.decode log.topics log.data with
  | .ok (indexed, vs) => .ok (ofContents indexed vs)
  | .error e => .error (.messagePosted e)

end PostedMessage

end CrossCall
