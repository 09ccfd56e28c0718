import CrossCall.Message.Posted
import CrossCall.Settlement.Bundle

/-!
# Claiming a reward

## Main definitions

* `FulfillmentRecord.read` — asks the inbox of a destination whether a message was fulfilled
* `findPostedMessage` — looks for the log of a message on its source chain
* `claimData` — the call that claims the reward of a message
-/

namespace CrossCall

/-- Why there is no record of a fulfillment. -/
inductive InboxError
  | call (cause : ClientError)
  | decode (cause : Abi.Failure)
  | notFulfilled (messageId : Word)
deriving DecidableEq

/-- The text of an error. -/
def InboxError.message : InboxError → String
  | call cause => s!"reading fulfillment info: {cause.message}"
  | decode _ => "decoding fulfillment info"
  | notFulfilled messageId => s!"message {fixedHex messageId} has not been fulfilled"

/-- An inbox's record of a fulfillment. -/
structure FulfillmentRecord where
  timestamp : BitVec 96
  filler : Address
deriving DecidableEq

namespace FulfillmentRecord

/-- The selector of `getFulfillmentInfo`. -/
def selector : BitVec 32 := 0x67142b21

/-- The type of a record in contract data. -/
abbrev ty : Abi.Ty := .tuple [.word 96, .word 160]

/-- Asks an inbox for the record of a message. A record without a filler is none. -/
def read {χ : Type} (node : χ) (inbox : Address) (messageId : Word) (block : BlockTag) :
    ExceptT InboxError (Session χ) FulfillmentRecord := do
  let tx : TransactionRequest :=
    { target := some inbox, data := some (Abi.encodeCall selector [.word 256] (messageId, ())) }
  let answer ← Session.query node (.call tx block) .call
  let (timestamp, filler, ()) ← liftM ((Abi.decodeSingle ty answer).mapError InboxError.decode)
  if filler = 0 then throw (.notFulfilled messageId)
  Session.report .info "filler::prover" "Fulfillment found"
  return { timestamp, filler }

end FulfillmentRecord

/-- Why a posted message is not found. -/
inductive ClaimError
  | logs (cause : ClientError)
  | messageNotFound (messageId : Word)
  | decode (cause : DecodeError)
deriving DecidableEq

/-- The text of an error. -/
def ClaimError.message : ClaimError → String
  | logs cause => s!"fetching posted message logs: {cause.message}"
  | messageNotFound messageId => s!"message {fixedHex messageId} not found on the source chain"
  | decode cause => cause.message

/-- Inserts into an ascending list, once. -/
def insertAscending (a : Address) : List Address → List Address
  | [] => [a]
  | b :: rest =>
    if a < b then a :: b :: rest else if a = b then b :: rest else b :: insertAscending a rest

/-- The addresses of a list, ascending and each once. -/
def ascending (addresses : List Address) : List Address :=
  addresses.foldl (fun sorted a => insertAscending a sorted) []

/-- The filter for the log of a message. -/
def postedMessageFilter (outboxes : List Address) (messageId : Word) (fromBlock : BitVec 64) :
    LogFilter :=
  { addresses := ascending outboxes
    topics := [[PostedMessage.event.signature], [messageId], [], []]
    fromBlock := some fromBlock }

/-- Looks for the first log of a message. -/
def findPostedMessage {χ : Type} (node : χ) (outboxes : List Address) (messageId : Word)
    (fromBlock : BitVec 64) : ExceptT ClaimError (Session χ) PostedMessage := do
  let logs ← Session.query node (.logs (postedMessageFilter outboxes messageId fromBlock)) .logs
  match logs.head? with
  | none => throw (.messageNotFound messageId)
  | some log => do
    let message ← liftM ((PostedMessage.decodeLog log).mapError ClaimError.decode)
    Session.report .info "filler::prover" "Found posted message"
    return message

/-- The selector of `claimReward`. -/
def claimSelector : BitVec 32 := 0x2673fa9c

/-- The arguments of `claimReward`: destination, receiver, payload, attributes, proof, payee. -/
abbrev claimTy : List Abi.Ty :=
  [.word 256, .word 256, .bytes, attributeListTy, .bytes, .word 160]

/-- The call that claims the reward of a message. -/
def claimData (m : PostedMessage) (bundle : ProofBundle) (payTo : Address) : Bytes :=
  Abi.encodeCall claimSelector claimTy
    (m.destinationChain, m.receiver, m.payload, m.attributes, bundle.encode, payTo, ())

end CrossCall
