import CrossCall.Chain.Registry
import CrossCall.Message.Posted

/-!
# Which messages are fulfilled

A message is accepted if it was posted on the chain that it names as its source, its destination is
registered, and its receiver and its oracle are those configured for the destination. The receiver
of calls is the inbox and that of a user operation the entrypoint.

## Main definitions

* `Body` — what a message asks for; `Body.read` also gives its attributes
* `ValidMessage` — an accepted message
* `validate` — accepts a message or says why not
-/

namespace CrossCall

/-- What a message asks for. The calls of a direct message stay in the payload. -/
inductive Body
  | direct
  | userOperation (op : UserOperation)
deriving DecidableEq

/-- The two shapes of messages. -/
inductive Shape
  | direct
  | userOperation
deriving DecidableEq

/-- The words for a shape in error messages. -/
def Shape.name : Shape → String
  | direct => "EOA call"
  | userOperation => "account abstraction"

namespace Body

/-- The shape of a message. -/
def shape : Body → Shape
  | direct => .direct
  | userOperation _ => .userOperation

/-- The body and the attributes of a message. A message that lists no attributes carries a user
operation, with the attributes behind its paymaster header. -/
def read (m : PostedMessage) : Except DecodeError (Body × Attributes) :=
  if m.attributes = [] then do
    let op ← UserOperation.decode m.payload
    let blobs ← op.attributes
    let attributes ← Attributes.decode blobs
    return (userOperation op, attributes)
  else do
    let attributes ← Attributes.decode m.attributes
    return (direct, attributes)

end Body

/-- The contract of a destination that takes messages of a shape. -/
def Endpoint.receiver (e : Endpoint) : Shape → Address
  | .direct => e.inbox
  | .userOperation => e.entrypoint

/-- Why a message is not accepted. -/
inductive ValidationError
  | decode (cause : DecodeError)
  | sourceChainMismatch (expected actual : ChainId)
  | destinationNotConfigured (chain : ChainId)
  | receiverMismatch (shape : Shape) (expected actual : Address)
  | l2OracleMismatch (shape : Shape) (expected actual : Address)
deriving DecidableEq

/-- The text of an error. -/
def ValidationError.message : ValidationError → String
  | decode cause => cause.message
  | sourceChainMismatch expected actual =>
    s!"source chain mismatch, want: {expected.toNat}, got: {actual.toNat}"
  | destinationNotConfigured chain => s!"destination chain is not configured: {chain.toNat}"
  | receiverMismatch shape expected actual =>
    s!"{shape.name} receiver address mismatch, want: {Address.checksummed expected}, " ++
      s!"got: {Address.checksummed actual}"
  | l2OracleMismatch shape expected actual =>
    s!"{shape.name} l2 oracle mismatch, want: {Address.checksummed expected}, " ++
      s!"got: {Address.checksummed actual}"

/-- An accepted message. -/
structure ValidMessage where
  message : PostedMessage
  body : Body
  attributes : Attributes
deriving DecidableEq

/-- Accepts a message that was posted on the chain of `source`. What cannot be read is reported
before a foreign source, that before an unknown destination, and that before the addresses. -/
def validate {χ : Type} (message : PostedMessage) (source : Endpoint) (registry : Registry χ) :
    Except ValidationError ValidMessage := do
  let (body, attributes) ← (Body.read message).mapError .decode
  if message.sourceId ≠ source.chainId then
    throw (.sourceChainMismatch source.chainId message.sourceId)
  match registry.endpoint? message.destinationId with
  | none => throw (.destinationNotConfigured message.destinationId)
  | some destination =>
    let receiver := destination.receiver body.shape
    if message.receiverAddress ≠ receiver then
      throw (.receiverMismatch body.shape receiver message.receiverAddress)
    if attributes.l2Oracle ≠ destination.l2Oracle then
      throw (.l2OracleMismatch body.shape destination.l2Oracle attributes.l2Oracle)
    return { message, body, attributes }

end CrossCall
