import Mathlib
import CrossCall.Proofs.Fulfillment.Acceptance
import CrossCall.Proofs.Message.RoundTrip

/-!
# The two shapes of a request

Attributes reach the filler in two ways. A message with calls lists them, and a message with a user
operation hides them behind the paymaster header of the operation, which is itself encoded in the
payload. Once they are found, nothing that is checked of them knows which way they came: a request
gets the same answer in both shapes, whatever its list of attributes holds.

## Main definitions

* `ruling` — the answer to a request, by its chains, its attributes and its shape
* `ValidationError.withShape` — an error, put in the words for a shape
* `SameRequest`, `SameAnswer` — two messages with one request, and the answers they should get

## Main results

* `validate_eq_ruling` — validation depends on nothing else, if the receiver is the right one
* `validate_sameAnswer` — both shapes of a request get the same answer
-/

namespace CrossCall

variable {χ : Type}

/-- The answer to a request for calls or for a user operation, whose receiver is not in doubt. -/
def ruling (source : Endpoint) (registry : Registry χ) (sourceId destinationId : ChainId)
    (blobs : List Bytes) (shape : Shape) : Except ValidationError Attributes := do
  let attributes ← (Attributes.decode blobs).mapError .decode
  if sourceId ≠ source.chainId then
    throw (.sourceChainMismatch source.chainId sourceId)
  match registry.endpoint? destinationId with
  | none => throw (.destinationNotConfigured destinationId)
  | some destination =>
    if attributes.l2Oracle ≠ destination.l2Oracle then
      throw (.l2OracleMismatch shape destination.l2Oracle attributes.l2Oracle)
    return attributes

theorem PostedMessage.Carries.read_eq {m : PostedMessage} {body : Body} {blobs : List Bytes}
    (h : m.Carries body blobs) :
    Body.read m = (Attributes.decode blobs).map fun attributes => (body, attributes) := by
  cases h with
  | direct listed =>
    rw [Body.read, if_neg listed]
    cases Attributes.decode m.attributes <;> rfl
  | userOperation unlisted payload paymaster =>
    rw [Body.read, if_pos unlisted, payload]
    simp only [bind, Except.bind, paymaster]
    cases Attributes.decode blobs <;> rfl

/-- Validation is the ruling on what a message carries, if the message names the receiver that its
shape requires. -/
theorem validate_eq_ruling {m : PostedMessage} {body : Body} {blobs : List Bytes}
    {source : Endpoint} {registry : Registry χ} (hcarries : m.Carries body blobs)
    (hreceiver : ∀ destination, registry.endpoint? m.destinationId = some destination →
      m.receiverAddress = destination.receiver body.shape) :
    validate m source registry =
      (ruling source registry m.sourceId m.destinationId blobs body.shape).map
        fun attributes => ⟨m, body, attributes⟩ := by
  rw [validate, ruling, hcarries.read_eq]
  cases Attributes.decode blobs with
  | error cause => rfl
  | ok attributes =>
    simp only [Except.map, Except.mapError, bind, Except.bind]
    by_cases hsource : m.sourceId = source.chainId
    · rw [if_neg (not_not.mpr hsource), if_neg (not_not.mpr hsource)]
      cases hdestination : registry.endpoint? m.destinationId with
      | none => rfl
      | some destination =>
        -- The one check that the ruling does not have is that of the receiver.
        simp only [hreceiver destination hdestination, ne_eq, not_true_eq_false, if_false]
        by_cases horacle : attributes.l2Oracle = destination.l2Oracle
        · rw [if_neg (not_not.mpr horacle), if_neg (not_not.mpr horacle)]
          rfl
        · rw [if_pos horacle, if_pos horacle]
          rfl
    · rw [if_pos hsource, if_pos hsource]
      rfl

/-! ### The same request twice -/

/-- An error in the words for a shape, where it has any. -/
def ValidationError.withShape (shape : Shape) : ValidationError → ValidationError
  | receiverMismatch _ expected actual => receiverMismatch shape expected actual
  | l2OracleMismatch _ expected actual => l2OracleMismatch shape expected actual
  | decode cause => decode cause
  | sourceChainMismatch expected actual => sourceChainMismatch expected actual
  | destinationNotConfigured chain => destinationNotConfigured chain

/-- The shape of a request shows in a ruling only as the word in its error. -/
theorem ruling_withShape (source : Endpoint) (registry : Registry χ)
    (sourceId destinationId : ChainId) (blobs : List Bytes) (shape shape' : Shape) :
    ruling source registry sourceId destinationId blobs shape' =
      (ruling source registry sourceId destinationId blobs shape).mapError
        (.withShape shape') := by
  rw [ruling, ruling]
  cases Attributes.decode blobs with
  | error cause => rfl
  | ok attributes =>
    simp only [Except.mapError, bind, Except.bind]
    by_cases hsource : sourceId = source.chainId
    · rw [if_neg (not_not.mpr hsource), if_neg (not_not.mpr hsource)]
      cases registry.endpoint? destinationId with
      | none => rfl
      | some destination =>
        by_cases horacle : attributes.l2Oracle = destination.l2Oracle
        · simp only [if_neg (not_not.mpr horacle)]
          rfl
        · simp only [if_pos horacle]
          rfl
    · rw [if_pos hsource, if_pos hsource]
      rfl

/-- One request in both shapes: the first message lists its attributes and the second leaves them to
the operation that is encoded in front of its payload. They were posted for the same chains, and each
names the receiver that its shape requires, if the destination is registered. -/
structure SameRequest (registry : Registry χ) (direct packed : PostedMessage) (op : UserOperation)
    (blobs : List Bytes) : Prop where
  listed : direct.attributes = blobs
  unlisted : packed.attributes = []
  payload : op.encode <+: packed.payload
  sourceId : direct.sourceId = packed.sourceId
  destinationId : direct.destinationId = packed.destinationId
  receivers : ∀ destination, registry.endpoint? direct.destinationId = some destination →
    direct.receiverAddress = destination.receiver .direct ∧
      packed.receiverAddress = destination.receiver .userOperation

/-- Answers to the two shapes of a request: both are accepted with the same attributes, or both are
refused with the same error, which may differ in the shape it names. -/
inductive SameAnswer (direct packed : PostedMessage) (op : UserOperation) :
    Except ValidationError ValidMessage → Except ValidationError ValidMessage → Prop
  | accepted (attributes : Attributes) :
    SameAnswer direct packed op (.ok ⟨direct, .direct, attributes⟩)
      (.ok ⟨packed, .userOperation op, attributes⟩)
  | refused (e : ValidationError) :
    SameAnswer direct packed op (.error (e.withShape .direct)) (.error (e.withShape .userOperation))

/-- The attributes behind a paymaster header are those that were put there, and a message that
carries them so gets the answer of one that lists them. -/
theorem validate_sameAnswer (op : UserOperation) (header : Bytes) (blobs : List Bytes)
    (rest : Bytes) (hheader : header.length = 52)
    (hpaymaster : op.paymasterAndData = header ++ (Abi.encodeSingle attributeListTy blobs ++ rest))
    (hblobs : (Abi.encodeSingle attributeListTy blobs).length < 2 ^ 64)
    (hop : op.encode.length < 2 ^ 64) (hne : blobs ≠ []) :
    decodePaymasterAttributes op.paymasterAndData = .ok blobs ∧
      ∀ (registry : Registry χ) (source : Endpoint) (direct packed : PostedMessage),
        SameRequest registry direct packed op blobs →
          SameAnswer direct packed op (validate direct source registry)
            (validate packed source registry) := by
  have hattributes : decodePaymasterAttributes op.paymasterAndData = .ok blobs := by
    rw [hpaymaster, decodePaymasterAttributes_append header blobs rest hheader hblobs]
  refine ⟨hattributes, fun registry source direct packed h => ?_⟩
  obtain ⟨tail, hpayload⟩ := h.payload
  have hdirect : direct.Carries .direct blobs := by
    rw [← h.listed] at hne ⊢
    exact .direct hne
  have hpacked : packed.Carries (.userOperation op) blobs :=
    .userOperation h.unlisted (hpayload ▸ op.decode_encode tail hop) hattributes
  rw [validate_eq_ruling hdirect fun d hd => (h.receivers d hd).1,
    validate_eq_ruling hpacked fun d hd => (h.receivers d (h.destinationId ▸ hd)).2,
    h.sourceId, h.destinationId]
  -- Both rulings are the one for calls, put in the words for a shape.
  have hself := ruling_withShape source registry packed.sourceId packed.destinationId blobs .direct
  simp only [Body.shape]
  rw [hself .direct, hself .userOperation]
  cases ruling source registry packed.sourceId packed.destinationId blobs .direct with
  | error e => exact .refused e
  | ok attributes => exact .accepted attributes

/-! ### Both answers occur -/

namespace TwoShapes

/-- Two chains; the second has an inbox, an entrypoint and an oracle. -/
def registry (oracle : Address) : Registry Unit where
  chains :=
    [⟨{ chainId := 1, nodeUrl := "" }, ()⟩,
     ⟨{ chainId := 2, nodeUrl := "", inbox := 5, entrypoint := 6, l2Oracle := oracle }, ()⟩]

/-- Attributes with one that is not known, one that is too short to be any, and two of one kind. -/
def blobs : List Bytes :=
  [Attribute.encode (.l2Oracle 3), [1, 2, 3], List.replicate 36 1,
    Attribute.encode (.reward nativeAsset 9), Attribute.encode (.l2Oracle 7)]

/-- An operation with the attributes behind its paymaster header, and bytes behind them. -/
def operation : UserOperation where
  sender := 4
  paymasterAndData := List.replicate 52 0xff ++ (Abi.encodeSingle attributeListTy blobs ++ [8])

/-- The request as calls. -/
def direct : PostedMessage where
  sourceChain := 1
  destinationChain := 2
  receiver := 5
  attributes := blobs

/-- The request as a user operation. -/
def packed : PostedMessage where
  sourceChain := 1
  destinationChain := 2
  receiver := 6
  payload := operation.encode

theorem sameRequest (oracle : Address) :
    SameRequest (registry oracle) direct packed operation blobs where
  listed := rfl
  unlisted := rfl
  payload := List.prefix_rfl
  sourceId := rfl
  destinationId := rfl
  receivers := by
    intro destination h
    cases h
    exact ⟨rfl, rfl⟩

/-- With the oracle of the last attribute both are accepted, with another one both are refused. -/
theorem sameAnswer_registry :
    decodePaymasterAttributes operation.paymasterAndData = .ok blobs ∧
      (∀ oracle, SameAnswer direct packed operation
        (validate direct { chainId := 1, nodeUrl := "" } (registry oracle))
        (validate packed { chainId := 1, nodeUrl := "" } (registry oracle))) ∧
      (validate packed { chainId := 1, nodeUrl := "" } (registry 7)).isOk ∧
      ¬ (validate packed { chainId := 1, nodeUrl := "" } (registry 3)).isOk := by
  have hanswers := validate_sameAnswer (χ := Unit) operation (List.replicate 52 0xff) blobs [8]
    (by decide) rfl (by decide +kernel) (by decide +kernel) (by decide)
  exact ⟨hanswers.1, fun oracle => hanswers.2 (registry oracle) _ direct packed (sameRequest oracle),
    by decide +kernel, by decide +kernel⟩

end TwoShapes

end CrossCall
