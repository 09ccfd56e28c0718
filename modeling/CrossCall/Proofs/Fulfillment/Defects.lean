import Mathlib
import CrossCall.Proofs.Fulfillment.Shapes
import CrossCall.Proofs.Message.Unread

/-!
# What is wrong with a message

A message can have five defects: it cannot be read, it was posted on another chain than it says, its
destination is not registered, or it names another receiver or another oracle than its destination
has. Each is judged on its own here, and validation reports the first of those that a message has.

An accepted message has none. Its acceptance rests on exactly those bytes that are compared: with
one of them exchanged the message has the defect that belongs to it, and with any others exchanged
it is accepted for the same chains, accounts and attributes.

## Main definitions

* `PostedMessage.Defect` — what is wrong with a message, each defect judged on its own
* `ValidationError.rank` — the order in which defects are reported
* `PostedMessage.AddressedAs` — two messages name the same chains and accounts
* `ValidMessage.RestsOn` — what the acceptance of a message rests on, and what it does not

## Main results

* `validate_eq_error_iff` — the first defect is reported
* `PostedMessage.Carries.withAttributes` — every list can take the place of the attributes
* `validate_restsOn` — acceptance rests on exactly the bytes that are compared
-/

namespace CrossCall

section

variable {χ : Type} {m : PostedMessage} {source : Endpoint} {registry : Registry χ}
variable {body : Body} {a : Attributes} {e : ValidationError} {d : Endpoint}

/-! ### Defects -/

/-- The shape of a message, which shows before anything in it is read. -/
def PostedMessage.shape (m : PostedMessage) : Shape :=
  if m.attributes = [] then .userOperation else .direct

theorem PostedMessage.Carries.shape_eq {blobs : List Bytes} (h : m.Carries body blobs) :
    body.shape = m.shape := by
  cases h with
  | direct listed => exact (if_neg listed).symm
  | userOperation unlisted => exact (if_pos unlisted).symm

theorem Body.shape_of_read (h : Body.read m = .ok (body, a)) : body.shape = m.shape := by
  obtain ⟨_, hcarries, -⟩ := Body.read_eq_ok_iff.mp h
  exact hcarries.shape_eq

/-- A message carries one body and one list. -/
theorem PostedMessage.Carries.unique {body' : Body} {blobs blobs' : List Bytes}
    (h : m.Carries body blobs) (h' : m.Carries body' blobs') : body = body' ∧ blobs = blobs' := by
  cases h with
  | direct listed =>
    cases h' with
    | direct => exact ⟨rfl, rfl⟩
    | userOperation unlisted => exact absurd unlisted listed
  | userOperation unlisted payload paymaster =>
    cases h' with
    | direct listed => exact absurd unlisted listed
    | userOperation _ payload' paymaster' =>
      cases payload.symm.trans payload'
      cases paymaster.symm.trans paymaster'
      exact ⟨rfl, rfl⟩

/-- What is wrong with a message that was posted on the chain of `source`, as the error that tells
it. No defect hides another, except that only a registered destination has contracts to compare
with, and only a message that can be read has an oracle. -/
inductive PostedMessage.Defect (m : PostedMessage) (source : Endpoint) (registry : Registry χ) :
    ValidationError → Prop
  | unreadable {cause : DecodeError} (read : Body.read m = .error cause) :
      m.Defect source registry (.decode cause)
  | foreign (source_ne : m.sourceId ≠ source.chainId) :
      m.Defect source registry (.sourceChainMismatch source.chainId m.sourceId)
  | unregistered (destination : registry.endpoint? m.destinationId = none) :
      m.Defect source registry (.destinationNotConfigured m.destinationId)
  | receiver {d : Endpoint} (destination : registry.endpoint? m.destinationId = some d)
      (receiver_ne : m.receiverAddress ≠ d.receiver m.shape) :
      m.Defect source registry (.receiverMismatch m.shape (d.receiver m.shape) m.receiverAddress)
  | oracle {d : Endpoint} {body : Body} {a : Attributes}
      (destination : registry.endpoint? m.destinationId = some d)
      (read : Body.read m = .ok (body, a)) (oracle_ne : a.l2Oracle ≠ d.l2Oracle) :
      m.Defect source registry (.l2OracleMismatch m.shape d.l2Oracle a.l2Oracle)

/-- The order in which defects are reported. -/
def ValidationError.rank : ValidationError → Nat
  | decode _ => 0
  | sourceChainMismatch _ _ => 1
  | destinationNotConfigured _ => 2
  | receiverMismatch _ _ _ => 3
  | l2OracleMismatch _ _ _ => 4

/-! ### Validation, check by check -/

theorem validate_of_unreadable {cause : DecodeError} (hread : Body.read m = .error cause) :
    validate m source registry = .error (.decode cause) := by
  rw [validate, hread]
  rfl

theorem validate_of_foreign (hread : Body.read m = .ok (body, a))
    (hsource : m.sourceId ≠ source.chainId) :
    validate m source registry = .error (.sourceChainMismatch source.chainId m.sourceId) := by
  rw [validate, hread]
  simp only [Except.mapError, bind, Except.bind]
  rw [if_pos hsource]
  rfl

/-- What comes after the check of the source. -/
theorem validate_of_source_eq (hread : Body.read m = .ok (body, a))
    (hsource : m.sourceId = source.chainId) :
    validate m source registry =
      match registry.endpoint? m.destinationId with
      | none => .error (.destinationNotConfigured m.destinationId)
      | some d =>
        if m.receiverAddress ≠ d.receiver m.shape then
          .error (.receiverMismatch m.shape (d.receiver m.shape) m.receiverAddress)
        else if a.l2Oracle ≠ d.l2Oracle then
          .error (.l2OracleMismatch m.shape d.l2Oracle a.l2Oracle)
        else .ok ⟨m, body, a⟩ := by
  rw [validate, hread, ← Body.shape_of_read hread]
  simp only [Except.mapError, bind, Except.bind]
  rw [if_neg (not_not.mpr hsource)]
  cases registry.endpoint? m.destinationId with
  | none => rfl
  | some d =>
    by_cases hreceiver : m.receiverAddress = d.receiver body.shape
    · by_cases horacle : a.l2Oracle = d.l2Oracle
      · simp [hreceiver, horacle, pure, Except.pure]
      · simp [hreceiver, horacle, throw, throwThe, MonadExceptOf.throw]
    · simp [hreceiver, throw, throwThe, MonadExceptOf.throw]

theorem validate_of_unregistered (hread : Body.read m = .ok (body, a))
    (hsource : m.sourceId = source.chainId)
    (hdestination : registry.endpoint? m.destinationId = none) :
    validate m source registry = .error (.destinationNotConfigured m.destinationId) := by
  rw [validate_of_source_eq hread hsource, hdestination]

theorem validate_of_receiver_ne (hread : Body.read m = .ok (body, a))
    (hsource : m.sourceId = source.chainId)
    (hdestination : registry.endpoint? m.destinationId = some d)
    (hreceiver : m.receiverAddress ≠ d.receiver m.shape) :
    validate m source registry =
      .error (.receiverMismatch m.shape (d.receiver m.shape) m.receiverAddress) := by
  rw [validate_of_source_eq hread hsource, hdestination]
  exact if_pos hreceiver

theorem validate_of_oracle_ne (hread : Body.read m = .ok (body, a))
    (hsource : m.sourceId = source.chainId)
    (hdestination : registry.endpoint? m.destinationId = some d)
    (hreceiver : m.receiverAddress = d.receiver m.shape) (horacle : a.l2Oracle ≠ d.l2Oracle) :
    validate m source registry =
      .error (.l2OracleMismatch m.shape d.l2Oracle a.l2Oracle) := by
  rw [validate_of_source_eq hread hsource, hdestination]
  exact (if_neg (not_not.mpr hreceiver)).trans (if_pos horacle)

theorem validate_of_oracle_eq (hread : Body.read m = .ok (body, a))
    (hsource : m.sourceId = source.chainId)
    (hdestination : registry.endpoint? m.destinationId = some d)
    (hreceiver : m.receiverAddress = d.receiver m.shape) (horacle : a.l2Oracle = d.l2Oracle) :
    validate m source registry = .ok ⟨m, body, a⟩ := by
  rw [validate_of_source_eq hread hsource, hdestination]
  exact (if_neg (not_not.mpr hreceiver)).trans (if_neg (not_not.mpr horacle))

/-! ### The first defect -/

/-- A defect is reported if the message has none that comes before it. -/
theorem validate_of_minimalFor
    (h : MinimalFor (m.Defect source registry) ValidationError.rank e) :
    validate m source registry = .error e := by
  obtain ⟨hdefect, hfirst⟩ := minimalFor_iff_forall_lt.mp h
  -- Every check before the one that fails is passed, since else there were an earlier defect.
  have hread : 0 < e.rank → ∃ body a, Body.read m = .ok (body, a) := by
    intro hrank
    rcases hread : Body.read m with cause | ⟨body, a⟩
    · exact absurd (.unreadable hread) (hfirst (j := .decode cause) hrank)
    · exact ⟨body, a, rfl⟩
  have hsource : 1 < e.rank → m.sourceId = source.chainId := by
    intro hrank
    by_contra hsource
    exact hfirst (j := .sourceChainMismatch _ _) hrank (.foreign hsource)
  have hreceiver : 3 < e.rank → ∀ d, registry.endpoint? m.destinationId = some d →
      m.receiverAddress = d.receiver m.shape := by
    intro hrank d hd
    by_contra hreceiver
    exact hfirst (j := .receiverMismatch _ _ _) hrank (.receiver hd hreceiver)
  cases hdefect with
  | unreadable read => exact validate_of_unreadable read
  | foreign source_ne =>
    obtain ⟨body, a, hread⟩ := hread (by simp [ValidationError.rank])
    exact validate_of_foreign hread source_ne
  | unregistered destination =>
    obtain ⟨body, a, hread⟩ := hread (by simp [ValidationError.rank])
    exact validate_of_unregistered hread (hsource (by simp [ValidationError.rank])) destination
  | receiver destination receiver_ne =>
    obtain ⟨body, a, hread⟩ := hread (by simp [ValidationError.rank])
    exact validate_of_receiver_ne hread (hsource (by simp [ValidationError.rank])) destination
      receiver_ne
  | oracle destination read oracle_ne =>
    exact validate_of_oracle_ne read (hsource (by simp [ValidationError.rank])) destination
      (hreceiver (by simp [ValidationError.rank]) _ destination) oracle_ne

/-- A message without defects is accepted. -/
theorem exists_validate_of_forall_not_defect (h : ∀ e, ¬ m.Defect source registry e) :
    ∃ v, validate m source registry = .ok v := by
  rcases hread : Body.read m with cause | ⟨body, a⟩
  · exact absurd (.unreadable hread) (h _)
  have hsource : m.sourceId = source.chainId := by
    by_contra hsource
    exact h _ (.foreign hsource)
  rcases hdestination : registry.endpoint? m.destinationId with _ | d
  · exact absurd (.unregistered hdestination) (h _)
  have hreceiver : m.receiverAddress = d.receiver m.shape := by
    by_contra hreceiver
    exact h _ (.receiver hdestination hreceiver)
  have horacle : a.l2Oracle = d.l2Oracle := by
    by_contra horacle
    exact h _ (.oracle hdestination hread horacle)
  exact ⟨_, validate_of_oracle_eq hread hsource hdestination hreceiver horacle⟩

/-- Of all that is wrong with a message the first defect is reported. -/
theorem validate_eq_error_iff :
    validate m source registry = .error e ↔
      MinimalFor (m.Defect source registry) ValidationError.rank e :=
  eq_error_iff_minimalFor (fun _ => validate_of_minimalFor) exists_validate_of_forall_not_defect

/-! ### Other attributes in the same place -/

/-- An operation with another list of attributes behind its paymaster header. -/
def UserOperation.withAttributes (op : UserOperation) (blobs : List Bytes) : UserOperation :=
  { op with
    paymasterAndData :=
      op.paymasterAndData.take paymasterHeaderLength ++ Abi.encodeSingle attributeListTy blobs }

/-- A body with another list of attributes, if it holds them. -/
def Body.withAttributes (blobs : List Bytes) : Body → Body
  | direct => direct
  | userOperation op => userOperation (op.withAttributes blobs)

/-- A message with another list of attributes, in the place where its own are. -/
def PostedMessage.withAttributes (m : PostedMessage) (blobs : List Bytes) : Body → PostedMessage
  | .direct => { m with attributes := blobs }
  | .userOperation op => { m with payload := (op.withAttributes blobs).encode }

theorem UserOperation.length_paymasterAndData_le (op : UserOperation) :
    op.paymasterAndData.length ≤ op.encode.length := by
  have hmem : Abi.Ty.part .bytes op.paymasterAndData ∈ Abi.parts _ op.toValue := by
    simp [toValue, Abi.parts, Abi.Ty.part]
  have hrow : (Abi.encode ty op.toValue).length ≤ op.encode.length :=
    Abi.length_encode_le_length_encodeRow (by simp [Abi.parts, Abi.Ty.part])
  rw [Abi.encode_tuple] at hrow
  calc op.paymasterAndData.length ≤ (Abi.encode .bytes op.paymasterAndData).length :=
        Abi.length_le_length_encode_bytes _
    _ ≤ _ := Abi.length_encode_le_length_encodeRow hmem
    _ ≤ op.encode.length := hrow

/-- Two messages name the same chains and accounts, whatever else is in their words. -/
structure PostedMessage.AddressedAs (m' m : PostedMessage) : Prop where
  sourceId : m'.sourceId = m.sourceId
  senderAddress : m'.senderAddress = m.senderAddress
  destinationId : m'.destinationId = m.destinationId
  receiverAddress : m'.receiverAddress = m.receiverAddress

theorem PostedMessage.addressedAs_withAttributes (m : PostedMessage) (blobs : List Bytes)
    (body : Body) : (m.withAttributes blobs body).AddressedAs m := by
  -- No word of the message is touched, in neither shape.
  have hwords : (m.withAttributes blobs body).sourceChain = m.sourceChain ∧
      (m.withAttributes blobs body).sender = m.sender ∧
      (m.withAttributes blobs body).destinationChain = m.destinationChain ∧
      (m.withAttributes blobs body).receiver = m.receiver := by
    cases body <;> simp [PostedMessage.withAttributes]
  obtain ⟨hsource, hsender, hdestination, hreceiver⟩ := hwords
  exact ⟨congrArg Word.toChainId hsource, congrArg Word.toAddress hsender,
    congrArg Word.toChainId hdestination, congrArg Word.toAddress hreceiver⟩

/-- Every list can take the place of the attributes that a message carries. A list of the message's
own must not become empty. -/
theorem PostedMessage.Carries.withAttributes {blobs blobs' : List Bytes} (h : m.Carries body blobs)
    (hlisted : body = .direct → blobs' ≠ [])
    (hsize : (m.withAttributes blobs' body).payload.length < 2 ^ 64) :
    (m.withAttributes blobs' body).Carries (body.withAttributes blobs') blobs' ∧
      (m.withAttributes blobs' body).AddressedAs m ∧
      (m.withAttributes blobs' body).shape = m.shape := by
  cases h with
  | direct listed =>
    refine ⟨.direct (hlisted rfl), m.addressedAs_withAttributes blobs' _, ?_⟩
    exact (if_neg (hlisted rfl)).trans (if_neg listed).symm
  | @userOperation op _ unlisted payload paymaster =>
    -- The paymaster data was long enough for a header, and this header stays.
    have hlength : paymasterHeaderLength ≤ op.paymasterAndData.length := by
      by_contra hshort
      rw [UserOperation.attributes, decodePaymasterAttributes, if_pos (not_le.mp hshort)]
        at paymaster
      cases paymaster
    have hheader :
        (op.paymasterAndData.take paymasterHeaderLength).length = paymasterHeaderLength :=
      List.length_take_of_le hlength
    have hop : (op.withAttributes blobs').encode.length < 2 ^ 64 := hsize
    have hblobs : (Abi.encodeSingle attributeListTy blobs').length < 2 ^ 64 := by
      have hle := (op.withAttributes blobs').length_paymasterAndData_le
      have hpart : (op.withAttributes blobs').paymasterAndData.length =
          paymasterHeaderLength + (Abi.encodeSingle attributeListTy blobs').length := by
        rw [UserOperation.withAttributes, List.length_append, hheader]
      omega
    have hpayload : UserOperation.decode (op.withAttributes blobs').encode =
        .ok (op.withAttributes blobs') := by
      simpa using (op.withAttributes blobs').decode_encode [] hop
    have hpaymaster : (op.withAttributes blobs').attributes = .ok blobs' := by
      have hdecode := decodePaymasterAttributes_append _ blobs' [] hheader hblobs
      rwa [List.append_nil] at hdecode
    have hcarries : (m.withAttributes blobs' (.userOperation op)).Carries
        (.userOperation (op.withAttributes blobs')) blobs' := by
      rw [PostedMessage.withAttributes]
      exact .userOperation unlisted hpayload hpaymaster
    refine ⟨hcarries, m.addressedAs_withAttributes blobs' _, ?_⟩
    exact hcarries.shape_eq.symm.trans (if_pos unlisted).symm

/-! ### What acceptance rests on -/

/-- What the acceptance of a message for `destination` rests on, if its attributes are read from
`blobs`: each of the bytes that are compared, and nothing else. -/
structure ValidMessage.RestsOn (v : ValidMessage) (source : Endpoint) (registry : Registry χ)
    (destination : Endpoint) (blobs : List Bytes) : Prop where
  registered : registry.endpoint? v.message.destinationId = some destination
  carries : v.message.Carries v.body blobs
  /-- With another receiver it is refused for that, whatever the other bytes of the word are. -/
  receiver : ∀ w : Word, w.toAddress ≠ v.message.receiverAddress →
    validate { v.message with receiver := w } source registry =
      .error (.receiverMismatch v.message.shape (destination.receiver v.message.shape) w.toAddress)
  /-- With another source it is refused for that. -/
  sourceChain : ∀ w : Word, w.toChainId ≠ v.message.sourceId →
    validate { v.message with sourceChain := w } source registry =
      .error (.sourceChainMismatch source.chainId w.toChainId)
  /-- With a destination that is not registered it is refused for that. -/
  destinationChain : ∀ w : Word, registry.endpoint? w.toChainId = none →
    validate { v.message with destinationChain := w } source registry =
      .error (.destinationNotConfigured w.toChainId)
  /-- With another address in the last oracle of its list it is refused for that, in whichever way
  the list is written. -/
  oracle : ∀ before blob after, blobs = before ++ blob :: after →
    Attributes.kindOf? blob = some .l2Oracle →
    (∀ b ∈ after, Attributes.kindOf? b ≠ some .l2Oracle) →
    ∀ a : Address, a ≠ (Attributes.wordOf blob 0).toAddress →
    ∀ (m : PostedMessage) body,
      m.Carries body (before ++ Attributes.withAddress blob a :: after) →
      m.AddressedAs v.message → m.shape = v.message.shape →
        validate m source registry =
          .error (.l2OracleMismatch v.message.shape destination.l2Oracle a)
  /-- It stays accepted, for the same chains and accounts and with the same attributes, whatever
  becomes of the bytes in its words that belong to no chain and no account, and of those in its list
  that belong to no attribute. -/
  others : ∀ blobs', Relation.EqvGen Attributes.Retouches blobs blobs' →
    ∀ (m : PostedMessage) body, m.Carries body blobs' → m.AddressedAs v.message →
      m.shape = v.message.shape →
        validate m source registry = .ok ⟨m, body, v.attributes⟩
  /-- Every list can be put in the place of its own. -/
  replaceable : ∀ blobs', (v.body = .direct → blobs' ≠ []) →
    (v.message.withAttributes blobs' v.body).payload.length < 2 ^ 64 →
      (v.message.withAttributes blobs' v.body).Carries (v.body.withAttributes blobs') blobs' ∧
        (v.message.withAttributes blobs' v.body).AddressedAs v.message ∧
        (v.message.withAttributes blobs' v.body).shape = v.message.shape

/-- What an accepted message carries is read as its attributes. -/
theorem ValidMessage.Accepted.read_eq {v : ValidMessage} {blobs : List Bytes}
    (h : v.Accepted source d blobs) : Body.read v.message = .ok (v.body, v.attributes) :=
  Body.read_eq_ok_iff.mpr ⟨blobs, h.carries, h.decode⟩

/-- A message that is addressed as an accepted one, and of its shape, names the same receiver. -/
theorem ValidMessage.Accepted.receiver_eq {v : ValidMessage} {blobs : List Bytes}
    (h : v.Accepted source d blobs) (hsame : m.AddressedAs v.message)
    (hshape : m.shape = v.message.shape) : m.receiverAddress = d.receiver m.shape := by
  rw [hsame.receiverAddress, h.receiver, hshape, h.carries.shape_eq]

theorem ValidMessage.Accepted.restsOn {v : ValidMessage} {blobs : List Bytes}
    (h : v.Accepted source d blobs) (hd : registry.endpoint? v.message.destinationId = some d) :
    v.RestsOn source registry d blobs where
  registered := hd
  carries := h.carries
  receiver w hw := by
    have hreceiver : w.toAddress ≠ d.receiver v.message.shape := by
      rwa [← h.carries.shape_eq, ← h.receiver]
    exact validate_of_receiver_ne (m := { v.message with receiver := w }) h.read_eq h.source hd
      hreceiver
  sourceChain w hw := by
    rw [h.source] at hw
    exact validate_of_foreign (m := { v.message with sourceChain := w }) h.read_eq hw
  destinationChain w hw :=
    validate_of_unregistered (m := { v.message with destinationChain := w }) h.read_eq h.source hw
  oracle before blob after hblobs hkind hlast a ha m body hcarries hsame hshape := by
    subst hblobs
    have hread : Body.read m = .ok (body, { v.attributes with l2Oracle := a }) :=
      Body.read_eq_ok_iff.mpr
        ⟨_, hcarries, Attributes.decode_withAddress h.decode hkind hlast a⟩
    -- The oracle that is exchanged was the destination's.
    have horacle : a ≠ d.l2Oracle := by
      rwa [← h.oracle, Attributes.l2Oracle_of_decode h.decode hkind hlast]
    rw [← hshape]
    exact validate_of_oracle_ne hread (hsame.sourceId.trans h.source)
      ((congrArg _ hsame.destinationId).trans hd) (h.receiver_eq hsame hshape) horacle
  others blobs' hretouched m body hcarries hsame hshape := by
    have hread : Body.read m = .ok (body, v.attributes) :=
      Body.read_eq_ok_iff.mpr
        ⟨blobs', hcarries, (Attributes.decode_eq_of_retouches hretouched).symm.trans h.decode⟩
    exact validate_of_oracle_eq hread (hsame.sourceId.trans h.source)
      ((congrArg _ hsame.destinationId).trans hd) (h.receiver_eq hsame hshape) h.oracle
  replaceable _ hlisted hsize := h.carries.withAttributes hlisted hsize

/-- Validation reports the first defect of a message, and the acceptance of a message without any
rests on exactly the bytes that are compared. -/
theorem validate_restsOn (source : Endpoint) (registry : Registry χ) :
    (∀ m e, validate m source registry = .error e ↔
      MinimalFor (m.Defect source registry) ValidationError.rank e) ∧
    ∀ m v, validate m source registry = .ok v →
      v.message = m ∧ ∃ destination blobs, v.RestsOn source registry destination blobs := by
  refine ⟨fun m e => validate_eq_error_iff, fun m v h => ?_⟩
  obtain ⟨rfl, destination, blobs, hdestination, haccepted⟩ := validate_eq_ok_iff.mp h
  exact ⟨rfl, destination, blobs, haccepted.restsOn hdestination⟩

end

namespace TwoShapes

/-- Attributes with another oracle in the last one. -/
def redirected : List Bytes :=
  [Attribute.encode (.l2Oracle 3), [1, 2, 3], List.replicate 36 1,
    Attribute.encode (.reward nativeAsset 9),
    Attributes.withAddress (Attribute.encode (.l2Oracle 7)) 9]

theorem carries_packed : packed.Carries (.userOperation operation) blobs :=
  .userOperation rfl (by decide +kernel) (by decide +kernel)

/-- An accepted user operation is refused with another receiver, and with another oracle in the list
behind its paymaster header. -/
theorem restsOn_packed :
    (validate packed { chainId := 1, nodeUrl := "" } (registry 7)).isOk ∧
      validate { packed with receiver := 5 } { chainId := 1, nodeUrl := "" } (registry 7) =
        .error (.receiverMismatch .userOperation 6 5) ∧
      validate (packed.withAttributes redirected (.userOperation operation))
          { chainId := 1, nodeUrl := "" } (registry 7) =
        .error (.l2OracleMismatch .userOperation 7 9) := by
  have hok : (validate packed { chainId := 1, nodeUrl := "" } (registry 7)).isOk := by
    decide +kernel
  rcases hv : validate packed { chainId := 1, nodeUrl := "" } (registry 7) with e | v
  · rw [hv] at hok
    cases hok
  obtain ⟨hmessage, destination, listed, hrests⟩ :=
    (validate_restsOn { chainId := 1, nodeUrl := "" } (registry 7)).2 packed v hv
  -- There is one registered destination of that number, and one list that is carried.
  have hdestination := hrests.registered
  have hcarries := hrests.carries
  rw [hmessage] at hdestination hcarries
  obtain ⟨hbody, rfl⟩ := hcarries.unique carries_packed
  cases hdestination
  have hlisted := hrests.replaceable redirected (by simp [hbody]) (by
    rw [hmessage, hbody]
    decide +kernel)
  have hreceiver := hrests.receiver 5
  have horacle := hrests.oracle (blobs.take 4) (Attribute.encode (.l2Oracle 7)) [] rfl
    (by decide +kernel) (by simp) 9 (by decide +kernel) _ _ hlisted.1 hlisted.2.1 hlisted.2.2
  rw [hmessage] at hreceiver horacle
  rw [hbody] at horacle
  exact ⟨rfl, hreceiver (by decide), horacle⟩

end TwoShapes

end CrossCall
