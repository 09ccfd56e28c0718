import CrossCall.Abi.Encoder
import CrossCall.Message.DecodeError

/-!
# Attributes of a message

An attribute is a selector of four bytes and one or two words. A message lists its attributes as
byte strings; of several with one kind the last counts, and an absent one reads as zero. A message
that carries a user operation packs its attributes behind the operation's paymaster header instead.

## Main definitions

* `Attributes` — the attributes of a message
* `Attributes.decode` — reads a list of byte strings
* `Attribute` — a single attribute, `Attribute.encode` its byte string
* `decodePaymasterAttributes`, `encodePaymasterAttributes` — the list behind a paymaster header
-/

namespace CrossCall

/-- The attributes of a message; those it does not carry are zero. -/
structure Attributes where
  nonce : Word := 0
  rewardAsset : Address := 0
  rewardAmount : Word := 0
  finalityDelay : Word := 0
  expiry : Word := 0
  requester : Word := 0
  l2Oracle : Address := 0
deriving DecidableEq

namespace Attributes

/-- The word of an attribute's byte string with a given number, counted from zero. -/
def wordOf (blob : Bytes) (i : Nat) : Word := Bytes.toBitVec 256 ((blob.drop (4 + 32 * i)).take 32)

/-- The kind of an attribute's byte string. -/
def kindOf? (blob : Bytes) : Option AttributeKind :=
  if blob.length < 4 then none else AttributeKind.ofSelector? (Bytes.toBitVec 32 (blob.take 4))

/-- Sets what an attribute of a kind says. -/
def set (attributes : Attributes) (kind : AttributeKind) (blob : Bytes) : Attributes :=
  match kind with
  | .nonce => { attributes with nonce := wordOf blob 0 }
  | .reward =>
    { attributes with rewardAsset := (wordOf blob 0).toAddress, rewardAmount := wordOf blob 1 }
  | .delay => { attributes with finalityDelay := wordOf blob 0, expiry := wordOf blob 1 }
  | .requester => { attributes with requester := wordOf blob 0 }
  | .l2Oracle => { attributes with l2Oracle := (wordOf blob 0).toAddress }

/-- Takes one byte string into account. What is shorter than a selector or has an unknown one is
passed over; a known attribute that is too short is refused. -/
def read (attributes : Attributes) (blob : Bytes) : Except DecodeError Attributes :=
  match kindOf? blob with
  | none => .ok attributes
  | some kind =>
    if blob.length < kind.minLength then .error (.attributeTooShort kind)
    else .ok (attributes.set kind blob)

/-- Reads a list of byte strings from left to right. -/
def decode (blobs : List Bytes) : Except DecodeError Attributes := blobs.foldlM read {}

end Attributes

/-- A single attribute. -/
inductive Attribute
  | nonce (nonce : Word)
  | reward (asset : Address) (amount : Word)
  | delay (finalityDelay expiry : Word)
  | requester (requester : Word)
  | l2Oracle (oracle : Address)

namespace Attribute

/-- What an attribute is about. -/
def kind : Attribute → AttributeKind
  | nonce _ => .nonce
  | reward _ _ => .reward
  | delay _ _ => .delay
  | requester _ => .requester
  | l2Oracle _ => .l2Oracle

/-- The words of an attribute. -/
def words : Attribute → List Word
  | nonce n => [n]
  | reward asset amount => [Address.toWord asset, amount]
  | delay finalityDelay expiry => [finalityDelay, expiry]
  | requester r => [r]
  | l2Oracle oracle => [Address.toWord oracle]

/-- The byte string of an attribute. -/
def encode (a : Attribute) : Bytes :=
  Bytes.ofBitVec a.kind.selector ++ a.words.flatMap Bytes.ofBitVec

end Attribute

/-- The type of a list of attributes. -/
abbrev attributeListTy : Abi.Ty := .array .bytes

/-- The length of a paymaster header: an address and two gas limits of 16 bytes. -/
def paymasterHeaderLength : Nat := 20 + 16 + 16

/-- The attributes behind the header of a user operation's paymaster data. -/
def decodePaymasterAttributes (data : Bytes) : Except DecodeError (List Bytes) :=
  if data.length < paymasterHeaderLength then .error (.paymasterDataTooShort data.length)
  else (Abi.decodeSingle attributeListTy (data.drop paymasterHeaderLength)).mapError .paymasterData

/-- Paymaster data with a header of zeros. -/
def encodePaymasterAttributes (blobs : List Bytes) : Bytes :=
  List.replicate paymasterHeaderLength 0 ++ Abi.encodeSingle attributeListTy blobs

end CrossCall
