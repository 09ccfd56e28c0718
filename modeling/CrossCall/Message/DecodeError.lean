import CrossCall.Abi.Decoder

/-!
# Why a message cannot be read

## Main definitions

* `AttributeKind` — what an attribute is about
* `DecodeError` — the ways in which a log, a payload or an attribute is malformed
-/

namespace CrossCall

/-- What an attribute is about. -/
inductive AttributeKind
  | nonce
  | reward
  | delay
  | requester
  | l2Oracle
deriving DecidableEq

namespace AttributeKind

/-- The word for a kind in texts. -/
def name : AttributeKind → String
  | nonce => "nonce"
  | reward => "reward"
  | delay => "delay"
  | requester => "requester"
  | l2Oracle => "l2Oracle"

/-- The four bytes in front of an attribute of a kind. -/
def selector : AttributeKind → BitVec 32
  | nonce => 0xce03fdab
  | reward => 0xa362e5db
  | delay => 0x84f550e0
  | requester => 0x3bd94e4c
  | l2Oracle => 0x7ff7245a

/-- All kinds. -/
def all : List AttributeKind := [nonce, reward, delay, requester, l2Oracle]

/-- The kind that a selector stands for. -/
def ofSelector? (s : BitVec 32) : Option AttributeKind := all.find? fun k => k.selector = s

/-- The number of words after the selector. -/
def words : AttributeKind → Nat
  | reward | delay => 2
  | nonce | requester | l2Oracle => 1

/-- The least length of an attribute of a kind. -/
def minLength (k : AttributeKind) : Nat := 4 + 32 * k.words

@[simp] theorem mem_all (k : AttributeKind) : k ∈ all := by cases k <;> decide

@[simp] theorem ofSelector?_selector (k : AttributeKind) : ofSelector? k.selector = some k := by
  cases k <;> decide

end AttributeKind

/-- Why a log, a payload or an attribute cannot be read. -/
inductive DecodeError
  | attributeTooShort (kind : AttributeKind)
  | paymasterDataTooShort (length : Nat)
  | paymasterData (cause : Abi.Failure)
  | userOperation (cause : Abi.Failure)
  | calls (cause : Abi.Failure)
  | callValueOverflow
  | messagePosted (cause : Abi.Failure)
deriving DecidableEq

/-- The text of an error. -/
def DecodeError.message : DecodeError → String
  | .attributeTooShort kind => s!"{kind.name} attribute too short"
  | .paymasterDataTooShort length => s!"paymaster data is too short: {length} bytes"
  | .paymasterData _ => "unpacking paymaster data"
  | .userOperation _ => "unpacking packed user operation"
  | .calls _ => "unpacking calls"
  | .callValueOverflow => "call value overflow"
  | .messagePosted _ => "decoding MessagePosted log"

end CrossCall
