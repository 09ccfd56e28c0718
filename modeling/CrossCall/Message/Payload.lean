import CrossCall.Message.Attributes

/-!
# What a message asks for

The payload of a message is either a list of calls or a user operation of account abstraction.

## Main definitions

* `Call`, `decodeCalls`, `totalCallValue` — a list of calls and the value it needs
* `UserOperation`, `UserOperation.decode` — a user operation
-/

namespace CrossCall

/-- A call that a message asks for. -/
structure Call where
  target : Word := 0
  data : Bytes := []
  value : Word := 0
deriving DecidableEq

namespace Call

/-- The type of a call in contract data. -/
abbrev ty : Abi.Ty := .tuple [.word 256, .bytes, .word 256]

/-- A call as contract data. -/
def toValue (c : Call) : ty.Value := (c.target, c.data, c.value, ())

/-- The call in contract data. -/
def ofValue : ty.Value → Call
  | (target, data, value, ()) => { target, data, value }

@[simp] theorem ofValue_toValue (c : Call) : ofValue c.toValue = c := rfl

end Call

/-- A list of calls as a payload. -/
def encodeCalls (calls : List Call) : Bytes :=
  Abi.encodeSingle (.array Call.ty) (calls.map Call.toValue)

/-- The calls in a payload. -/
def decodeCalls (payload : Bytes) : Except DecodeError (List Call) :=
  match Abi.decodeSingle (.array Call.ty) payload with
  | .ok vs => .ok (vs.map Call.ofValue)
  | .error e => .error (.calls e)

/-- Adds a call's value to a sum, unless the sum leaves 256 bits. -/
def addCallValue (total : Word) (call : Call) : Except DecodeError Word :=
  if total.uaddOverflow call.value then .error .callValueOverflow else .ok (total + call.value)

/-- The sum of the values of some calls. -/
def totalCallValue (calls : List Call) : Except DecodeError Word := calls.foldlM addCallValue 0

/-- A packed user operation. -/
structure UserOperation where
  sender : Address := 0
  nonce : Word := 0
  initCode : Bytes := []
  callData : Bytes := []
  accountGasLimits : Word := 0
  preVerificationGas : Word := 0
  gasFees : Word := 0
  paymasterAndData : Bytes := []
  signature : Bytes := []
deriving DecidableEq

namespace UserOperation

/-- The type of a user operation in contract data. -/
abbrev ty : Abi.Ty :=
  .tuple [.word 160, .word 256, .bytes, .bytes, .word 256, .word 256, .word 256, .bytes, .bytes]

/-- A user operation as contract data. -/
def toValue (op : UserOperation) : ty.Value :=
  (op.sender, op.nonce, op.initCode, op.callData, op.accountGasLimits, op.preVerificationGas,
    op.gasFees, op.paymasterAndData, op.signature, ())

/-- The user operation in contract data. -/
def ofValue : ty.Value → UserOperation
  | (sender, nonce, initCode, callData, accountGasLimits, preVerificationGas, gasFees,
      paymasterAndData, signature, ()) =>
    { sender, nonce, initCode, callData, accountGasLimits, preVerificationGas, gasFees,
      paymasterAndData, signature }

@[simp] theorem ofValue_toValue (op : UserOperation) : ofValue op.toValue = op := rfl

/-- A user operation as a payload. -/
def encode (op : UserOperation) : Bytes := Abi.encodeSingle ty op.toValue

/-- The user operation in a payload. -/
def decode (payload : Bytes) : Except DecodeError UserOperation :=
  match Abi.decodeSingle ty payload with
  | .ok v => .ok (ofValue v)
  | .error e => .error (.userOperation e)

/-- The attributes behind the paymaster header. -/
def attributes (op : UserOperation) : Except DecodeError (List Bytes) :=
  decodePaymasterAttributes op.paymasterAndData

end UserOperation

end CrossCall
