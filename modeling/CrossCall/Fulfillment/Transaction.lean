import CrossCall.Fulfillment.Fee
import CrossCall.Signature.Sign

/-!
# Signed transactions

A transaction of the legacy form names its chain in the digest that is signed and in the number `v`
of the signature, so that no other chain takes it.

## Main definitions

* `Account` — a secret key with its address
* `LegacyTransaction` — a transaction, `LegacyTransaction.sign` its signed writing
* `submit` — signs a transaction with the next nonce and sends it
* `sendTestTransfer` — a small transfer
-/

namespace CrossCall

/-- A secret key with its address. -/
structure Account where
  key : SecretKey
  address : Address
  address_eq : address = key.address

/-- The account of a key. -/
def SecretKey.account (key : SecretKey) : Account := ⟨key, key.address, rfl⟩

/-- A transaction of the legacy form. -/
structure LegacyTransaction where
  chainId : ChainId
  nonce : BitVec 64
  target : Address
  value : Word
  input : Bytes
  fee : Fee
deriving DecidableEq

namespace LegacyTransaction

/-- What a transaction says besides its chain. -/
def items (t : LegacyTransaction) : List Rlp :=
  [.number t.nonce.toNat, .number t.fee.gasPrice.toNat, .number t.fee.gasLimit.toNat,
   .word t.target, .number t.value.toNat, .string t.input]

/-- What is signed. -/
def digest (t : LegacyTransaction) : Word :=
  keccak256 (Rlp.list (t.items ++ [.number t.chainId.toNat, .number 0, .number 0])).encode

/-- The number that carries the chain and the parity of a signature. -/
def recoveryNumber (chainId : ChainId) (odd : Bool) : Nat :=
  35 + 2 * chainId.toNat + if odd then 1 else 0

/-- The writing of a transaction with a signature of its digest. -/
def encode (t : LegacyTransaction) (signature : Signature) : Bytes :=
  (Rlp.list
    (t.items ++
      [.number (recoveryNumber t.chainId signature.odd), .number signature.r,
       .number signature.s])).encode

/-- The signed writing of a transaction. -/
def sign (t : LegacyTransaction) (key : SecretKey) : Bytes := t.encode (key.sign t.digest)

end LegacyTransaction

/-- Signs a transaction with the account's next nonce and sends it. -/
def submit {χ : Type} (node : χ) (account : Account) (chainId : ChainId) (target : Address)
    (value : Word) (input : Bytes) (fee : Fee) : ExceptT FulfillmentError (Session χ) Word := do
  let nonce ← Session.query node (.pendingNonce account.address) .nonce
  let transaction : LegacyTransaction := { chainId, nonce, target, value, input, fee }
  Session.query node (.sendRawTransaction (transaction.sign account.key)) .submission

/-- The gas limit and the value of a test transfer. -/
def testTransfer : BitVec 64 × Word := (21000, 10000000000)

/-- Sends a test transfer at the node's price. -/
def sendTestTransfer {χ : Type} (node : χ) (account : Account) (chainId : ChainId)
    (recipient : Address) : ExceptT FulfillmentError (Session χ) Word := do
  let gasPrice ← Session.query node .gasPrice .gasPrice
  submit node account chainId recipient testTransfer.2 [] { gasLimit := testTransfer.1, gasPrice }

end CrossCall
