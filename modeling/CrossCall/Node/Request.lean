import CrossCall.Abi.Event
import CrossCall.Node.Header
import CrossCall.Url.Basic

/-!
# What a node is asked

## Main definitions

* `Request` — the questions that a chain's node answers
* `Request.Answer` — the type of the answer to a request
* `ClientError` — why there is no answer
-/

namespace CrossCall

/-- A block by number or by one of its names. -/
inductive BlockTag
  | latest
  | finalized
  | safe
  | earliest
  | pending
  | number (n : BitVec 64)
deriving DecidableEq

/-- The text of a block in error messages. -/
def BlockTag.text : BlockTag → String
  | latest => "latest"
  | finalized => "finalized"
  | safe => "safe"
  | earliest => "earliest"
  | pending => "pending"
  | number n => Hex.quantity n.toNat

/-- A transaction that is to be estimated or tried out. -/
structure TransactionRequest where
  sender : Option Address := none
  target : Option Address := none
  value : Option Word := none
  data : Option Bytes := none
deriving DecidableEq

/-- Which logs are asked for: of the given addresses, if there are any, and with one of the given
words as each topic for which there are any. -/
structure LogFilter where
  addresses : List Address := []
  topics : List (List Word) := [[], [], [], []]
  fromBlock : Option (BitVec 64) := none
  toBlock : Option (BitVec 64) := none
deriving DecidableEq

/-- A storage entry in a node's proof. Its texts are as the node wrote them. -/
structure StorageEntry where
  key : String
  value : String
  proof : List String
deriving DecidableEq

/-- A node's proof of an account and of some of its storage. -/
structure AccountProof where
  address : Address
  accountProof : List String
  storageHash : Word
  storageProof : List StorageEntry
deriving DecidableEq, Inhabited

/-- A question to a node. -/
inductive Request
  | chainId
  | headerByNumber (block : BlockTag)
  | headerByHash (hash : Word)
  | estimateGas (tx : TransactionRequest)
  | gasPrice
  | pendingNonce (account : Address)
  | call (tx : TransactionRequest) (block : BlockTag)
  | logs (filter : LogFilter)
  | proof (account : Address) (keys : List Word) (block : BlockTag)
  | sendRawTransaction (raw : Bytes)
  | newFilter (filter : LogFilter)
  | filterChanges (id : Word)
  | uninstallFilter (id : Word)
deriving DecidableEq

/-- The type of the answer to a request. -/
@[reducible] def Request.Answer : Request → Type
  | chainId => BitVec 64
  | headerByNumber _ => Option SealedHeader
  | headerByHash _ => Option SealedHeader
  | estimateGas _ => BitVec 64
  | gasPrice => BitVec 128
  | pendingNonce _ => BitVec 64
  | call _ _ => Bytes
  | logs _ => List Log
  | proof _ _ _ => AccountProof
  | sendRawTransaction _ => Word
  | newFilter _ => Word
  | filterChanges _ => List Log
  | uninstallFilter _ => Bool

/-- Why a node gave no answer. -/
inductive ClientError
  | transport (text : String)
  | invalidUrl (cause : UrlError)
deriving DecidableEq

/-- The text of an error. -/
def ClientError.message : ClientError → String
  | transport text => text
  | invalidUrl _ => "invalid node url"

end CrossCall
