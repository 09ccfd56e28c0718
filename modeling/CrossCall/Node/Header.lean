import CrossCall.Hash.Keccak
import CrossCall.Rlp

/-!
# Block headers

## Main definitions

* `Header` — a block header; the fields of later protocol versions are optional
* `Header.encode` — its writing, whose hash names the block
* `SealedHeader` — a header with the hash that a node gave for it
-/

namespace CrossCall

/-- The root of an empty trie. -/
def emptyTrieRoot : Word := 0x56e81f171bcc55a6ff8345e692c0f86e5b48e01b996cadc001622fb5e363b421

/-- The hash of an empty list of uncles. -/
def emptyOmmersHash : Word := 0x1dcc4de8dec75d7aab85b567b6ccd41ad312451b948a7413f0a142fd40d49347

/-- A block header. -/
structure Header where
  number : BitVec 64 := 0
  timestamp : BitVec 64 := 0
  gasLimit : BitVec 64 := 0
  gasUsed : BitVec 64 := 0
  difficulty : Word := 0
  parentHash : Word := 0
  ommersHash : Word := emptyOmmersHash
  beneficiary : Address := 0
  stateRoot : Word := emptyTrieRoot
  transactionsRoot : Word := emptyTrieRoot
  receiptsRoot : Word := emptyTrieRoot
  logsBloom : BitVec 2048 := 0
  extraData : Bytes := []
  mixHash : Word := 0
  nonce : BitVec 64 := 0
  baseFeePerGas : Option (BitVec 64) := none
  withdrawalsRoot : Option Word := none
  blobGasUsed : Option (BitVec 64) := none
  excessBlobGas : Option (BitVec 64) := none
  parentBeaconBlockRoot : Option Word := none
  requestsHash : Option Word := none
deriving DecidableEq

namespace Header

/-- The fields that every header has, in the order of its writing. -/
def baseItems (h : Header) : List Rlp :=
  [.word h.parentHash, .word h.ommersHash, .word h.beneficiary, .word h.stateRoot,
   .word h.transactionsRoot, .word h.receiptsRoot, .word h.logsBloom, .number h.difficulty.toNat,
   .number h.number.toNat, .number h.gasLimit.toNat, .number h.gasUsed.toNat,
   .number h.timestamp.toNat, .string h.extraData, .word h.mixHash, .word h.nonce]

/-- The fields of later versions that are present. -/
def laterItems (h : Header) : List Rlp :=
  [h.baseFeePerGas.map fun n => .number n.toNat, h.withdrawalsRoot.map .word,
   h.blobGasUsed.map fun n => .number n.toNat, h.excessBlobGas.map fun n => .number n.toNat,
   h.parentBeaconBlockRoot.map .word, h.requestsHash.map .word].filterMap id

/-- The writing of a header. -/
def encode (h : Header) : Bytes := (Rlp.list (h.baseItems ++ h.laterItems)).encode

/-- The hash of a header's writing. -/
def hash (h : Header) : Word := keccak256 h.encode

end Header

/-- A header with the hash that a node gave for it. -/
structure SealedHeader where
  header : Header
  hash : Word
deriving DecidableEq

end CrossCall
