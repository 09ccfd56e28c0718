import CrossCall.Bytes.Hex

/-!
# Words, addresses and chain ids

A message names chains and accounts by 256-bit words. A chain id is the low 64 bits of such a word
and an address its low 160 bits; packing pads with zeros on the left.

## Main definitions

* `Word`, `Address`, `ChainId`
* `Word.toAddress`, `Word.toChainId`, `Address.toWord`, `ChainId.toWord`
* `BitVec.hex` — the fixed-width text

## Main results

* `Address.toAddress_toWord`, `ChainId.toChainId_toWord` — unpacking undoes packing
-/

namespace CrossCall

/-- A 256-bit word. -/
abbrev Word := BitVec 256

/-- An account's address. -/
abbrev Address := BitVec 160

/-- The number of a chain. -/
abbrev ChainId := BitVec 64

/-- The fixed-width text of a bit vector, with `0x` in front. -/
def fixedHex {n : Nat} (w : BitVec n) : String := (Bytes.ofBitVec w).hex

/-- The address in the low bits of a word. -/
def Word.toAddress (w : Word) : Address := w.setWidth 160

/-- The chain id in the low bits of a word. -/
def Word.toChainId (w : Word) : ChainId := w.setWidth 64

/-- The word that holds an address. -/
def Address.toWord (a : Address) : Word := a.setWidth 256

/-- The word that holds a chain id. -/
def ChainId.toWord (c : ChainId) : Word := c.setWidth 256

@[simp] theorem Address.toAddress_toWord (a : Address) : Word.toAddress (Address.toWord a) = a := by
  simp [Word.toAddress, Address.toWord, BitVec.setWidth_setWidth_of_le]

@[simp] theorem ChainId.toChainId_toWord (c : ChainId) : Word.toChainId (ChainId.toWord c) = c := by
  simp [Word.toChainId, ChainId.toWord, BitVec.setWidth_setWidth_of_le]

end CrossCall
