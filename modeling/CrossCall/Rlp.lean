import CrossCall.Word

/-!
# Recursive length prefix encoding

Transactions, block headers and proof nodes are written as trees of byte strings in which every
string and list is preceded by its length.

## Main definitions

* `Rlp` — a byte string or a list of items
* `Rlp.encode` — its writing
* `Rlp.number`, `Rlp.word` — numbers in shortest form, fixed-width words
-/

namespace CrossCall

/-- A tree of byte strings. -/
inductive Rlp
  | string (bs : Bytes)
  | list (items : List Rlp)

namespace Rlp

/-- The mark and length in front of a body; `short` is the mark of an empty body, and bodies of
more than 55 bytes carry the length of their length. -/
def header (short : Nat) (length : Nat) : Bytes :=
  if length ≤ 55 then [UInt8.ofNat (short + length)]
  else
    let digits := Bytes.shortest length
    UInt8.ofNat (short + 55 + digits.length) :: digits

/-- The writing of a byte string; a single byte below 128 stands for itself. -/
def encodeString : Bytes → Bytes
  | [b] => if b < 128 then [b] else [0x81, b]
  | bs => header 0x80 bs.length ++ bs

/-- The writing of a list from the writing of its items. -/
def encodeBody (body : Bytes) : Bytes := header 0xC0 body.length ++ body

mutual

/-- The writing of an item. -/
def encode : Rlp → Bytes
  | string bs => encodeString bs
  | list items => encodeBody (encodeAll items)

/-- The writings of items, one after the other. -/
def encodeAll : List Rlp → Bytes
  | [] => []
  | item :: items => encode item ++ encodeAll items

end

/-- A number in its shortest form. -/
def number (n : Nat) : Rlp := string (Bytes.shortest n)

/-- A bit vector in full width. -/
def word {n : Nat} (w : BitVec n) : Rlp := string (Bytes.ofBitVec w)

/-- The writing of a list of byte strings. -/
def encodeStrings (items : List Bytes) : Bytes := encode (list (items.map string))

end Rlp

end CrossCall
