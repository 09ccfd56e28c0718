import CrossCall.Abi.Basic

/-!
# Writing contract data

A row of values is written as the heads of the values followed by the tails of the dynamic ones. A
static value is its own head; the head of a dynamic value is the offset of its tail, counted from
the start of the row.

## Main definitions

* `Abi.encode` — the contents of a value
* `Abi.encodeRow` — a row of values, as in the data of an event or the arguments of a call
* `Abi.encodeSingle` — one value as a row of one
-/

namespace CrossCall.Abi

/-- The word that holds a number. -/
def numberWord (n : Nat) : Bytes := Bytes.ofNat 32 n

/-- A byte string filled up with zeros to whole words. -/
def padRight (bs : Bytes) : Bytes := bs ++ List.replicate ((32 - bs.length % 32) % 32) 0

/-- What a value adds to its row: the contents stand in the head or behind an offset. -/
structure Part where
  isDynamic : Bool
  contents : Bytes

/-- The length of a part's head. -/
def Part.headSize (p : Part) : Nat := if p.isDynamic then 32 else p.contents.length

/-- The length of all heads. -/
def headsSize : List Part → Nat
  | [] => 0
  | p :: ps => p.headSize + headsSize ps

/-- The heads of parts whose first tail starts at `offset`. -/
def heads (offset : Nat) : List Part → Bytes
  | [] => []
  | p :: ps =>
    if p.isDynamic then numberWord offset ++ heads (offset + p.contents.length) ps
    else p.contents ++ heads offset ps

/-- The tails of the dynamic parts. -/
def tails : List Part → Bytes
  | [] => []
  | p :: ps => if p.isDynamic then p.contents ++ tails ps else tails ps

/-- The row of some parts. -/
def assemble (ps : List Part) : Bytes := heads (headsSize ps) ps ++ tails ps

mutual

/-- The contents of a value. -/
def encode : (t : Ty) → t.Value → Bytes
  | .word _, w => numberWord w.toNat
  | .bytes, bs => numberWord bs.length ++ padRight bs
  | .array t, vs => numberWord vs.length ++ assemble (vs.map fun v => ⟨t.isDynamic, encode t v⟩)
  | .tuple ts, vs => assemble (parts ts vs)

/-- The parts of a row of values. -/
def parts : (ts : List Ty) → Ty.Values ts → List Part
  | [], _ => []
  | t :: ts, (v, vs) => ⟨t.isDynamic, encode t v⟩ :: parts ts vs

end

/-- A row of values. -/
def encodeRow (ts : List Ty) (vs : Ty.Values ts) : Bytes := assemble (parts ts vs)

/-- One value as a row of one. -/
def encodeSingle (t : Ty) (v : t.Value) : Bytes := encodeRow [t] (v, ())

/-- The data of a function call: the selector and the row of arguments. -/
def encodeCall (selector : BitVec 32) (ts : List Ty) (vs : Ty.Values ts) : Bytes :=
  Bytes.ofBitVec selector ++ encodeRow ts vs

end CrossCall.Abi
