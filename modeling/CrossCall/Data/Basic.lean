import CrossCall.Word

/-!
# Structured data

Configuration files, command line settings and stored proofs are trees of a few kinds of values. A
reader takes a tree and returns a value of the domain, or refuses.

## Main definitions

* `Data` — trees of truth values, integers, texts, lists and records
* `Data.Form` — the written forms of trees
* `Data.bits?`, `Data.fixed?`, `Data.bytes?`, … — readers of single values
* `Data.fields?` — the fields of a record with given names
* `Fields.required?`, `Fields.withDefault?` — readers of fields
-/

namespace CrossCall

/-- A tree of values. `foreign` stands for what no field of ours takes: fractions and dates. -/
inductive Data
  | null
  | bool (b : Bool)
  | int (i : Int)
  | foreign
  | text (s : String)
  | list (items : List Data)
  | record (fields : List (String × Data))

instance : Inhabited Data := ⟨.null⟩

/-- The written forms of trees. A list that stands for something else may have items of no use: in
TOML they are passed over, in JSON they are refused. -/
inductive Data.Form
  | json
  | toml
deriving DecidableEq

/-- The fields of a record, each name once. -/
abbrev Fields := List (String × Data)

namespace Data

/-- A truth value. -/
def bool? : Data → Option Bool
  | bool b => some b
  | _ => none

/-- A text. -/
def text? : Data → Option String
  | text s => some s
  | _ => none

/-- The items of a list. -/
def list? : Data → Option (List Data)
  | list items => some items
  | _ => none

/-- An integer in the range of an unsigned number of `n` bits. -/
def bits? (n : Nat) : Data → Option (BitVec n)
  | int i =>
    let w := BitVec.ofInt n i
    if w.toNat = i then some w else none
  | _ => none

/-- A list of numbers below 256. -/
def octets? (items : List Data) : Option Bytes :=
  items.mapM fun d => (d.bits? 8).map fun b => UInt8.ofBitVec b

/-- A byte string: a hexadecimal text or a list of numbers. -/
def bytes? : Data → Option Bytes
  | text s => (Hex.decode s).toOption
  | list items => octets? items
  | _ => none

/-- Whether a list may go on with `items` after all that was asked of it. -/
def isSurplus (form : Form) (items : List Data) : Bool := items.isEmpty || form = .toml

/-- The first `count` bytes of a list. The item after them may be anything but one more byte. -/
def octetsOf? (form : Form) (count : Nat) (items : List Data) : Option Bytes :=
  let after := items.drop count
  let isLonger := (after.head?.bind (bits? 8)).isSome
  if items.length < count || isLonger || !isSurplus form after.tail then none
  else octets? (items.take count)

/-- A bit vector as a hexadecimal text of its full width, or as the list of its bytes. -/
def fixed? (form : Form) (n : Nat) : Data → Option (BitVec n)
  | text s => (Hex.decodeExact (n / 8) s).toOption.map (Bytes.toBitVec n)
  | list items => (octetsOf? form (n / 8) items).map (Bytes.toBitVec n)
  | _ => none

/-- A list of values of one kind. -/
def listOf? {α : Type} (read : Data → Option α) (d : Data) : Option (List α) := do
  let items ← d.list?
  items.mapM read

/-- Whether a value says no more than that it is there: null in JSON, which TOML has not, and an
empty record or list in TOML. -/
def isVoid (form : Form) (d : Data) : Bool :=
  match form, d with
  | .json, null => true
  | .toml, record [] => true
  | .toml, list [] => true
  | _, _ => false

/-- A choice from a table of words: the word, or a record with the word as its only field, which
says nothing. -/
def word? {α : Type} (form : Form) (table : List (String × α)) : Data → Option α
  | text s => table.lookup s
  | record [(s, d)] => if d.isVoid form then table.lookup s else none
  | _ => none

/-- A list of exactly two values of one kind. -/
def pairOf? {α : Type} (read : Data → Option α) : Data → Option (α × α)
  | list [a, b] => do
    let a ← read a
    let b ← read b
    return (a, b)
  | _ => none

/-- The fields of a record whose fields are `names`. A list gives the fields in their order. With
`strict`, a field of another name is refused. -/
def fields? (form : Form) (names : List String) (strict : Bool) : Data → Option Fields
  | record fields =>
    if strict && fields.any (fun f => !names.contains f.1) then none else some fields
  | list items =>
    if isSurplus form (items.drop names.length) then some (names.zip items) else none
  | _ => none

/-- A bit vector as a text. -/
def ofFixed {n : Nat} (w : BitVec n) : Data := text (fixedHex w)

/-- A byte string as a text. -/
def ofBytes (bs : Bytes) : Data := text bs.hex

/-- An unsigned number. -/
def ofBits {n : Nat} (w : BitVec n) : Data := int w.toNat

end Data

namespace Fields

/-- The value of a field that has to be there. -/
def required? {α : Type} (fs : Fields) (name : String) (read : Data → Option α) : Option α := do
  let d ← fs.lookup name
  read d

/-- The value of a field, or `default` where it is absent. -/
def withDefault? {α : Type} (fs : Fields) (name : String) (default : α) (read : Data → Option α) :
    Option α :=
  match fs.lookup name with
  | none => some default
  | some d => read d

/-- The value of a field that may be absent or null. -/
def optional? {α : Type} (fs : Fields) (name : String) (read : Data → Option α) :
    Option (Option α) :=
  match fs.lookup name with
  | none | some .null => some none
  | some d => (read d).map some

end Fields

end CrossCall
