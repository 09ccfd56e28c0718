import CrossCall.Text.Number

/-!
# Internet addresses

## Main definitions

* `IpAddress` — addresses of 32 or of 128 bits
* `IpAddress.parse?` — reads an address
* `IpAddress.text` — its shortest text
-/

namespace CrossCall

/-- An internet address. -/
inductive IpAddress
  | v4 (bits : BitVec 32)
  | v6 (bits : BitVec 128)
deriving DecidableEq

namespace IpAddress

/-- The number whose digits in a base are given, highest first. -/
def joined (base : Nat) (digits : List Nat) : Nat := digits.foldl (fun n d => n * base + d) 0

/-- The digits of a number in a base, highest first. -/
def separated (base : Nat) : (count n : Nat) → List Nat
  | 0, _ => []
  | count + 1, n => separated base count (n / base) ++ [n % base]

/-- A decimal number below 256 without a leading zero. -/
def octet? (cs : List Char) : Option Nat := do
  if cs.length > 3 then none
  if cs.length > 1 ∧ cs.head? = some '0' then none
  let n ← number? 10 cs
  if n < 256 then some n else none

/-- Four octets. -/
def octets? (cs : List Char) : Option (List Nat) := do
  let octets ← (splitAtEach '.' cs).mapM octet?
  if octets.length = 4 then some octets else none

/-- A group of up to four hexadecimal digits. -/
def group? (cs : List Char) : Option Nat := if cs.length ≤ 4 then number? 16 cs else none

/-- Groups between colons. With `dotted`, the last two may be written as four octets. -/
def groups? (dotted : Bool) : List (List Char) → Option (List Nat)
  | [] => some []
  | [cs] =>
    if dotted && cs.contains '.' then (octets? cs).map fun o => separated 65536 2 (joined 256 o)
    else (group? cs).map fun g => [g]
  | cs :: pieces => do
    let g ← group? cs
    let gs ← groups? dotted pieces
    return g :: gs

/-- The groups in a text that may be empty. -/
def side? (dotted : Bool) (cs : List Char) : Option (List Nat) :=
  if cs.isEmpty then some [] else groups? dotted (splitAtEach ':' cs)

/-- What stands before and after the first double colon. -/
def splitDouble? : List Char → Option (List Char × List Char)
  | ':' :: ':' :: cs => some ([], cs)
  | c :: cs => (splitDouble? cs).map fun (before, after) => (c :: before, after)
  | [] => none

/-- Eight groups, of which a double colon may stand for one or more that are zero. -/
def eightGroups? (cs : List Char) : Option (List Nat) :=
  match splitDouble? cs with
  | none => do
    let gs ← groups? true (splitAtEach ':' cs)
    if gs.length = 8 then some gs else none
  | some (before, after) => do
    let left ← side? false before
    let right ← side? true after
    if left.length + right.length < 8 then
      some (left ++ List.replicate (8 - left.length - right.length) 0 ++ right)
    else none

/-- Reads an address of 128 bits. -/
def parseV6? (cs : List Char) : Option (BitVec 128) :=
  (eightGroups? cs).map fun gs => BitVec.ofNat 128 (joined 65536 gs)

/-- Reads an address. -/
def parse? (s : String) : Option IpAddress :=
  match octets? s.toList with
  | some octets => some (.v4 (BitVec.ofNat 32 (joined 256 octets)))
  | none => (parseV6? s.toList).map .v6

/-- The text of 32 bits. -/
def textV4 (n : Nat) : String := ".".intercalate ((separated 256 4 n).map toString)

/-- The lengths of the runs of zeros that start at each place. -/
def zeroRuns : List Nat → List Nat
  | [] => []
  | 0 :: gs =>
    match zeroRuns gs with
    | [] => [1]
    | n :: ns => (n + 1) :: n :: ns
  | _ :: gs => 0 :: zeroRuns gs

/-- Groups between colons, the first of the longest runs of two or more zeros left out. -/
def textGroups (gs : List Nat) : String :=
  let write (gs : List Nat) := ":".intercalate (gs.map fun g => String.ofList (Nat.toDigits 16 g))
  let runs := zeroRuns gs
  let longest := runs.foldl max 0
  if longest < 2 then write gs
  else
    let start := runs.findIdx (· = longest)
    write (gs.take start) ++ "::" ++ write (gs.drop (start + longest))

/-- The text of an address. One of 128 bits that stands for one of 32 ends in four octets. -/
def text : IpAddress → String
  | v4 bits => textV4 bits.toNat
  | v6 bits =>
    if bits >>> 32 = 0xffff then "::ffff:" ++ textV4 (bits.setWidth 32).toNat
    else textGroups (separated 65536 8 bits.toNat)

end IpAddress

end CrossCall
