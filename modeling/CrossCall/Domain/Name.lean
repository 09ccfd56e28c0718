import CrossCall.Domain.Direction
import CrossCall.Domain.Joining
import CrossCall.Domain.Mapping
import CrossCall.Domain.Punycode
import CrossCall.Text.Composition

/-!
# Domain names

A name is a row of labels with points between them. It can be given in any script; what is looked up
is its form in ASCII.

## Main definitions

* `Domain.toAscii?` — the form of a name in ASCII

## Main results

* `Domain.isDenied_of_mem_toAscii?` — no name has a character that hosts cannot have
-/

namespace CrossCall.Domain

/-- What a label begins with whose characters are written as places. -/
def placesMark : List Char := ['x', 'n', '-', '-']

/-- The characters of ASCII that a host cannot have. -/
def isDenied (c : Char) : Bool :=
  c.toNat ≤ 32 || c.toNat = 127 || "%#/:<>?@[\\]^|".contains c

/-- Whether all characters are of ASCII. -/
def isAscii (cs : List Char) : Bool := cs.all (·.toNat < 128)

/-- The label that a label writes. One that is written as places has a character beyond ASCII and is
in its composed form. -/
def written? (label : List Char) : Option (List Char) :=
  if label.take 4 = placesMark then
    match Punycode.decode? (label.drop 4) with
    | some cs => if isAscii cs || composed cs ≠ cs then none else some cs
    | none => none
  else some label

/-- Whether a label has only characters that names can hold, of which the first goes with none
before it. -/
def isProper (label : List Char) : Bool :=
  label.all standsForItself && !(label.head?.map isMark).getD false && joinersInPlace [] label

/-- The form of a label in ASCII. -/
def asciiLabel (label : List Char) : List Char :=
  if isAscii label then label else placesMark ++ Punycode.encode label

/-- The form of a name in ASCII: its characters are mapped and composed, and its labels are
checked. -/
def toAscii? (name : List Char) : Option (List Char) := do
  let mapped ← name.mapM mapped?
  let labels ← (splitAtEach '.' (composed mapped.flatten)).mapM written?
  let isBroken := labels.any isMixed && !labels.all keepsDirection
  let ascii := ['.'].intercalate (labels.map asciiLabel)
  if !labels.all isProper || isBroken || ascii.any isDenied then none
  return ascii

theorem isDenied_of_mem_toAscii? {name ascii : List Char} {c : Char}
    (h : toAscii? name = some ascii) (hc : c ∈ ascii) : isDenied c = false := by
  simp only [toAscii?, Option.bind_eq_bind, Option.bind_eq_some_iff] at h
  obtain ⟨mapped, -, labels, -, h⟩ := h
  split at h
  · cases h
  · rename_i hb
    cases h
    simp only [Bool.or_eq_true, not_or, Bool.not_eq_true, List.any_eq_false] at hb
    exact hb.2 c hc

end CrossCall.Domain
