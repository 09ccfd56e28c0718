import CrossCall.Text.Blank
import CrossCall.Text.Letter

/-!
# Patterns for the values of fields

A value in a directive that is no number or truth value is a regular expression. Directives are
divided at commas, fields at equals signs, and a field ends at a closing brace, so that a pattern
has none of these: it cannot count its repetitions.

A pattern is read either by characters of all scripts or, where it says so, by bytes. Which
characters of all scripts are letters, digits or blanks, and which are the same but for their case,
is not known: a pattern that asks for it is refused, and so is one whose bytes need not be a text.

## Main definitions

* `Pattern.isValid` — whether a text is a pattern
-/

namespace CrossCall.Journal.Pattern

/-- How a part of a pattern is read: by characters or by bytes, with regard to case or without, and
with blanks that count or not. -/
structure Mode where
  byCharacters : Bool := true
  ignoresCase : Bool := false
  ignoresBlanks : Bool := false

/-- Skips blanks and comments, of which each goes from a number sign to the end of its line. -/
def skipBlanks (inComment : Bool) : List Char → List Char
  | [] => []
  | c :: cs =>
    if inComment then skipBlanks (c ≠ '\n') cs
    else if isBlank c then skipBlanks false cs
    else if c = '#' then skipBlanks true cs
    else c :: cs

/-- Skips what does not count. -/
def Mode.skip (m : Mode) (cs : List Char) : List Char :=
  if m.ignoresBlanks then skipBlanks false cs else cs

/-- Whether characters can be compared. -/
def Mode.canCompare (m : Mode) : Bool := !(m.byCharacters && m.ignoresCase)

/-- What a part of a pattern stands for: a character by its number, a byte, one of a set of bytes or
of all others, an end of the text, or an end of a word. -/
inductive Atom
  | literal (code : Nat)
  | byte (n : Nat)
  | set (isComplement : Bool)
  | textEnd
  | wordEnd

/-- Whether an atom can be matched. -/
def Atom.isMatchable (mode : Mode) : Atom → Bool
  | literal _ => mode.canCompare
  | byte n => mode.canCompare && (mode.byCharacters || n < 128)
  | set isComplement => !mode.byCharacters && !isComplement
  | textEnd => true
  | wordEnd => !mode.byCharacters

/-- What a letter after a backslash stands for. -/
def letters : List (Char × Atom) :=
  [('d', .set false), ('D', .set true), ('s', .set false), ('S', .set true), ('w', .set false),
   ('W', .set true), ('A', .textEnd), ('z', .textEnd), ('b', .wordEnd), ('B', .wordEnd),
   ('<', .wordEnd), ('>', .wordEnd), ('a', .literal 7), ('t', .literal 9), ('n', .literal 10),
   ('v', .literal 11), ('f', .literal 12), ('r', .literal 13)]

/-- The number of hexadecimal digits after a letter. -/
def hexDigits? : Char → Option Nat
  | 'x' => some 2
  | 'u' => some 4
  | 'U' => some 8
  | _ => none

/-- The number that `count` hexadecimal digits write. -/
def hexNumber? (mode : Mode) (n : Nat) : (count : Nat) → List Char → Option (Nat × List Char)
  | 0, cs => some (n, cs)
  | count + 1, cs =>
    match mode.skip cs with
    | [] => none
    | c :: cs => do
      let d ← digitValue? 16 c
      hexNumber? mode (n * 16 + d) count cs

/-- Reads what follows a backslash. -/
def escape? (mode : Mode) : List Char → Option (Atom × List Char)
  | [] => none
  | c :: cs =>
    match hexDigits? c, letters.lookup c with
    | some count, _ => do
      let (n, cs) ← hexNumber? mode 0 count cs
      if ¬ n.isValidChar then none
      return (if count = 2 then .byte n else .literal n, cs)
    | none, some atom => some (atom, cs)
    | none, none => if c.toNat < 128 ∧ !c.isAlphanum then some (.literal c.toNat, cs) else none

/-- Reads a character in brackets, or an escape for a set of them, which has no number. -/
def member? (mode : Mode) : List Char → Option (Option Nat × List Char)
  | [] => none
  | '\\' :: cs => do
    let (atom, cs) ← escape? mode cs
    match atom with
    | .literal n | .byte n =>
      if mode.byCharacters || n < 128 then return (some n, cs) else none
    | .set _ => if atom.isMatchable mode then return (none, cs) else none
    | _ => none
  | c :: cs => if mode.byCharacters || c.toNat < 128 then some (some c.toNat, cs) else none

/-- The sets of characters below 128 that have names. -/
def namedSets : List String :=
  ["alnum", "alpha", "ascii", "blank", "cntrl", "digit", "graph", "lower", "print", "punct",
   "space", "upper", "word", "xdigit"]

/-- Reads a named set after its opening bracket, and says whether a caret asks for all others. -/
def namedSet? : List Char → Option (Bool × List Char)
  | ':' :: cs =>
    let isComplement := cs.head? = some '^'
    let cs := if isComplement then cs.drop 1 else cs
    match cs.dropWhile (· ≠ ':') with
    | ':' :: ']' :: after =>
      if namedSets.contains (String.ofList (cs.takeWhile (· ≠ ':'))) then
        some (isComplement, after)
      else none
    | _ => none
  | _ => none

/-- Open brackets: whether they ask for all others, what stands in front of the last sign between
sets with that sign, and whether the sets after it hold bytes above 127. -/
structure Brackets where
  isComplement : Bool := false
  before : Option (Char × Bool) := none
  isWide : Bool := false

namespace Brackets

/-- Whether all that was read holds bytes above 127. The signs ask for what sets have in common, for
what the second has not, or for what only one of them has. -/
def joined (b : Brackets) : Bool :=
  match b.before with
  | none => b.isWide
  | some ('&', before) => before && b.isWide
  | some ('-', before) => before && !b.isWide
  | some (_, before) => before != b.isWide

/-- One more set is read. -/
def add (b : Brackets) (isWide : Bool) : Brackets := { b with isWide := b.isWide || isWide }

/-- A sign between sets is read. -/
def divide (b : Brackets) (sign : Char) : Brackets :=
  { b with before := some (sign, b.joined), isWide := false }

/-- Whether brackets can be closed. In a pattern that is read by bytes they may hold none above
127. -/
def canClose (b : Brackets) (mode : Mode) : Bool := mode.byCharacters || b.joined = b.isComplement

end Brackets

/-- Reads what follows an opening bracket: a caret, which asks for all others, and dashes or a
closing bracket that stand for themselves. -/
def openBrackets (mode : Mode) (cs : List Char) : Brackets × List Char :=
  match mode.skip cs with
  | '^' :: cs => ({ isComplement := true }, literals (mode.skip cs))
  | cs => ({}, literals cs)
where
  literals : List Char → List Char
    | ']' :: cs => cs
    | cs => cs.dropWhile (· = '-')

/-- What follows open brackets, the innermost first. They hold characters, ranges and brackets, and
the signs between sets. -/
def afterBrackets? (mode : Mode) : (fuel : Nat) → List Brackets → List Char → Option (List Char)
  | _, [], cs => some cs
  | 0, _, _ => none
  | fuel + 1, b :: outer, cs =>
    match mode.skip cs with
    | [] => none
    | '[' :: cs =>
      match namedSet? cs with
      | some (isComplement, cs) => afterBrackets? mode fuel (b.add isComplement :: outer) cs
      | none =>
        let (inner, cs) := openBrackets mode cs
        afterBrackets? mode fuel (inner :: b :: outer) cs
    | ']' :: cs => if b.canClose mode then afterBrackets? mode fuel outer cs else none
    | '&' :: '&' :: cs => afterBrackets? mode fuel (b.divide '&' :: outer) cs
    | '-' :: '-' :: cs => afterBrackets? mode fuel (b.divide '-' :: outer) cs
    | '~' :: '~' :: cs => afterBrackets? mode fuel (b.divide '~' :: outer) cs
    | cs => do
      let (low, cs) ← member? mode cs
      match mode.skip cs with
      | '-' :: after =>
        let next := (mode.skip after).head?
        if next = some ']' ∨ next = some '-' then
          afterBrackets? mode fuel (b :: outer) ('-' :: after)
        else
          let (high, cs) ← member? mode (mode.skip after)
          let low ← low
          let high ← high
          if high < low then none else afterBrackets? mode fuel (b :: outer) cs
      | cs => afterBrackets? mode fuel (b :: outer) cs

/-- What the beginning of a group says: whether a group is open after it, the name of the group, and
how the pattern is read from there on. -/
structure GroupHead where
  isOpen : Bool
  name : List Char := []
  mode : Mode
  after : List Char

/-- Reads the name of a group. -/
def groupName? (mode : Mode) (cs : List Char) : Option GroupHead :=
  let isNameChar (c : Char) : Bool := isAlphanumeric c || "_.[]".contains c
  match cs.takeWhile isNameChar, cs.dropWhile isNameChar with
  | c :: name, '>' :: after =>
    if c = '_' ∨ isAlphanumeric c ∧ !c.isDigit then
      some { isOpen := true, name := c :: name, mode, after }
    else none
  | _, _ => none

/-- A flag after a change by letters, of which those after a dash take theirs back. -/
def flagAfter (letters : List Char) (letter : Char) (flag : Bool) : Bool :=
  if (letters.takeWhile (· ≠ '-')).contains letter then true
  else flag && !letters.contains letter

/-- Reads what follows an opening parenthesis and a question mark: a name, or letters that change
the reading, each once. -/
def groupHead? (mode : Mode) : List Char → Option GroupHead
  | 'P' :: '<' :: cs => groupName? mode cs
  | '<' :: cs => groupName? mode cs
  | cs =>
    let letters := cs.takeWhile fun c => c ≠ ':' ∧ c ≠ ')'
    let isRefused := letters.any (fun c => !"imsUuRx-".contains c) ||
      letters.getLast? = some '-' || letters.eraseDups.length ≠ letters.length
    let mode : Mode :=
      { byCharacters := flagAfter letters 'u' mode.byCharacters
        ignoresCase := flagAfter letters 'i' mode.ignoresCase
        ignoresBlanks := flagAfter letters 'x' mode.ignoresBlanks }
    match isRefused, cs.drop letters.length with
    | false, ':' :: after => some { isOpen := true, mode, after }
    | false, ')' :: after =>
      if letters.isEmpty then none else some { isOpen := false, mode, after }
    | _, _ => none

/-- A place in a pattern: how it is read there, how outside each group around it, and the names of
the groups so far. -/
structure Place where
  mode : Mode := {}
  outer : List Mode := []
  names : List (List Char) := []

/-- Whether a text can go on at a place. With `hasOperand`, there is something that can be
repeated. -/
def isRest : (fuel : Nat) → Place → (hasOperand : Bool) → List Char → Bool
  | 0, _, _, _ => false
  | fuel + 1, place, hasOperand, cs =>
    match place.mode.skip cs with
    | [] => place.outer.isEmpty
    | '\\' :: cs =>
      match escape? place.mode cs with
      | none => false
      | some (atom, cs) => atom.isMatchable place.mode && isRest fuel place true cs
    | '(' :: cs =>
      match place.mode.skip cs with
      | '?' :: cs =>
        match groupHead? place.mode cs with
        | none => false
        | some head =>
          let outer := if head.isOpen then place.mode :: place.outer else place.outer
          let names := if head.name.isEmpty then place.names else head.name :: place.names
          !place.names.contains head.name &&
            isRest fuel { mode := head.mode, outer, names } false head.after
      | cs => isRest fuel { place with outer := place.mode :: place.outer } false cs
    | ')' :: cs =>
      match place.outer with
      | [] => false
      | mode :: outer => isRest fuel { place with mode, outer } true cs
    | '|' :: cs => isRest fuel place false cs
    | '[' :: cs =>
      let (b, cs) := openBrackets place.mode cs
      match afterBrackets? place.mode (cs.length + 2) [b] cs with
      | none => false
      | some cs => place.mode.canCompare && isRest fuel place true cs
    | c :: cs =>
      if c = '*' ∨ c = '+' ∨ c = '?' then hasOperand && isRest fuel place true cs
      else if c = '^' ∨ c = '$' then isRest fuel place true cs
      else if c = '.' then place.mode.byCharacters && isRest fuel place true cs
      else c ≠ '\x7b' && place.mode.canCompare && isRest fuel place true cs

/-- Whether a text is a pattern. -/
def isValid (cs : List Char) : Bool := isRest (cs.length + 1) {} false cs

end CrossCall.Journal.Pattern
