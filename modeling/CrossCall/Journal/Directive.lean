import CrossCall.Journal.Field
import CrossCall.Journal.Settings
import CrossCall.Text.Blank

/-!
# Directives of the journal's filter

A directive sets a threshold for a target, for what happens inside a span or inside a span with a
field, or for everything: `target[span{field=value}]=threshold`. Each part may be left out.

## Main definitions

* `Journal.Directive` — a directive
* `Journal.Directive.parse?` — reads a directive
* `Journal.Directive.texts` — the texts under which it is listed
-/

namespace CrossCall.Journal

/-- A threshold for a target, for a span, for a span with a field, or for everything. -/
structure Directive where
  target : Option String := none
  span : Option String := none
  field : Option Field := none
  threshold : Threshold := .trace
deriving DecidableEq

namespace Directive

/-- Whether two directives are about the same lines. -/
def sameScope (d e : Directive) : Bool :=
  d.target = e.target && d.span = e.span &&
    match d.field, e.field with
    | none, none => true
    | some f, some g => f.matchesSame g
    | _, _ => false

/-- Whether a directive is about everything. -/
def isGeneral (d : Directive) : Bool := d.target.isNone && d.span.isNone && d.field.isNone

/-- The text of a directive. -/
def text (d : Directive) : String :=
  let field := (d.field.map fun f => "\x7b" ++ f.text ++ "\x7d").getD ""
  let inside :=
    if d.span.isNone && d.field.isNone then "" else "[" ++ d.span.getD "" ++ field ++ "]"
  if d.isGeneral then d.threshold.name else d.target.getD "" ++ inside ++ "=" ++ d.threshold.name

/-- The texts under which a directive is listed. One that asks for a field of any span, whatever its
value, concerns spans and single lines alike and is listed for both. -/
def texts (d : Directive) : List String :=
  let asksForField := d.span.isNone && (d.field.map fun f => f.value.isNone).getD false
  if asksForField then [d.text, d.text] else [d.text]

/-- A number without sign, or with a plus sign. -/
def verbosity? : List Char → Option Nat
  | '+' :: cs => number? 10 cs
  | cs => number? 10 cs

/-- The threshold that a word in any letters, or a number up to five, names. -/
def threshold? (s : String) : Option Threshold :=
  match verbosity? s.toList with
  | some n => if n ≤ 5 then some (.ofVerbosity n) else none
  | none => Threshold.words.lookup (String.ofList (s.toList.map Char.toLower))

/-- The threshold after an equals sign. Without a word every line passes. -/
def ending? (s : String) : Option Threshold := if s.isEmpty then some .trace else threshold? s

/-- What is being read, and where it began. After `scope`, only a threshold may follow. -/
inductive Part
  | start
  | word (first : Nat)
  | span (first : Nat)
  | field (first : Nat)
  | fieldEnd
  | scope
  | threshold (first : Nat)

/-- The characters that a directive may begin with. -/
def isFirst (c : Char) : Bool := isAlphanumeric c || "-:_".contains c

/-- The part that a character at an offset belongs to, and the directive with what has been read
before it. A part of the text is given by its ends. -/
def step? (part? : Nat → Nat → Option String) (d : Directive) (offset : Nat) (c : Char) :
    Part → Option (Directive × Part)
  | .start =>
    if c = '[' then some (d, .span (offset + 1))
    else if isFirst c then some (d, .word offset)
    else none
  | .word first =>
    if c = '=' ∨ c = '[' then do
      let target ← part? first offset
      let next := if c = '=' then .threshold (offset + 1) else .span (offset + 1)
      return ({ d with target := some target }, next)
    else some (d, .word first)
  | .span first =>
    if c = ']' then do
      let span ← part? first offset
      return ({ d with span := some span }, .scope)
    else if c = '\x7b' then do
      let span ← part? first offset
      return ({ d with span := if span.isEmpty then none else some span }, .field (offset + 1))
    else some (d, .span first)
  | .field first =>
    if c = '\x7d' then do
      let text ← part? first offset
      if text.isEmpty then none
      let field ← Field.parse? text
      return ({ d with field := some field }, .fieldEnd)
    else some (d, .field first)
  | .fieldEnd => if c = ']' then some (d, .scope) else none
  | .scope => if c = '=' then some (d, .threshold (offset + 1)) else none
  | .threshold first => some (d, .threshold first)

/-- Reads characters from an offset on, and gives the last part. -/
def scan? (part? : Nat → Nat → Option String) (d : Directive) (offset : Nat) (part : Part) :
    List Char → Option (Directive × Part)
  | [] => some (d, part)
  | c :: cs => do
    let (d, part) ← step? part? d offset c part
    scan? part? d (offset + c.utf8Size) part cs

/-- The bytes of a text between two offsets, if they are a text. -/
def slice? (bs : Bytes) (first last : Nat) : Option String :=
  String.fromUTF8? (ByteArray.mk ((bs.take last).drop first).toArray)

/-- Reads a directive. Its parts are told apart without the white space around the text, but they
are cut from the whole text at the same offsets: a directive after white space is not what it looks
like, and white space at the end belongs to the last part. -/
def parse? (s : String) : Option Directive := do
  let bs := Bytes.ofText s
  let (d, part) ← scan? (slice? bs) {} 0 .start (trimBlank s).toList
  match part with
  | .word first =>
    let word ← slice? bs first bs.length
    match threshold? word with
    | some threshold => return { d with threshold }
    | none => return { d with target := some word }
  | .threshold first =>
    let threshold ← (slice? bs first bs.length).bind ending?
    return { d with threshold }
  | .scope => return d
  | _ => none

end Directive

end CrossCall.Journal
