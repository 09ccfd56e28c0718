import CrossCall.Data.Basic
import CrossCall.Text.Decimal

/-!
# Lexemes of JSON texts

A JSON text consists of brackets, braces, commas, colons, and values without parts: quoted texts,
numbers, truth values and null. White space may stand between them. A text is read one character at
a time; a character ends a number or a word if it cannot go on with it.

## Main definitions

* `Json.Lexeme` — a mark, or a value without parts
* `Json.word?` — numbers, truth values and null
* `Json.Mode.next` — what a character brings to an end
* `Json.lexemes?` — the lexemes of a text
-/

namespace CrossCall.Json

/-- What a text consists of: marks, and values without parts. -/
inductive Lexeme
  | mark (c : Char)
  | scalar (d : Data)

/-- White space between lexemes. -/
def isSpace (c : Char) : Bool := c = ' ' || c = '\n' || c = '\t' || c = '\r'

/-- The marks that hold values together. -/
def isMark (c : Char) : Bool := ['[', ']', '{', '}', ',', ':'].contains c

/-- Characters of numbers and words. -/
def isWordCharacter (c : Char) : Bool := c.isAlphanum || c = '+' || c = '-' || c = '.'

/-! ### Words -/

/-- The number that decimal digits without a leading zero write. -/
def whole? : List Char → Option Nat
  | '0' :: _ :: _ => none
  | cs => number? 10 cs

/-- Whether a number with a fraction or an exponent is well formed, from the point or the letter on,
and not past the greatest double. -/
def isFraction (unsigned rest : List Char) : Bool :=
  let isDivided :=
    match rest with
    | '.' :: c :: _ => c.isDigit
    | '.' :: [] => false
    | _ => true
  isDivided && (Decimal.parse? unsigned).any fun d => d.toDouble?.isSome

/-- A number. It is an integer if it has neither fraction nor exponent and fits into 64 bits, with a
sign or without; a zero with a sign is none. -/
def numeral? (isNegative : Bool) (unsigned : List Char) : Option Data := do
  let rest := unsigned.dropWhile Char.isDigit
  let n ← whole? (unsigned.takeWhile Char.isDigit)
  if rest.isEmpty && !isNegative && n < Nat.pow 2 64 then some (.int n)
  else if rest.isEmpty && isNegative && 0 < n && n ≤ Nat.pow 2 63 then some (.int (-n))
  else if isFraction unsigned rest then some .foreign
  else none

/-- A value without quotes or brackets. -/
def word? (word : List Char) : Option Data :=
  if word = ['n', 'u', 'l', 'l'] then some .null
  else if word = ['t', 'r', 'u', 'e'] then some (.bool true)
  else if word = ['f', 'a', 'l', 's', 'e'] then some (.bool false)
  else
    match word with
    | '-' :: unsigned => numeral? true unsigned
    | unsigned => numeral? false unsigned

/-! ### Quoted texts -/

/-- The character that a letter after a backslash stands for. -/
def escape? : Char → Option Char
  | '"' => some '"'
  | '\\' => some '\\'
  | '/' => some '/'
  | 'b' => some '\x08'
  | 'f' => some '\x0c'
  | 'n' => some '\n'
  | 'r' => some '\r'
  | 't' => some '\t'
  | _ => none

/-- The number of a character beyond the first 65536, of which the first or the second half is
given. -/
def isHalf (isSecond : Bool) (n : Nat) : Bool := n / 1024 = if isSecond then 55 else 54

/-- The character that digits after `\u` name. One beyond the first 65536 is named in two halves,
with `\u` between them. -/
def named? : List Char → Option Char
  | [a, b, c, d] => do
    let n ← number? 16 [a, b, c, d]
    if n.isValidChar then some (Char.ofNat n) else none
  | [a, b, c, d, '\\', 'u', e, f, g, h] => do
    let first ← number? 16 [a, b, c, d]
    let second ← number? 16 [e, f, g, h]
    if isHalf false first && isHalf true second then
      some (Char.ofNat (65536 + first % 1024 * 1024 + second % 1024))
    else none
  | _ => none

/-- Whether what stands after `\u` may go on: there are less than four digits, or there is the first
of two halves. -/
def isUnfinished (digits : List Char) : Bool :=
  digits.length < 4 || (digits.length < 10 && (number? 16 (digits.take 4)).any (isHalf false))

/-! ### Reading -/

/-- Where a reader stands: between lexemes, in a word, in a quoted text, after a backslash in it, or
after `\u`. The characters that were read come last first, the digits after `\u` in order. -/
inductive Mode
  | between
  | word (cs : List Char)
  | quoted (cs : List Char)
  | escape (cs : List Char)
  | named (cs digits : List Char)

namespace Mode

/-- What a character does between lexemes. -/
def start (c : Char) : Option (Mode × List Lexeme) :=
  if isSpace c then some (between, [])
  else if isMark c then some (between, [.mark c])
  else if c = '"' then some (quoted [], [])
  else if isWordCharacter c then some (word [c], [])
  else none

/-- What a character does, and the lexemes that it brings to an end. -/
def next : Mode → Char → Option (Mode × List Lexeme)
  | between, c => start c
  | word cs, c =>
    if isWordCharacter c then some (word (c :: cs), [])
    else do
      let d ← word? cs.reverse
      let (mode, lexemes) ← start c
      return (mode, .scalar d :: lexemes)
  | quoted cs, c =>
    if c = '"' then some (between, [.scalar (.text (String.ofList cs.reverse))])
    else if c = '\\' then some (escape cs, [])
    else if c.toNat < 32 then none
    else some (quoted (c :: cs), [])
  | escape cs, c =>
    if c = 'u' then some (named cs [], []) else (escape? c).map fun x => (quoted (x :: cs), [])
  | named cs digits, c =>
    let digits := digits ++ [c]
    match named? digits with
    | some x => some (quoted (x :: cs), [])
    | none => if isUnfinished digits then some (named cs digits, []) else none

/-- What the end of the text brings to an end. -/
def finish : Mode → Option (List Lexeme)
  | between => some []
  | word cs => (word? cs.reverse).map fun d => [.scalar d]
  | _ => none

end Mode

/-- The lexemes of a text, from a mode on. -/
def lexemes? (mode : Mode) : List Char → Option (List Lexeme)
  | [] => mode.finish
  | c :: cs => do
    let (mode, ended) ← mode.next c
    let rest ← lexemes? mode cs
    return ended ++ rest

end CrossCall.Json
