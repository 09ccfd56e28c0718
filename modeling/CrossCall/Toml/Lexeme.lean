import CrossCall.Data.Basic
import CrossCall.Toml.Date
import CrossCall.Toml.Number

/-!
# Lexemes of configuration files

Blanks, comments, quoted texts, keys and bare words. Every reader takes the characters that are left
and returns what it read and what is left after it.

## Main definitions

* `Toml.lineEnd?` — the rest of a line that may hold a comment
* `Toml.quoted?` — the four forms of quoted texts
* `Toml.key?` — a path of names separated by dots
* `Toml.word?` — truth values, numbers and dates
-/

namespace CrossCall.Toml

/-- Blanks within a line. -/
def isSpace (c : Char) : Bool := c = ' ' || c = '\t'

/-- Characters that stand for themselves in comments and quoted texts: all but control characters
other than the tabulator. -/
def isPlain (c : Char) : Bool := c = '\t' || (32 ≤ c.toNat && c.toNat ≠ 127)

/-- Skips blanks. -/
def skipSpaces (cs : List Char) : List Char := cs.dropWhile isSpace

/-- A line break. -/
def newline? : List Char → Option (List Char)
  | '\n' :: cs => some cs
  | '\r' :: '\n' :: cs => some cs
  | _ => none

/-- Skips a comment, if one stands here. -/
def skipComment : List Char → List Char
  | '#' :: cs => cs.dropWhile isPlain
  | cs => cs

/-- The end of a line: blanks, perhaps a comment, and a line break or the end of the file. -/
def lineEnd? (cs : List Char) : Option (List Char) :=
  match skipComment (skipSpaces cs) with
  | [] => some []
  | rest => newline? rest

/-- Skips blanks, line breaks and comments between the items of a list. -/
def skipLines (inComment : Bool) : List Char → Option (List Char)
  | [] => some []
  | '\n' :: cs => skipLines false cs
  | '\r' :: '\n' :: cs => skipLines false cs
  | c :: cs =>
    if inComment then if isPlain c then skipLines true cs else none
    else if isSpace c then skipLines false cs
    else if c = '#' then skipLines true cs
    else some (c :: cs)

/-- The number that hexadecimal digits write. -/
def hexNumber? (digits : List Char) : Option Nat :=
  digits.foldlM (fun n c =>
    if c.toNat < 128 then (Hex.digit? (UInt8.ofNat c.toNat)).map (n * 16 + ·) else none) 0

/-- The character that hexadecimal digits name. -/
def hexCharacter? (digits : List Char) : Option Char := do
  let n ← hexNumber? digits
  if n.isValidChar then some (Char.ofNat n) else none

/-- The character that a letter after a backslash stands for. -/
def escape? : Char → Option Char
  | 'b' => some '\x08'
  | 't' => some '\t'
  | 'n' => some '\n'
  | 'f' => some '\x0c'
  | 'r' => some '\r'
  | '"' => some '"'
  | '\\' => some '\\'
  | _ => none

/-- Puts a character in front of what was read. -/
def cons? (c : Char) (r : Option (List Char × List Char)) : Option (List Char × List Char) :=
  r.map fun (text, rest) => (c :: text, rest)

/-- The text up to a closing quotation mark, with escapes. -/
def basic? : List Char → Option (List Char × List Char)
  | '"' :: cs => some ([], cs)
  | '\\' :: 'u' :: a :: b :: c :: d :: cs => do
    let x ← hexCharacter? [a, b, c, d]
    cons? x (basic? cs)
  | '\\' :: 'U' :: a :: b :: c :: d :: e :: f :: g :: h :: cs => do
    let x ← hexCharacter? [a, b, c, d, e, f, g, h]
    cons? x (basic? cs)
  | '\\' :: c :: cs => do
    let x ← escape? c
    cons? x (basic? cs)
  | c :: cs => if isPlain c && c != '\\' then cons? c (basic? cs) else none
  | [] => none

/-- The text up to a closing apostrophe, without escapes. -/
def literal? : List Char → Option (List Char × List Char)
  | '\'' :: cs => some ([], cs)
  | c :: cs => if isPlain c then cons? c (literal? cs) else none
  | [] => none

/-- Where a reader of several lines stands: in the text, after a backslash that must end its line,
or in the blanks after such a line. -/
inductive LineState
  | text
  | continued
  | skipping

/-- The text of several lines up to three quotation marks, with escapes. A backslash at the end of a
line drops the blanks and line breaks after it. Of more than three marks the first two belong to the
text. -/
def basicLines? (state : LineState) : List Char → Option (List Char × List Char)
  | [] => none
  | '"' :: '"' :: '"' :: cs =>
    match state, cs with
    | .continued, _ => none
    | _, '"' :: '"' :: rest => some (['"', '"'], rest)
    | _, '"' :: rest => some (['"'], rest)
    | _, rest => some ([], rest)
  | '\r' :: '\n' :: cs =>
    match state with
    | .text => cons? '\n' (basicLines? .text cs)
    | _ => basicLines? .skipping cs
  | '\n' :: cs =>
    match state with
    | .text => cons? '\n' (basicLines? .text cs)
    | _ => basicLines? .skipping cs
  | '\\' :: 'u' :: a :: b :: c :: d :: cs =>
    match state with
    | .continued => none
    | _ => do
      let x ← hexCharacter? [a, b, c, d]
      cons? x (basicLines? .text cs)
  | '\\' :: 'U' :: a :: b :: c :: d :: e :: f :: g :: h :: cs =>
    match state with
    | .continued => none
    | _ => do
      let x ← hexCharacter? [a, b, c, d, e, f, g, h]
      cons? x (basicLines? .text cs)
  | '\\' :: c :: cs =>
    match state, escape? c with
    | .continued, _ => none
    | _, some x => cons? x (basicLines? .text cs)
    | _, none =>
      if isSpace c then basicLines? .continued cs
      else if c = '\n' then basicLines? .skipping cs
      else if c = '\r' then
        match cs with
        | '\n' :: rest => basicLines? .skipping rest
        | _ => none
      else none
  | c :: cs =>
    match state with
    | .text => if isPlain c && c != '\\' then cons? c (basicLines? .text cs) else none
    | .continued => if isSpace c then basicLines? .continued cs else none
    | .skipping =>
      if isSpace c then basicLines? .skipping cs
      else if isPlain c && c != '\\' then cons? c (basicLines? .text cs)
      else none

/-- The text of several lines up to three apostrophes, without escapes. -/
def literalLines? : List Char → Option (List Char × List Char)
  | [] => none
  | '\'' :: '\'' :: '\'' :: cs =>
    match cs with
    | '\'' :: '\'' :: rest => some (['\'', '\''], rest)
    | '\'' :: rest => some (['\''], rest)
    | rest => some ([], rest)
  | '\r' :: '\n' :: cs => cons? '\n' (literalLines? cs)
  | c :: cs => if isPlain c || c = '\n' then cons? c (literalLines? cs) else none

/-- A line break right after an opening of three quotes does not count. -/
def dropNewline (cs : List Char) : List Char := (newline? cs).getD cs

/-- A quoted text on one line. -/
def quotedLine? : List Char → Option (String × List Char)
  | '"' :: cs => (basic? cs).map fun (text, rest) => (String.ofList text, rest)
  | '\'' :: cs => (literal? cs).map fun (text, rest) => (String.ofList text, rest)
  | _ => none

/-- A quoted text. -/
def quoted? : List Char → Option (String × List Char)
  | '"' :: '"' :: '"' :: cs =>
    (basicLines? .text (dropNewline cs)).map fun (text, rest) => (String.ofList text, rest)
  | '\'' :: '\'' :: '\'' :: cs =>
    (literalLines? (dropNewline cs)).map fun (text, rest) => (String.ofList text, rest)
  | cs => quotedLine? cs

/-- Characters of names without quotes. -/
def isBare (c : Char) : Bool := c.isAlphanum || c = '-' || c = '_'

/-- A name: a quoted text on one line, or bare characters. -/
def name? (cs : List Char) : Option (String × List Char) :=
  match quotedLine? cs with
  | some r => some r
  | none =>
    let bare := cs.takeWhile isBare
    if bare.isEmpty then none else some (String.ofList bare, cs.dropWhile isBare)

/-- A path of at most `limit` names separated by dots, with blanks around them. -/
def path? : (limit : Nat) → List Char → Option (List String × List Char)
  | 0, _ => none
  | limit + 1, cs => do
    let (name, rest) ← name? (skipSpaces cs)
    match skipSpaces rest with
    | '.' :: rest => do
      let (names, rest) ← path? limit rest
      return (name :: names, rest)
    | rest => return ([name], rest)

/-- How deep values and paths may nest. -/
def maxDepth : Nat := 79

/-- A path of names. -/
def key? (cs : List Char) : Option (List String × List Char) := path? maxDepth cs

/-- Characters of words and numbers. -/
def isWordCharacter (c : Char) : Bool := isBare c || c = '+' || c = '.' || c = ':'

/-- A value without quotes or brackets. A blank may stand between a date and a time. -/
def word? (cs : List Char) : Option (Data × List Char) :=
  let word := cs.takeWhile isWordCharacter
  let rest := cs.dropWhile isWordCharacter
  let time := rest.drop 1
  if word = ['t', 'r', 'u', 'e'] then some (.bool true, rest)
  else if word = ['f', 'a', 'l', 's', 'e'] then some (.bool false, rest)
  else if isDate word && rest.head? = some ' ' && isClock (time.takeWhile isWordCharacter) then
    some (.foreign, time.dropWhile isWordCharacter)
  else
    match integer? word with
    | some i => some (.int i, rest)
    | none => if isFraction word || isMoment word then some (.foreign, rest) else none

end CrossCall.Toml
