import CrossCall.Toml.Lexeme
import CrossCall.Toml.Table

/-!
# Reading configuration files

## Main definitions

* `Toml.value?` — a value: a text, a word, a list or an inline table
* `Toml.parse?` — the tree of a whole file, or nothing where it is malformed
-/

namespace CrossCall.Toml

mutual

/-- A value; lists and inline tables nest at most `depth` deep. -/
def value? : (limit depth : Nat) → List Char → Option (Data × List Char)
  | 0, _, _ => none
  | limit + 1, depth, cs =>
    match depth, cs with
    | 0, '[' :: _ | 0, '{' :: _ => none
    | depth + 1, '[' :: cs => do
      let (items, rest) ← items? limit depth cs
      return (.list items, rest)
    | depth + 1, '{' :: cs => do
      match skipSpaces cs with
      | '}' :: rest => return (.record [], rest)
      | rest => do
        let (entries, rest) ← pairs? limit depth [] rest
        return (.record (entriesToData entries), rest)
    | _, '"' :: _ | _, '\'' :: _ => (quoted? cs).map fun (s, rest) => (.text s, rest)
    | _, cs => word? cs

/-- The items of a list up to its closing bracket; a comma may stand after the last. -/
def items? : (limit depth : Nat) → List Char → Option (List Data × List Char)
  | 0, _, _ => none
  | limit + 1, depth, cs => do
    match ← skipLines false cs with
    | ']' :: rest => return ([], rest)
    | cs => do
      let (d, rest) ← value? limit depth cs
      match ← skipLines false rest with
      | ']' :: rest => return ([d], rest)
      | ',' :: rest => do
        let (ds, rest) ← items? limit depth rest
        return (d :: ds, rest)
      | _ => none

/-- The pairs of an inline table up to its closing brace, all on one line. -/
def pairs? : (limit depth : Nat) → Entries → List Char → Option (Entries × List Char)
  | 0, _, _, _ => none
  | limit + 1, depth, entries, cs => do
    let (key, rest) ← key? cs
    match rest with
    | '=' :: rest => do
      let (d, rest) ← value? limit depth (skipSpaces rest)
      let entries ← assign key d entries
      match skipSpaces rest with
      | '}' :: rest => return (entries, rest)
      | ',' :: rest => pairs? limit depth entries rest
      | _ => none
    | _ => none

end

/-- What has been read of a file: its tables, and the path of the last header. -/
structure Progress where
  entries : Entries := []
  header : List String := []

/-- A line with a header or a key and its value. -/
def line? (p : Progress) : List Char → Option (Progress × List Char)
  | '[' :: '[' :: cs => do
    let (path, rest) ← key? cs
    match rest with
    | ']' :: ']' :: rest => do
      let rest ← lineEnd? rest
      let entries ← openRow path p.entries
      return ({ entries, header := path }, rest)
    | _ => none
  | '[' :: cs => do
    let (path, rest) ← key? cs
    match rest with
    | ']' :: rest => do
      let rest ← lineEnd? rest
      let entries ← openTable path p.entries
      return ({ entries, header := path }, rest)
    | _ => none
  | cs => do
    let (key, rest) ← key? cs
    match rest with
    | '=' :: rest => do
      let (d, rest) ← value? (2 * cs.length) maxDepth (skipSpaces rest)
      let rest ← lineEnd? rest
      let entries ← atHeader p.header (assign key d) p.entries
      return ({ p with entries }, rest)
    | _ => none

/-- At most `limit` lines up to the end of the file. -/
def lines? : (limit : Nat) → Progress → List Char → Option Progress
  | 0, _, _ => none
  | limit + 1, p, cs =>
    match skipSpaces cs with
    | [] => some p
    | '#' :: _ | '\n' :: _ | '\r' :: _ => do
      let rest ← lineEnd? cs
      lines? limit p rest
    | cs => do
      let (p, rest) ← line? p cs
      lines? limit p rest

/-- The tree of a file. It has no more lines than characters, and one. -/
def parse? (s : String) : Option Data := do
  let cs :=
    match s.toList with
    | '\uFEFF' :: cs => cs
    | cs => cs
  let p ← lines? (cs.length + 1) {} cs
  return .record (entriesToData p.entries)

end CrossCall.Toml
