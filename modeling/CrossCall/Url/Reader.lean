import CrossCall.Url.Host
import CrossCall.Url.Path

/-!
# Reading URLs

## Main definitions

* `Url.parse` — reads a URL, or says what is wrong with it
-/

namespace CrossCall.Url

/-- The schemes whose URLs name a host, with the port that is left out. -/
def hostSchemes : List (String × Nat) :=
  [("http", 80), ("https", 443), ("ws", 80), ("wss", 443), ("ftp", 21)]

/-- The text without blanks around it and without tabs and line breaks. -/
def cleaned (s : String) : List Char :=
  let blank (c : Char) : Bool := c.toNat ≤ 32
  (((s.toList.dropWhile blank).reverse.dropWhile blank).reverse).filter fun c =>
    c ≠ '\t' ∧ c ≠ '\n' ∧ c ≠ '\r'

/-- The scheme, in small letters, and what follows its colon. -/
def scheme? (cs : List Char) : Option (String × List Char) :=
  let isPart (c : Char) : Bool := c.isAlphanum || c = '+' || c = '-' || c = '.'
  match cs.takeWhile isPart, cs.dropWhile isPart with
  | first :: word, ':' :: rest =>
    if first.isAlpha then some (String.ofList ((first :: word).map Char.toLower), rest) else none
  | _, _ => none

/-- The query and the fragment of a URL, after its path. -/
def withQuery (u : Url) (isSpecial : Bool) (cs : List Char) : Url :=
  let reserved := if isSpecial then " \"#<>'" else " \"#<>"
  let (before, after) := cs.span (· ≠ '#')
  let query := before.tail?.map fun q => String.ofList (percentEncode reserved q)
  let fragment := after.tail?.map fun f => String.ofList (percentEncode reservedInFragment f)
  { u with query, fragment }

/-- The path, query and fragment of a URL, from the first segment on. -/
def withSegments (u : Url) (isSpecial : Bool) (cs : List Char) : Url :=
  let isEnd (c : Char) : Bool := c = '?' || c = '#'
  let isFile := u.scheme = "file"
  let p := Path.resolve isSpecial isFile (cs.takeWhile (!isEnd ·))
  let host := if isFile && p.onDrive then some "" else u.host
  { u with host, path := p.text }.withQuery isSpecial (cs.dropWhile (!isEnd ·))

/-- The path, query and fragment of a URL after its host. The path of a special URL is not empty. -/
def withPath (u : Url) (isSpecial : Bool) (cs : List Char) : Url :=
  match cs with
  | '/' :: cs => u.withSegments isSpecial cs
  | '\\' :: rest => u.withSegments isSpecial (if isSpecial then rest else cs)
  | cs => if isSpecial then u.withSegments true cs else u.withQuery false cs

/-- Splits credentials from what follows the last at sign. -/
def splitCredentials (cs : List Char) : Option (List Char) × List Char :=
  match cs.reverse.span (· ≠ '@') with
  | (hostReversed, '@' :: before) => (some before.reverse, hostReversed.reverse)
  | _ => (none, cs)

/-- The user of a URL: a name, and a password after a colon, unless it is empty. -/
def withCredentials (u : Url) (cs : List Char) : Url :=
  let reserved := reservedInPath ++ "/:;=@[\\]^|"
  let (username, after) := cs.span (· ≠ ':')
  let password := after.tail
  { u with
    username := String.ofList (percentEncode reserved username)
    password :=
      if password.isEmpty then none else some (String.ofList (percentEncode reserved password)) }

/-- Splits a host from what follows it at the first colon outside brackets. -/
def splitPort (inBrackets : Bool) : List Char → List Char × Option (List Char)
  | [] => ([], none)
  | ':' :: cs =>
    if inBrackets then
      let (host, port) := splitPort true cs
      (':' :: host, port)
    else ([], some cs)
  | c :: cs =>
    let (host, port) := splitPort ((inBrackets || c = '[') && c != ']') cs
    (c :: host, port)

/-- The port, unless it is the one that is left out, and what is left of the authority after a
backslash. -/
def parsePort (usual : Option Nat) (cs : List Char) : Except UrlError (Option Nat × List Char) :=
  let digits := cs.takeWhile Char.isDigit
  let rest := cs.dropWhile Char.isDigit
  if rest.head?.getD '\\' ≠ '\\' then .error .invalidPort
  else
    match number? 10 digits with
    | none => .ok (none, rest)
    | some n =>
      if n ≥ 65536 then .error .invalidPort
      else .ok (if usual = some n then none else some n, rest)

/-- The URL after a scheme and two slashes. A scheme with a usual port is special and needs a host,
and so does a user or a port. -/
def parseAuthority (scheme : String) (usual : Option Nat) (cs : List Char) :
    Except UrlError Url := do
  let isSpecial := usual.isSome
  let inAuthority (c : Char) : Bool := c ≠ '/' && c ≠ '?' && c ≠ '#' && (c ≠ '\\' || !isSpecial)
  let after := cs.dropWhile inAuthority
  let (credentials, rest) := splitCredentials (cs.takeWhile inAuthority)
  if credentials = some [] ∧ rest.isEmpty ∧ ¬ after.isEmpty then throw .emptyHost
  let (hostPart, portPart) := splitPort false rest
  if hostPart.isEmpty ∧ isSpecial then throw .emptyHost
  let host ← if isSpecial then parseHost hostPart else parsePlainHost hostPart
  if host.isEmpty ∧ portPart.isSome then throw .emptyHost
  let (port, left) ← parsePort usual (portPart.getD [])
  let u := ({ scheme, host := some host, port } : Url).withCredentials (credentials.getD [])
  if host.isEmpty ∧ ¬ u.credentials.isEmpty then throw .emptyHost
  return u.withPath isSpecial (left ++ after)

/-- The URL of a file. Its host, which is not the machine itself, can only be given after two
slashes, where a drive is taken for the beginning of the path. -/
def parseFile (cs : List Char) : Except UrlError Url := do
  let isSlash (c : Char) : Bool := c = '/' || c = '\\'
  let u : Url := { scheme := "file", host := some "" }
  match cs with
  | a :: b :: rest =>
    if isSlash a && isSlash b then
      let inHost (c : Char) : Bool := !isSlash c && c ≠ '?' && c ≠ '#'
      let name := rest.takeWhile inHost
      if name.isEmpty || isDrive name then return u.withSegments true rest
      let host ← parseHost name
      let after := rest.dropWhile inHost
      if host = "localhost" then return u.withSegments true after
      return { u with host := some host }.withPath true after
    else return u.withSegments true (if isSlash a then b :: rest else cs)
  | [a] => return u.withSegments true (if isSlash a then [] else cs)
  | [] => return u.withSegments true []

/-- Reads a URL. -/
def parse (s : String) : Except UrlError Url :=
  match scheme? (cleaned s) with
  | none => .error .noScheme
  | some ("file", cs) => parseFile cs
  | some (scheme, cs) =>
    match hostSchemes.lookup scheme, cs with
    | some usual, cs =>
      parseAuthority scheme (some usual) (cs.dropWhile fun c => c = '/' || c = '\\')
    | none, '/' :: '/' :: cs => parseAuthority scheme none cs
    | none, '/' :: cs => .ok ({ scheme : Url }.withSegments false cs)
    | none, cs =>
      let isEnd (c : Char) : Bool := c = '?' || c = '#'
      let path := String.ofList (percentEncode "" (cs.takeWhile (!isEnd ·)))
      .ok ({ scheme, path : Url }.withQuery false (cs.dropWhile (!isEnd ·)))

end CrossCall.Url
