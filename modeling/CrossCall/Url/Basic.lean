import CrossCall.Url.Percent

/-!
# URLs

## Main definitions

* `Url` — a URL in its normal form, `Url.text`
* `Url.withoutCredentials` — the URL under which a request is sent
* `UrlError` — what can be wrong with a URL
-/

namespace CrossCall

/-- What is wrong with a URL. -/
inductive UrlError
  | emptyHost
  | internationalName
  | invalidPort
  | invalidIpv4
  | invalidIpv6
  | invalidDomainCharacter
  | noScheme
deriving DecidableEq

/-- A URL in its normal form. Without a host there is neither user nor port; a host can be empty.
-/
structure Url where
  scheme : String
  username : String := ""
  password : Option String := none
  host : Option String := none
  port : Option Nat := none
  path : String := ""
  query : Option String := none
  fragment : Option String := none
deriving DecidableEq

namespace Url

/-- The user with an at sign, unless there is none. -/
def credentials (u : Url) : String :=
  let password := (u.password.map (":" ++ ·)).getD ""
  if u.username.isEmpty && u.password.isNone then "" else u.username ++ password ++ "@"

/-- The text of a URL. Two slashes at the beginning of a path are not those of a host. -/
def text (u : Url) : String :=
  let authority :=
    match u.host with
    | some host => "//" ++ u.credentials ++ host ++ (u.port.map fun n => s!":{n}").getD ""
    | none => if u.path.startsWith "//" then "/." else ""
  let query := (u.query.map ("?" ++ ·)).getD ""
  let fragment := (u.fragment.map ("#" ++ ·)).getD ""
  u.scheme ++ ":" ++ authority ++ u.path ++ query ++ fragment

/-- The URL under which a request is sent: the user goes into the request, unless the bytes of the
name are no text, or there is only a password and its bytes are none. -/
def withoutCredentials (u : Url) : Url :=
  let isText (s : String) : Bool := (percentDecodeText? s.toList).isSome
  if isText u.username && (!u.username.isEmpty || (u.password.map isText).getD false) then
    { u with username := "", password := none }
  else u

/-- Whether a request can be built for a URL: it is reached by HTTP, its host is of characters that
requests can hold, and its text is not too long for one. -/
def isReachable (u : Url) : Bool :=
  let canHold (c : Char) : Bool := !"\"\x60\x7b\x7d".contains c
  (u.scheme = "http" || u.scheme = "https") && (u.host.getD "").all canHold &&
    u.withoutCredentials.text.utf8ByteSize < 65535

end Url

end CrossCall
