import CrossCall.Domain.Name
import CrossCall.Text.IpAddress
import CrossCall.Url.Basic

/-!
# Hosts

## Main definitions

* `Url.parseHost` — the host of a scheme that needs one: a name or an address
* `Url.parsePlainHost` — the host of another scheme
-/

namespace CrossCall.Url

/-- A number in decimal, octal or hexadecimal. -/
def anyNumber? : List Char → Option Nat
  | '0' :: 'x' :: digits => if digits.isEmpty then some 0 else number? 16 digits
  | ['0'] => some 0
  | '0' :: digits => number? 8 digits
  | digits => number? 10 digits

/-- A host whose last label is a number has up to four numbers, of which the last one fills the
bytes that are left. -/
def ipv4? (host : List Char) : Option (Except UrlError Nat) :=
  let pieces := splitAtEach '.' host
  let endsInPoint := pieces.length > 1 ∧ pieces.getLast? = some []
  let labels := if endsInPoint then pieces.dropLast else pieces
  let isNumeric (cs : List Char) : Bool := (number? 10 cs).isSome || (anyNumber? cs).isSome
  if (labels.getLast?.map isNumeric).getD false then
    match labels.mapM anyNumber? with
    | none => some (.error .invalidIpv4)
    | some numbers =>
      let last := numbers.getLastD 0
      let first := numbers.dropLast
      let weight := 1 <<< (8 * (4 - first.length))
      if numbers.length > 4 ∨ first.any (· > 255) ∨ last ≥ weight then some (.error .invalidIpv4)
      else some (.ok (IpAddress.joined 256 first * weight + last))
  else none

/-- An address in brackets. -/
def parseBracketed (cs : List Char) : Except UrlError String :=
  match cs.getLast?, IpAddress.eightGroups? cs.dropLast with
  | some ']', some groups => .ok ("[" ++ IpAddress.textGroups groups ++ "]")
  | _, _ => .error .invalidIpv6

/-- The normal form of a host in a scheme that needs one. -/
def parseHost : List Char → Except UrlError String
  | '[' :: cs => parseBracketed cs
  | cs =>
    match (percentDecodeText? cs).bind fun s => Domain.toAscii? s.toList with
    | none => .error .internationalName
    | some [] => .error .emptyHost
    | some name =>
      match ipv4? name with
      | none => .ok (String.ofList name)
      | some n => n.map IpAddress.textV4

/-- The normal form of a host in a scheme that may do without one. -/
def parsePlainHost : List Char → Except UrlError String
  | '[' :: cs => parseBracketed cs
  | cs =>
    let isRefused (c : Char) : Bool := c.toNat = 0 || " #/:<>?@[\\]^|".contains c
    if cs.any isRefused then .error .invalidDomainCharacter
    else .ok (String.ofList (percentEncode "" cs))

end CrossCall.Url
