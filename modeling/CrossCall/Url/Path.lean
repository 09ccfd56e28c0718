import CrossCall.Text.Number
import CrossCall.Url.Percent

/-!
# Paths of URLs

A path is a row of segments. A segment that is a dot, or a percent byte for one, names the directory
itself, and two of them the directory above.

## Main definitions

* `Url.Path` — the segments of a path
* `Url.Path.resolve` — follows the segments of a path as it is given
-/

namespace CrossCall.Url

/-- The characters of a fragment that are percent bytes. -/
def reservedInFragment : String := " \"<>\x60"

/-- The characters of a path that are percent bytes. -/
def reservedInPath : String := reservedInFragment ++ "#?\x7b\x7d"

/-- Whether a segment stands for a drive: a letter and a colon or, as it may be given, a bar. -/
def isDrive : List Char → Bool
  | [letter, c] => letter.isAlpha && (c = ':' || c = '|')
  | _ => false

/-- A segment in which dots are not percent bytes. -/
def plainDots : List Char → List Char
  | '%' :: '2' :: 'e' :: cs => '.' :: plainDots cs
  | '%' :: '2' :: 'E' :: cs => '.' :: plainDots cs
  | '.' :: cs => '.' :: plainDots cs
  | cs => cs

/-- The segments of a path. -/
structure Path where
  segments : List (List Char) := []
  /-- Whether the first segment was given as a drive. -/
  onDrive : Bool := false

namespace Path

/-- The text of a path. -/
def text (p : Path) : String := String.ofList (p.segments.flatMap ('/' :: ·))

/-- The directory above. There is none above a drive, and none above the root. -/
def parent (p : Path) : Path :=
  if (p.segments.getLast?.map isDrive).getD false then p
  else { p with segments := p.segments.dropLast }

/-- Goes on to a segment, the last one or one that is followed by a slash. In a file's path, the
first segment can be a drive, and a drive is a segment of its own even if no slash follows it. -/
def step (isFile : Bool) (p : Path) (segment : List Char) (isLast : Bool) : Path :=
  let goOn (p : Path) (segments : List (List Char)) : Path :=
    { p with segments := p.segments ++ segments }
  match plainDots segment with
  | ['.'] => if isLast then goOn p [[]] else p
  | ['.', '.'] => if isLast then goOn p.parent [[]] else p.parent
  | _ =>
    if isFile && p.segments.isEmpty then
      match segment with
      | [letter, c] =>
        if isDrive [letter, c] then { segments := [[letter, ':']], onDrive := true }
        else goOn p [[letter, c]]
      | letter :: ':' :: cs =>
        if letter.isAlpha then goOn p [[letter, ':'], cs] else goOn p [letter :: ':' :: cs]
      | segment => goOn p [segment]
    else goOn p [segment]

/-- Follows segments. -/
def follow (isFile : Bool) (p : Path) : List (List Char) → Path
  | [] => p
  | [segment] => p.step isFile segment true
  | segment :: segments => (p.step isFile segment false).follow isFile segments

/-- Follows the segments of a path as it is given, without the slash of the root. In a special
scheme a backslash is a slash. A file's path does not begin with more than one slash. -/
def resolve (isSpecial isFile : Bool) (cs : List Char) : Path :=
  let slashed (c : Char) : Char := if isSpecial && c = '\\' then '/' else c
  let given := splitAtEach '/' (cs.map slashed)
  let p : Path := ({} : Path).follow isFile (given.map (percentEncode reservedInPath))
  if isFile then
    let segments := p.segments.dropWhile (·.isEmpty)
    { p with segments := if segments.isEmpty then [[]] else segments }
  else p

end Path

end CrossCall.Url
