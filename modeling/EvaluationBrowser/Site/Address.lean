/-
# Addresses

What counts of an address is its path. An address that names a scheme is complete; any other is
relative to the root of the site, whose own scheme is `https`, and an address of that scheme without
two slashes after it is relative as well.

Schemes differ in how a path begins. For the schemes of the web a host stands after the slashes,
however many there are, and a path is never empty; a backslash is a slash. The same goes for files,
except that a host needs two slashes, that a drive letter is no host, and that a path has no empty
segments in front. For all other schemes only `/` is a slash, two of them announce a host, and
without any slash the path is the text as it stands.

A path is held in *pieces*, which are what stands between its slashes: `/models/x` has three, of
which the first is empty, and the empty path has one.
-/
import EvaluationBrowser.Text.Ends

namespace EvaluationBrowser.Site

/-- The pieces between the slashes of a path. -/
abbrev Path := List (List Char)

/-! ## Schemes -/

inductive Scheme where
  | site
  | web
  | file
  | other
  deriving DecidableEq

def Scheme.ofName (name : String) : Scheme :=
  if name = "https" then .site
  else if name ∈ ["http", "ws", "wss", "ftp"] then .web
  else if name = "file" then .file
  else .other

def isSchemeChar (c : Char) : Bool := c.isAlphanum || c == '+' || c == '-' || c == '.'

/-- The scheme that an address begins with, and what follows the colon. -/
def splitScheme? (cs : List Char) : Option (Scheme × List Char) :=
  match cs.takeWhile isSchemeChar, cs.dropWhile isSchemeChar with
  | c :: name, ':' :: rest =>
    if c.isAlpha then some (.ofName (String.ofList ((c :: name).map Char.toLower)), rest) else none
  | _, _ => none

/-! ## Segments

The dots among the segments of a path are followed: one dot stays, two go up one segment. Going up
stops at the root and at a drive letter. Dots may be escaped. -/

/-- A slash of the web and of files. -/
def isSlash (c : Char) : Bool := c == '/' || c == '\\'

/-- A query or a fragment begins. -/
def endsPath (c : Char) : Bool := c == '?' || c == '#'

/-- A letter and a colon or a bar, with nothing or a backslash after them. -/
def isDriveLetter : List Char → Bool
  | [c, d] | c :: d :: '\\' :: _ => c.isAlpha && (d == ':' || d == '|')
  | _ => false

/-- A segment with its escaped dots written out. -/
def dots : List Char → List Char
  | '%' :: '2' :: 'e' :: rest | '%' :: '2' :: 'E' :: rest => '.' :: dots rest
  | c :: rest => c :: dots rest
  | [] => []

/-- Without the last segment, which stands first. -/
def upOne : List (List Char) → List (List Char)
  | [] => []
  | last :: before => if isDriveLetter last then last :: before else before

/-- The segments with the dots among them followed, given those before them from the last on. Dots
at the end leave an empty segment. -/
def followDots (before : List (List Char)) : List (List Char) → List (List Char)
  | [] => before.reverse
  | segment :: rest =>
    let atEnd := if rest.isEmpty then [[]] else []
    if dots segment = ['.'] then followDots (atEnd ++ before) rest
    else if dots segment = ['.', '.'] then followDots (atEnd ++ upOne before) rest
    else followDots (segment :: before) rest

/-- The segments up to a query or a fragment. -/
def segments (slash : Char → Bool) (cs : List Char) : List (List Char) :=
  followDots [] ((cs.takeWhile (!endsPath ·)).splitOnP slash)

/-- A path from the root, given what follows its first slash. -/
def rooted (slash : Char → Bool) (cs : List Char) : Path := [] :: segments slash cs

/-! ## Paths -/

/-- Without the first slash, if there is one. -/
def dropSlash : List Char → List Char
  | c :: cs => if isSlash c then cs else c :: cs
  | [] => []

/-- From the end of a host on. -/
def dropHost (slash : Char → Bool) (cs : List Char) : List Char :=
  cs.dropWhile fun c => !slash c && !endsPath c

/-- After the slashes in front of a host. -/
def hostPath (cs : List Char) : Path := rooted isSlash (dropSlash (dropHost isSlash cs))

/-- Relative to the root of the site. Two slashes announce a host. -/
def sitePath (cs : List Char) : Path :=
  let rest := cs.dropWhile isSlash
  if rest.length + 2 ≤ cs.length then hostPath rest else rooted isSlash rest

/-- Where the path of a file begins. -/
def dropFileHost (cs : List Char) : List Char :=
  match cs with
  | a :: b :: rest =>
    if isSlash a && isSlash b then
      if isDriveLetter (rest.takeWhile fun c => !isSlash c && !endsPath c) then rest
      else dropSlash (dropHost isSlash rest)
    else dropSlash cs
  | _ => dropSlash cs

def filePath (cs : List Char) : Path :=
  match (segments isSlash (dropFileHost cs)).dropWhile List.isEmpty with
  | [] => [[], []]
  | names => [] :: names

def otherPath (cs : List Char) : Path :=
  let slash (c : Char) : Bool := c == '/'
  match cs with
  | '/' :: '/' :: rest =>
    match dropHost slash rest with
    | '/' :: rest => rooted slash rest
    | _ => [[]]
  | '/' :: rest => rooted slash rest
  | cs => (cs.takeWhile (!endsPath ·)).splitOnP slash

/-- The address without control characters and spaces around it, and without tabs and line breaks in
it. -/
def cleaned (cs : List Char) : List Char :=
  let isEdge (c : Char) : Bool := decide (c.toNat ≤ 0x20)
  (Text.dropTrailing isEdge (cs.dropWhile isEdge)).filter fun c =>
    c ≠ '\t' ∧ c ≠ '\n' ∧ c ≠ '\r'

/-- The path of an address. -/
def Path.ofAddress (address : String) : Path :=
  let cs := cleaned address.toList
  match splitScheme? cs with
  | none => sitePath cs
  | some (.site, rest) => sitePath rest
  | some (.web, rest) => hostPath (rest.dropWhile isSlash)
  | some (.file, rest) => filePath rest
  | some (.other, rest) => otherPath rest

/-- An address relative to the site and one with a host lead to the same path. -/
example : Path.ofAddress "/models/./x?y" = [[], ['m', 'o', 'd', 'e', 'l', 's'], ['x']] ∧
    Path.ofAddress "https://h/models/y/../x" = Path.ofAddress "/models/./x?y" := by
  decide +kernel

end EvaluationBrowser.Site
