/-
# Values that are passed over

A value that nobody asked for is only checked for its form, however deeply it is nested. The
brackets that are open are kept in a list, the innermost first, and between two characters the
reader stands in one of three places: where a value must begin, right after an opening bracket, or
right after a value. No two steps in a row take nothing, so twice as many steps as there are
characters, and two to finish, are enough.
-/
import EvaluationBrowser.Json.Token

namespace EvaluationBrowser.Json

inductive Bracket where
  | list
  | object
  deriving DecidableEq

def Bracket.closing : Bracket → Char
  | .list => ']'
  | .object => '\x7d'

/-- The fault of a text that ends inside the bracket. -/
def Bracket.endCause : Bracket → Cause
  | .list => .endInList
  | .object => .endInObject

/-- The fault of a value that neither a comma nor the closing bracket follows. -/
def Bracket.separatorCause : Bracket → Cause
  | .list => .expectedListSeparator
  | .object => .expectedObjectSeparator

inductive Stand where
  | atValue
  | afterOpening
  | afterValue
  deriving DecidableEq

/-- The colon between a key and its value. -/
def readColon (text : List Char) : Except Fault (List Char) :=
  match skipSpace text with
  | [] => .error (.before .endInObject [])
  | ':' :: rest => .ok rest
  | text => .error (.on .expectedColon text)

/-- A key and its colon, before a member whose value is passed over. -/
def skipKey (text : List Char) : Except Fault (List Char) :=
  match skipSpace text with
  | [] => .error (.before .endInObject [])
  | '"' :: rest => skipText rest >>= readColon
  | text => .error (.on .keyNotText text)

/-- The way from a place between members to the next value. -/
def skipToValue : Bracket → List Char → Except Fault (List Char)
  | .list, text => .ok text
  | .object, text => skipKey text

/-- What is left after the value, and after all brackets that are open. -/
def skipFrom : Nat → List Bracket → Stand → List Char → Except Fault (List Char)
  | 0, _, _, text => .error (.before .endInValue text)
  | fuel + 1, stack, .atValue, text =>
    match skipSpace text with
    | [] => .error (.before .endInValue [])
    | '[' :: rest => skipFrom fuel (.list :: stack) .afterOpening rest
    | '\x7b' :: rest => skipFrom fuel (.object :: stack) .afterOpening rest
    | text => skipScalar text >>= skipFrom fuel stack .afterValue
  | _ + 1, [], _, text => .ok text
  | fuel + 1, bracket :: stack, .afterOpening, text =>
    match skipSpace text with
    | [] => .error (.before bracket.endCause [])
    | c :: rest =>
      if c = bracket.closing then skipFrom fuel stack .afterValue rest
      else skipToValue bracket (c :: rest) >>= skipFrom fuel (bracket :: stack) .atValue
  | fuel + 1, bracket :: stack, .afterValue, text =>
    match skipSpace text with
    | [] => .error (.before bracket.endCause [])
    | c :: rest =>
      if c = bracket.closing then skipFrom fuel stack .afterValue rest
      else if c = ',' then
        skipToValue bracket rest >>= skipFrom fuel (bracket :: stack) .atValue
      else .error (.on bracket.separatorCause (c :: rest))

/-- One value of any kind. -/
def skipValue (text : List Char) : Except Fault (List Char) :=
  skipFrom (2 * text.length + 2) [] .atValue text

end EvaluationBrowser.Json
