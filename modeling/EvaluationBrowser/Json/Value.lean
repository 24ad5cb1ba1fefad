/-
# JSON values and how they are written

A value is a tree; the members of an object are a list, in the order in which they are written.
There are two layouts. The compact one puts nothing between the tokens. The indented one puts every
element and every member on a line of its own, two spaces deeper than the bracket around it, and a
space after each colon; a bracket with nothing in it stays closed on its line. Both are one
function of what stands between two items.
-/
import EvaluationBrowser.Json.Text

namespace EvaluationBrowser.Json

inductive Value where
  | null
  | boolean (value : Bool)
  | number (literal : Literal)
  | text (value : String)
  | list (elements : List Value)
  | object (members : List (String × Value))

structure Style where
  /-- What stands before an item that is this many brackets deep. -/
  lineBreak : Nat → List Char
  colon : List Char

def Style.compact : Style := ⟨fun _ => [], [':']⟩

def Style.indented : Style :=
  ⟨fun depth => '\n' :: List.replicate (2 * depth) ' ', [':', ' ']⟩

/-- Items between brackets, each on its line. -/
def Style.enclose (style : Style) (depth : Nat) (opening closing : Char)
    (items : List (List Char)) : List Char :=
  if items.isEmpty then [opening, closing]
  else
    opening :: style.lineBreak (depth + 1) ++
      (List.intercalate (',' :: style.lineBreak (depth + 1)) items ++
        (style.lineBreak depth ++ [closing]))

mutual

/-- The value as it is written that many brackets deep. -/
def Value.chars (style : Style) (depth : Nat) : Value → List Char
  | .null => ['n', 'u', 'l', 'l']
  | .boolean true => ['t', 'r', 'u', 'e']
  | .boolean false => ['f', 'a', 'l', 's', 'e']
  | .number literal => literal.chars
  | .text value => quoteText value
  | .list elements =>
    style.enclose depth '[' ']' (elementChars style (depth + 1) elements)
  | .object members =>
    style.enclose depth '\x7b' '\x7d' (memberChars style (depth + 1) members)

def elementChars (style : Style) (depth : Nat) : List Value → List (List Char)
  | [] => []
  | v :: vs => v.chars style depth :: elementChars style depth vs

def memberChars (style : Style) (depth : Nat) : List (String × Value) → List (List Char)
  | [] => []
  | (key, v) :: ms =>
    (quoteText key ++ (style.colon ++ v.chars style depth)) :: memberChars style depth ms

end

def Value.render (style : Style) (v : Value) : String := String.ofList (v.chars style 0)

/-! ## Values of numbers and of what may be missing -/

def Value.ofNat (n : Nat) : Value := .number (.ofNat n)

/-- Infinities and NaN have no literal and become null. -/
def Value.ofBinary64 (x : Binary64) : Value :=
  (Literal.ofBinary64? x).elim .null .number

def Value.ofOption (encode : α → Value) : Option α → Value
  | none => .null
  | some x => encode x

example : (Value.list [.null, .list [], .object [("a", .ofNat 7)]]).chars .compact 0 =
    ['[', 'n', 'u', 'l', 'l', ',', '[', ']', ',', '\x7b', '"', 'a', '"', ':', '7', '\x7d', ']'] :=
  by decide +kernel

end EvaluationBrowser.Json
