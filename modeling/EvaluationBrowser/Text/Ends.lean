/-
# Cutting characters off the end

The near end of a text is cut by `dropWhile`. The far end is cut here, by the same on the reversed
list: what goes is the longest run of characters of a kind that the text ends in. Or all goes but
the first line.
-/

namespace EvaluationBrowser.Text

/-- Without the longest run at the end of characters of the given kind. -/
def dropTrailing (kind : Char → Bool) (cs : List Char) : List Char :=
  (cs.reverse.dropWhile kind).reverse

/-- The text without the slashes it ends in. -/
def dropTrailingSlashes (s : String) : String :=
  String.ofList (dropTrailing (· == '/') s.toList)

/-- A last character of the kind goes. -/
theorem dropTrailing_append_of_kind {kind : Char → Bool} {c : Char} (cs : List Char)
    (h : kind c = true) : dropTrailing kind (cs ++ [c]) = dropTrailing kind cs := by
  simp [dropTrailing, h]

/-- A last character of another kind stays, and all before it. -/
theorem dropTrailing_append_of_not {kind : Char → Bool} {c : Char} (cs : List Char)
    (h : kind c = false) : dropTrailing kind (cs ++ [c]) = cs ++ [c] := by
  simp [dropTrailing, h]

/-! ## Lines -/

/-- The first line, without the line feed that ends it and a carriage return before that. -/
def firstLine (cs : List Char) : List Char :=
  let line := cs.takeWhile (· != '\n')
  if line.length < cs.length ∧ line.getLast? = some '\r' then line.dropLast else line

end EvaluationBrowser.Text
