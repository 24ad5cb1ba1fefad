/-
# Finding and ordering texts without regard to case

A text is looked for in another by their small forms. The order of two texts is that of their small
forms and, where those agree, that of the texts themselves, both by code point: so two texts rank
equal only if they are the same text.
-/
import EvaluationBrowser.Text.Lowercase

namespace EvaluationBrowser.Text

/-- The first list stands somewhere in the second, as one piece. -/
def occursIn (part : List Char) : List Char → Bool
  | [] => part.isEmpty
  | c :: cs => part.isPrefixOf (c :: cs) || occursIn part cs

theorem occursIn_iff {part whole : List Char} : occursIn part whole = true ↔ part <:+: whole := by
  induction whole with
  | nil => simp [occursIn]
  | cons c cs ih => simp [occursIn, ih, List.infix_cons_iff]

/-- The order of texts in a sorted column. -/
def compareTexts (a b : String) : Ordering :=
  (compare (lowercaseChars a.toList) (lowercaseChars b.toList)).then
    (compare a.toList b.toList)

end EvaluationBrowser.Text
