/-
# What cutting the end leaves

`dropTrailing` is the library's `List.rdropWhile`. Of two lists put together, either all of the
second goes, and then more, or nothing of the first does. What goes is of the kind, and what stays
does not end in it; so trimming takes blanks off both ends and stops at the first other character,
and it leaves nothing of a text iff all its characters are blank.
-/
import Mathlib.Data.List.DropRight
import EvaluationBrowser.Text.Blank

namespace EvaluationBrowser.Text

theorem dropTrailing_eq_rdropWhile (kind : Char → Bool) (cs : List Char) :
    dropTrailing kind cs = cs.rdropWhile kind := rfl

theorem dropTrailing_append (kind : Char → Bool) (xs ys : List Char) :
    dropTrailing kind (xs ++ ys)
      = if ys.all kind then dropTrailing kind xs else xs ++ dropTrailing kind ys := by
  induction ys using List.reverseRecOn with
  | nil => rw [List.append_nil, List.all_nil, if_pos rfl]
  | append_singleton ys y ih =>
      rw [← List.append_assoc]
      cases last : kind y with
      | true =>
          rw [dropTrailing_append_of_kind _ last, dropTrailing_append_of_kind _ last, ih]
          simp only [List.all_append, List.all_cons, List.all_nil, last, Bool.and_true]
      | false =>
          rw [dropTrailing_append_of_not _ last, dropTrailing_append_of_not _ last,
            List.append_assoc]
          simp [last]

/-- What is dropped is of the kind, and what is left does not end in it. -/
theorem exists_dropTrailing_append (kind : Char → Bool) (cs : List Char) :
    ∃ dropped, cs = dropTrailing kind cs ++ dropped ∧ (∀ c ∈ dropped, kind c = true) ∧
      ∀ c, (dropTrailing kind cs).getLast? = some c → kind c = false := by
  refine ⟨(cs.reverse.takeWhile kind).reverse, ?_, ?_, ?_⟩
  · rw [dropTrailing, ← List.reverse_append, List.takeWhile_append_dropWhile, List.reverse_reverse]
  · intro c mem
    exact List.mem_takeWhile_imp (List.mem_reverse.mp mem)
  · intro c last
    rw [dropTrailing, List.getLast?_reverse] at last
    have other := List.head?_dropWhile_not kind cs.reverse
    rw [last] at other
    simpa using other

/-- A text without the white space around it. -/
def IsTrimmed (given trimmed : String) : Prop :=
  ∃ before after, given.toList = before ++ trimmed.toList ++ after ∧
    (∀ c ∈ before ++ after, isBlank c = true) ∧
    (∀ c, trimmed.toList.head? = some c → isBlank c = false) ∧
    ∀ c, trimmed.toList.getLast? = some c → isBlank c = false

theorem isTrimmed_trim (s : String) : IsTrimmed s (trim s) := by
  obtain ⟨after, split, blank, last⟩ :=
    exists_dropTrailing_append isBlank (s.toList.dropWhile isBlank)
  refine ⟨s.toList.takeWhile isBlank, after, ?_, ?_, ?_, ?_⟩
  · rw [trim, String.toList_ofList, trimChars, List.append_assoc, ← split,
      List.takeWhile_append_dropWhile]
  · intro c mem
    rcases List.mem_append.mp mem with near | far
    · exact List.mem_takeWhile_imp near
    · exact blank c far
  · intro c first
    rw [trim, String.toList_ofList, trimChars] at first
    have other := List.head?_dropWhile_not isBlank s.toList
    have rest : (s.toList.dropWhile isBlank).head? = some c := by
      rw [split, List.head?_append, first]
      rfl
    rw [rest] at other
    simpa using other
  · rwa [trim, String.toList_ofList]

@[simp] theorem dropTrailingSlashes_idem (s : String) :
    dropTrailingSlashes (dropTrailingSlashes s) = dropTrailingSlashes s := by
  rw [dropTrailingSlashes, dropTrailingSlashes, String.toList_ofList, dropTrailing_eq_rdropWhile,
    dropTrailing_eq_rdropWhile, List.rdropWhile_idempotent]

theorem isBlankText_iff {s : String} :
    isBlankText s = true ↔ ∀ c ∈ s.toList, isBlank c = true := by
  rw [isBlankText, List.isEmpty_iff, trimChars, dropTrailing_eq_rdropWhile,
    List.rdropWhile_eq_nil_iff]
  constructor
  · intro rest c mem
    rw [← List.takeWhile_append_dropWhile (p := isBlank) (l := s.toList)] at mem
    rcases List.mem_append.mp mem with near | far
    · exact List.mem_takeWhile_imp near
    · exact rest c far
  · intro all c mem
    exact all c ((List.dropWhile_sublist isBlank).mem mem)

end EvaluationBrowser.Text
