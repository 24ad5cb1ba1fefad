/-
# The small form of a part

All characters but the capital sigma have one small form wherever they stand. So a part of a text
becomes what it becomes by itself iff every capital sigma of it ends a word in the text exactly if
it does in the part. Then the small form of the part stands in the small form of the text.

The part is followed through the text with what stands before and behind it, since the form of a
sigma is asked of both sides.
-/
import EvaluationBrowser.Text.Lowercase
import EvaluationBrowser.Proofs.Text.Ends

namespace EvaluationBrowser.Text

/-- A capital sigma between these characters ends a word. `before` has the nearest first. -/
def endsWord (before after : List Char) : Bool := meetsLetter before && !meetsLetter after

/-- What a part becomes between other characters. `before` has the nearest first. -/
def lowercaseBetween (before : List Char) : List Char → List Char → List Char
  | [], _ => []
  | c :: part, after =>
    smallForm before c (part ++ after) ++ lowercaseBetween (c :: before) part after

/-- Every capital sigma of the part ends a word between these characters exactly if it does in the
part by itself. -/
def KeepsSigmas (before part after : List Char) : Prop :=
  ∀ xs ys, part = xs ++ 'Σ' :: ys →
    endsWord (xs.reverse ++ before) (ys ++ after) = endsWord xs.reverse ys

/-! ## A part among others -/

theorem lowercaseAfter_append (before part after : List Char) :
    lowercaseAfter before (part ++ after)
      = lowercaseBetween before part after ++ lowercaseAfter (part.reverse ++ before) after := by
  induction part generalizing before with
  | nil => rfl
  | cons c part ih =>
      have turned : part.reverse ++ c :: before = (c :: part).reverse ++ before := by simp
      rw [List.cons_append, lowercaseAfter, ih, lowercaseBetween, turned, List.append_assoc]

theorem lowercaseBetween_nil (before part : List Char) :
    lowercaseBetween before part [] = lowercaseAfter before part := by
  have whole := lowercaseAfter_append before part []
  rw [List.append_nil, lowercaseAfter, List.append_nil] at whole
  exact whole.symm

theorem lowercaseBetween_infix (before part after : List Char) :
    lowercaseBetween before.reverse part after
      <:+: lowercaseChars (before ++ part ++ after) := by
  refine ⟨lowercaseBetween [] before (part ++ after),
    lowercaseAfter (part.reverse ++ before.reverse) after, ?_⟩
  rw [lowercaseChars, List.append_assoc before, lowercaseAfter_append, List.append_nil,
    lowercaseAfter_append, List.append_assoc]

/-! ## One character -/

theorem smallForm_sigma (before after : List Char) :
    smallForm before 'Σ' after = [if endsWord before after then 'ς' else 'σ'] := if_pos rfl

theorem smallForm_of_ne {c : Char} (other : c ≠ 'Σ') (before after before' after' : List Char) :
    smallForm before c after = smallForm before' c after' := by
  rw [smallForm, smallForm, if_neg other, if_neg other]

theorem length_smallForm (c : Char) (before after before' after' : List Char) :
    (smallForm before c after).length = (smallForm before' c after').length := by
  by_cases sigma : c = 'Σ'
  · subst sigma
    rw [smallForm_sigma, smallForm_sigma]
    rfl
  · rw [smallForm_of_ne sigma before after before' after']

theorem smallForm_eq_iff (c : Char) (before after before' after' : List Char) :
    smallForm before c after = smallForm before' c after' ↔
      (c = 'Σ' → endsWord before after = endsWord before' after') := by
  by_cases sigma : c = 'Σ'
  · subst sigma
    rw [smallForm_sigma, smallForm_sigma]
    cases endsWord before after <;> cases endsWord before' after' <;> decide
  · exact ⟨fun _ eq => absurd eq sigma, fun _ => smallForm_of_ne sigma _ _ _ _⟩

/-! ## The same part in two places -/

theorem lowercaseBetween_eq_iff (part before after before' after' : List Char) :
    lowercaseBetween before part after = lowercaseBetween before' part after' ↔
      ∀ xs ys, part = xs ++ 'Σ' :: ys →
        endsWord (xs.reverse ++ before) (ys ++ after)
          = endsWord (xs.reverse ++ before') (ys ++ after') := by
  induction part generalizing before before' with
  | nil => exact ⟨fun _ xs ys eq => absurd eq (by simp), fun _ => rfl⟩
  | cons c part ih =>
      have cut : lowercaseBetween before (c :: part) after
            = lowercaseBetween before' (c :: part) after' ↔
          smallForm before c (part ++ after) = smallForm before' c (part ++ after') ∧
            lowercaseBetween (c :: before) part after
              = lowercaseBetween (c :: before') part after' :=
        ⟨fun eq => List.append_inj eq (length_smallForm c _ _ _ _),
          fun ⟨first, rest⟩ => congrArg₂ (· ++ ·) first rest⟩
      rw [cut, smallForm_eq_iff, ih]
      constructor
      · rintro ⟨first, rest⟩ xs ys eq
        -- the sigma is the first character, or it stands in the rest
        cases xs with
        | nil =>
            obtain ⟨rfl, rfl⟩ := List.cons.inj eq
            exact first rfl
        | cons x xs =>
            obtain ⟨rfl, rfl⟩ := List.cons.inj eq
            have inRest := rest xs ys rfl
            rw [List.reverse_cons, List.append_assoc, List.append_assoc]
            exact inRest
      · intro same
        refine ⟨fun sigma => ?_, fun xs ys eq => ?_⟩
        · subst sigma
          exact same [] part rfl
        · subst eq
          have inRest := same (c :: xs) ys rfl
          rw [List.reverse_cons, List.append_assoc, List.append_assoc] at inRest
          exact inRest

/-- A part keeps its small form between other characters iff its sigmas keep theirs. -/
theorem lowercaseBetween_eq_lowercaseChars_iff (before part after : List Char) :
    lowercaseBetween before part after = lowercaseChars part ↔ KeepsSigmas before part after := by
  have alone : lowercaseChars part = lowercaseBetween [] part [] :=
    (lowercaseBetween_nil [] part).symm
  rw [alone, lowercaseBetween_eq_iff]
  simp only [List.append_nil, KeepsSigmas]

theorem keepsSigmas_of_not_mem {part : List Char} (none : 'Σ' ∉ part) (before after : List Char) :
    KeepsSigmas before part after := by
  intro xs ys eq
  exact absurd (eq ▸ List.mem_append_right xs List.mem_cons_self) none

/-- Where the sigmas keep their form, the small form of a part stands in the small form of the
text. -/
theorem KeepsSigmas.infix {before part after : List Char}
    (keeps : KeepsSigmas before.reverse part after) :
    lowercaseChars part <:+: lowercaseChars (before ++ part ++ after) := by
  rw [← (lowercaseBetween_eq_lowercaseChars_iff _ _ _).mpr keeps]
  exact lowercaseBetween_infix before part after

/-! ## Trimmed parts -/

/-- What trimming leaves stands in the text. -/
theorem trimChars_infix (cs : List Char) : trimChars cs <:+: cs := by
  have far : trimChars cs <+: cs.dropWhile isBlank := List.rdropWhile_prefix _ _
  exact far.isInfix.trans (List.dropWhile_suffix _).isInfix

end EvaluationBrowser.Text
