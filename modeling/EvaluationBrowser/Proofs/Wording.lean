/-
# What failures say

A failure is known by what it says. What is said of a malformed name or of a refused setting is said
of nothing else, and what is said of a refused setting tells which setting it is and what is wrong
with it.

This is read word by word: the fourth word is the identifier, and the words behind the colon tell
the rule, the area and, where two areas are out of order, their very numbers. A number is one word
(`space_not_mem_positional`), so whatever the areas are, no two reasons read alike.
-/
import EvaluationBrowser.Failure
import EvaluationBrowser.Proofs.Binary64.Positional
import EvaluationBrowser.Proofs.Text.Digits

namespace EvaluationBrowser

namespace Text

/-- Two texts are different if their openings differ at one place. -/
theorem append_ne_append {p q : String} {i : Nat} {c d : Char}
    (left : p.toList[i]? = some c) (right : q.toList[i]? = some d) (differ : c ≠ d)
    (x y : String) : p ++ x ≠ q ++ y := by
  intro same
  have chars : p.toList ++ x.toList = q.toList ++ y.toList := by
    rw [← String.toList_append, ← String.toList_append, same]
  obtain ⟨inLeft, -⟩ := List.getElem?_eq_some_iff.mp left
  obtain ⟨inRight, -⟩ := List.getElem?_eq_some_iff.mp right
  have char := congrArg (·[i]?) chars
  simp only [List.getElem?_append_left inLeft, List.getElem?_append_left inRight, left, right]
    at char
  exact differ (Option.some.inj char)

/-- The text cut at its spaces. -/
def words (cs : List Char) : List (List Char) := cs.splitOnP (· == ' ')

variable {cs : List Char}

theorem beq_space_eq_false (one : ' ' ∉ cs) : ∀ c ∈ cs, (c == ' ') = false :=
  fun _ mem => beq_eq_false_iff_ne.mpr fun space => one (space ▸ mem)

theorem words_append (one : ' ' ∉ cs) (rest : List Char) :
    words (cs ++ ' ' :: rest) = cs :: words rest :=
  List.splitOnP_append_cons_of_forall_mem (beq_space_eq_false one) ' ' rfl rest

theorem words_of_one (one : ' ' ∉ cs) : words cs = [cs] :=
  List.splitOnP_eq_singleton (beq_space_eq_false one)

end Text

open Text (words words_append words_of_one)

/-! ## Reasons -/

theorem AreaBound.name_injective : Function.Injective name := by
  intro bound bound' same
  cases bound <;> cases bound' <;> first | rfl | exact absurd same (by decide)

namespace Setting.Violation

/-- The words of the reason. -/
def wording : Violation → List String
  | .blankDataset => ["dataset_name", "is", "empty"]
  | .notFinite bound => [bound.name, "is", "not", "finite"]
  | .negative bound => [bound.name, "is", "negative"]
  | .inverted min max => ["min_area", min.positional, "exceeds", "max_area", max.positional]

theorem words_reason (v : Violation) : words v.reason.toList = v.wording.map String.toList := by
  cases v with
  | blankDataset => decide +kernel
  | notFinite bound => cases bound <;> decide +kernel
  | negative bound => cases bound <;> decide +kernel
  | inverted min max =>
      have parts : (reason (.inverted min max)).toList
          = "min_area".toList ++ ' ' :: (min.positional.toList ++ ' ' :: ("exceeds".toList
            ++ ' ' :: ("max_area".toList ++ ' ' :: max.positional.toList))) := by
        simp [reason]
      rw [parts, words_append (by decide), words_append min.space_not_mem_positional,
        words_append (by decide), words_append (by decide),
        words_of_one max.space_not_mem_positional]
      rfl

theorem wording_injective : Function.Injective wording := by
  intro v w same
  cases v with
  | blankDataset =>
      cases w with
      | blankDataset => rfl
      | _ => simp [wording] at same
  | notFinite bound =>
      cases w with
      | notFinite bound' =>
          rw [AreaBound.name_injective (List.cons.inj same).1]
      | _ => simp [wording] at same
  | negative bound =>
      cases w with
      | negative bound' =>
          rw [AreaBound.name_injective (List.cons.inj same).1]
      | _ => simp [wording] at same
  | inverted min max =>
      cases w with
      | inverted min' max' =>
          simp only [wording, List.cons.injEq, and_true, true_and] at same
          rw [Binary64.positional_injective same.1, Binary64.positional_injective same.2]
      | _ => simp [wording] at same

/-- No two reasons read alike. -/
theorem eq_of_words {v w : Violation} (same : words v.reason.toList = words w.reason.toList) :
    v = w := by
  rw [words_reason, words_reason] at same
  exact wording_injective (List.map_injective_iff.mpr (fun _ _ => String.toList_inj.mp) same)

end Setting.Violation

namespace Failure

open Setting (Violation)

/-! ## Malformed names -/

theorem message_invalidSetting_eq (id : UInt64) (v : Violation) :
    (invalidSetting id v).message
      = "Invalid evaluation setting " ++ (toString id.toNat ++ (": " ++ v.reason)) := by
  simp only [← String.append_assoc]
  rfl

/-- No failure of another kind is worded like a name that is none. -/
theorem message_ne_invalidModelName {f : Failure} {raw : String}
    (other : ∀ given, f ≠ .invalidModelName given) :
    f.message ≠ (invalidModelName raw).message := by
  cases f with
  | invalidModelName given => exact absurd rfl (other given)
  | invalidSetting id v =>
      -- These two begin with the same word.
      rw [message_invalidSetting_eq]
      exact Text.append_ne_append (i := 8) rfl rfl (by decide) _ _
  | _ => exact Text.append_ne_append (i := 0) rfl rfl (by decide) _ _

/-- The wording of a name that is none is not empty, and more than a space. -/
theorem message_invalidModelName_ne {text : String} (short : text.length < 2) (raw : String) :
    (invalidModelName raw).message ≠ text := by
  rintro rfl
  have long : (invalidModelName raw).message.length
      = "Invalid model name: ".length + (Text.quoted raw).length := String.length_append ..
  have : "Invalid model name: ".length = 20 := rfl
  omega

/-! ## Refused settings -/

/-- The words of the line: those before the identifier, the identifier, and those of the reason. -/
theorem words_message_invalidSetting (id : UInt64) (v : Violation) :
    words (invalidSetting id v).message.toList
      = "Invalid".toList :: "evaluation".toList :: "setting".toList
        :: ((toString id.toNat).toList ++ [':']) :: words v.reason.toList := by
  have parts : (invalidSetting id v).message.toList
      = "Invalid".toList ++ ' ' :: ("evaluation".toList ++ ' ' :: ("setting".toList
        ++ ' ' :: (((toString id.toNat).toList ++ [':']) ++ ' ' :: v.reason.toList))) := by
    rw [message_invalidSetting_eq, String.toList_append, String.toList_append,
      String.toList_append, List.append_assoc _ [':']]
    rfl
  have one : ' ' ∉ (toString id.toNat).toList ++ [':'] := by
    intro space
    rcases List.mem_append.mp space with digit | colon
    · rw [Nat.toString_eq_ofList_toDigits, String.toList_ofList] at digit
      exact absurd (Text.allDigits_toDigits _ _ digit) (by decide)
    · exact absurd (List.mem_singleton.mp colon) (by decide)
  rw [parts, words_append (by decide), words_append (by decide), words_append (by decide),
    words_append one]

theorem message_invalidSetting_inj {id id' : UInt64} {v w : Violation} :
    (invalidSetting id v).message = (invalidSetting id' w).message ↔ id = id' ∧ v = w := by
  constructor
  · intro same
    have read := words_message_invalidSetting id v
    rw [same, words_message_invalidSetting id' w] at read
    obtain ⟨ids, reasons⟩ : (toString id'.toNat).toList = (toString id.toNat).toList ∧
        words w.reason.toList = words v.reason.toList := by
      simpa only [List.cons.injEq, true_and, List.append_cancel_right_eq] using read
    refine ⟨UInt64.toNat_inj.mp (Text.toString_injective (String.toList_inj.mp ids)).symm, ?_⟩
    exact (Violation.eq_of_words reasons).symm
  · rintro ⟨rfl, rfl⟩
    rfl

/-- The line of a refused setting tells the failure. -/
theorem eq_of_message_eq_invalidSetting {f : Failure} {id : UInt64} {v : Violation}
    (same : f.message = (invalidSetting id v).message) : f = invalidSetting id v := by
  cases f with
  | invalidSetting id' w =>
      obtain ⟨rfl, rfl⟩ := message_invalidSetting_inj.mp same
      rfl
  | invalidModelName given =>
      exact absurd same.symm (message_ne_invalidModelName (by simp))
  | _ =>
      rw [message_invalidSetting_eq] at same
      exact absurd same (Text.append_ne_append (i := 0) rfl rfl (by decide) _ _)

end Failure

end EvaluationBrowser
