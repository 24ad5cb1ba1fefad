/-
# What the address of a model's settings tells

A base can be any text, and it can itself look like such an address. What is put behind it is told
from it all the same: it is the last three of the pieces between the slashes of the address,
whatever pieces the base has, since a name has no slash in it. So the address determines the name,
and then the base without the slashes at its end. It does not determine how many slashes these were.
-/
import EvaluationBrowser.Backend.Address
import EvaluationBrowser.Proofs.Site.NamePath
import EvaluationBrowser.Proofs.Text.Ends

namespace EvaluationBrowser.Backend

open Text (dropTrailingSlashes)

/-- A text without the slashes that it ends in. -/
def IsStripped (given stripped : String) : Prop :=
  (∃ k, given.toList = stripped.toList ++ List.replicate k '/') ∧
    stripped.toList.getLast? ≠ some '/'

theorem isStripped_dropTrailingSlashes (base : String) :
    IsStripped base (dropTrailingSlashes base) := by
  obtain ⟨dropped, split, slashes, last⟩ :=
    Text.exists_dropTrailing_append (· == '/') base.toList
  have slashes : dropped = List.replicate dropped.length '/' :=
    List.eq_replicate_of_mem fun c mem => eq_of_beq (slashes c mem)
  rw [IsStripped, dropTrailingSlashes, String.toList_ofList]
  refine ⟨⟨dropped.length, slashes ▸ split⟩, fun slash => ?_⟩
  cases last '/' slash

/-! ## The segments behind the base -/

def settingsSegments (name : ModelName) : List (List Char) :=
  ["models".toList, name.text.toList, "evaluation-settings".toList]

variable (base : String) (name : ModelName)

theorem isName_settingsSegments : ∀ segment ∈ settingsSegments name, IsName segment := by
  intro segment mem
  simp only [settingsSegments, List.mem_cons, List.not_mem_nil, or_false] at mem
  rcases mem with rfl | rfl | rfl
  · exact isName_of_isModelName rfl
  · exact name.isName_toList
  · exact isName_of_isModelName rfl

theorem toList_settingsUrl :
    (settingsUrl base name).toList
      = (dropTrailingSlashes base).toList ++ Site.joined (settingsSegments name) := by
  simp [settingsUrl, Site.joined, settingsSegments]

theorem beq_slash_of_isNameChar {c : Char} (name : isNameChar c = true) : (c == '/') = false := by
  simpa using ne_of_isNameChar name (show isNameChar '/' = false from rfl)

/-- Cut at its slashes, the address falls into the pieces of the base and three more. -/
theorem splitOnP_settingsUrl :
    (settingsUrl base name).toList.splitOnP (· == '/')
      = (dropTrailingSlashes base).toList.splitOnP (· == '/') ++ settingsSegments name := by
  have segments : ("models".toList ++ Site.joined (settingsSegments name).tail).splitOnP (· == '/')
      = settingsSegments name :=
    Site.splitOnP_joined (· == '/') rfl (fun _ => beq_slash_of_isNameChar)
      fun segment mem => (isName_settingsSegments name segment mem).2
  have parts : (settingsUrl base name).toList
      = (dropTrailingSlashes base).toList
        ++ '/' :: ("models".toList ++ Site.joined (settingsSegments name).tail) :=
    toList_settingsUrl base name
  rw [parts, @List.splitOnP_append_cons _ (· == '/') _ _ '/' rfl, segments]

theorem settingsUrl_eq_iff (base' : String) (name' : ModelName) :
    settingsUrl base' name' = settingsUrl base name ↔
      dropTrailingSlashes base' = dropTrailingSlashes base ∧ name' = name := by
  constructor
  · intro same
    have pieces := splitOnP_settingsUrl base' name'
    rw [same, splitOnP_settingsUrl base name] at pieces
    obtain ⟨-, segments⟩ := List.append_inj' pieces rfl
    have text : name.text = name'.text := by
      simpa [settingsSegments, String.toList_inj] using segments
    have sameName : name' = name := by
      cases name
      cases name'
      cases text
      rfl
    subst sameName
    have chars := congrArg String.toList same
    rw [toList_settingsUrl, toList_settingsUrl] at chars
    exact ⟨String.toList_inj.mp (List.append_cancel_right chars), rfl⟩
  · rintro ⟨stripped, rfl⟩
    rw [settingsUrl, settingsUrl, stripped]

/-! ## The theorem -/

/-- What the address of a model's settings tells of the base and the name that it is built from. -/
structure TellsBaseAndName (base : String) (name : ModelName) : Prop where
  stripped : IsStripped base (dropTrailingSlashes base)
  same_iff : ∀ base' name', settingsUrl base' name' = settingsUrl base name ↔
    dropTrailingSlashes base' = dropTrailingSlashes base ∧ name' = name
  /-- Behind the base stands a path. It has three segments, cut at slashes and read as an address,
  and nothing in it begins a query, a fragment or an escape. -/
  path : ∃ path : List Char,
    (settingsUrl base name).toList = (dropTrailingSlashes base).toList ++ path ∧
      path.splitOnP (· == '/')
        = [[], "models".toList, name.text.toList, "evaluation-settings".toList] ∧
      Site.Path.ofAddress (String.ofList path)
        = [[], "models".toList, name.text.toList, "evaluation-settings".toList] ∧
      ∀ c ∈ path, c ≠ '?' ∧ c ≠ '#' ∧ c ≠ '%' ∧ c ≠ '.' ∧ c ≠ '\\'
  /-- The whole address has these segments more than the base. -/
  segments : (settingsUrl base name).toList.splitOnP (· == '/')
    = (dropTrailingSlashes base).toList.splitOnP (· == '/')
      ++ ["models".toList, name.text.toList, "evaluation-settings".toList]
  not_health : ∀ base', settingsUrl base name ≠ healthUrl base'

/-- Whatever the base and the name are, the address of the settings tells both, but for the slashes
at the end of the base. -/
theorem tellsBaseAndName_settingsUrl : TellsBaseAndName base name where
  stripped := isStripped_dropTrailingSlashes base
  same_iff := settingsUrl_eq_iff base name
  path := by
    refine ⟨Site.joined (settingsSegments name), toList_settingsUrl base name, ?_, ?_, ?_⟩
    · have names : ∀ segment ∈ [] :: settingsSegments name, ∀ c ∈ segment, isNameChar c = true :=
        List.forall_mem_cons.mpr
          ⟨nofun, fun segment mem => (isName_settingsSegments name segment mem).2⟩
      exact Site.splitOnP_joined (· == '/') rfl (fun _ => beq_slash_of_isNameChar) names
    · exact Site.ofAddress_joined (List.cons_ne_nil _ _) (isName_settingsSegments name)
    · intro c mem
      rcases Site.of_mem_joined (isName_settingsSegments name) mem with rfl | isName
      · decide
      · exact ⟨ne_of_isNameChar isName rfl, ne_of_isNameChar isName rfl,
          ne_of_isNameChar isName rfl, ne_of_isNameChar isName rfl, ne_of_isNameChar isName rfl⟩
  segments := splitOnP_settingsUrl base name
  not_health base' same := by
    -- The one ends in s and the other in h.
    have settings : (settingsUrl base name).toList.getLast? = some 's' := by
      rw [settingsUrl, String.toList_append, List.getLast?_append]
      rfl
    have health : (healthUrl base').toList.getLast? = some 'h' := by
      rw [healthUrl, String.toList_append, List.getLast?_append]
      rfl
    rw [same, health] at settings
    cases settings

end EvaluationBrowser.Backend
