/-
# What a filter finds

A filter compares small forms: it finds the settings in whose cell, in small letters, the trimmed
text in small letters stands. A text that stands in the cell as it is need not be found by that,
because a capital sigma may end a word in the text and none in the cell, or the other way round, and
then it has two small forms. That is the only way to miss a setting: where the sigmas keep their
form, and so for every text without a capital sigma, a cell that holds the text is found.

Filtering goes back to the first page, so the pages from the one shown are all of them.
-/
import EvaluationBrowser.Proofs.Grid.Walk
import EvaluationBrowser.Proofs.Text.Lowercase

namespace EvaluationBrowser.Grid.State

/-- The positions of the settings on the page shown and on those after it. -/
def positionsFrom (s : State) (settings : List Setting) : List Nat :=
  ((s.pagesFrom settings).flatMap Page.rows).map Row.index

/-- What filtering a column by a text finds. -/
structure Finds (c : Column) (text : String) (settings : List Setting) (s : State) : Prop where
  found : ∀ i, i ∈ s.positionsFrom settings ↔ ∃ setting, settings[i]? = some setting ∧
    Text.lowercaseChars (Text.trimChars text.toList)
      <:+: Text.lowercaseChars (setting.shownIn c).toList
  once : (s.positionsFrom settings).Nodup
  counted : (s.view settings).totalRows = (s.positionsFrom settings).length
  /-- The trimmed text stands in the cell, and so do the forms of its sigmas. -/
  kept : ∀ i setting before after, settings[i]? = some setting →
    (setting.shownIn c).toList = before ++ Text.trimChars text.toList ++ after →
    Text.KeepsSigmas before.reverse (Text.trimChars text.toList) after →
    i ∈ s.positionsFrom settings
  /-- The text stands in the cell and has no capital sigma. -/
  kept_of_no_sigma : ∀ i setting, settings[i]? = some setting →
    text.toList <:+: (setting.shownIn c).toList → 'Σ' ∉ text.toList → i ∈ s.positionsFrom settings

variable {s : State} {settings : List Setting}

theorem positionsFrom_of_first (first : s.page = 0) :
    s.positionsFrom settings = (s.shownSettings settings).map Prod.snd := by
  have number : (s.view settings).number = 0 := by
    rw [number_view, first]
    exact Nat.zero_min _
  rw [positionsFrom, rows_pagesFrom, number, Nat.zero_mul, List.drop_zero, List.map_map]
  rfl

theorem mem_positionsFrom_of_first (first : s.page = 0) {i : Nat} :
    i ∈ s.positionsFrom settings ↔
      ∃ setting, settings[i]? = some setting ∧ s.isMatch setting = true := by
  rw [positionsFrom_of_first first, List.mem_map]
  constructor
  · rintro ⟨r, shown, rfl⟩
    exact ⟨r.1, mem_shownSettings.mp shown⟩
  · rintro ⟨setting, found⟩
    exact ⟨(setting, i), mem_shownSettings.mpr found, rfl⟩

theorem finds_of_filter {c : Column} {text : String} (first : s.page = 0)
    (filtered : s.filter = some ⟨c, text⟩) (settings : List Setting) : Finds c text settings s := by
  have found : ∀ i, i ∈ s.positionsFrom settings ↔ ∃ setting, settings[i]? = some setting ∧
      Text.lowercaseChars (Text.trimChars text.toList)
        <:+: Text.lowercaseChars (setting.shownIn c).toList := by
    intro i
    rw [mem_positionsFrom_of_first first]
    simp only [isMatch_iff, filtered, Option.some.injEq, forall_eq']
    rfl
  have kept : ∀ i setting before after, settings[i]? = some setting →
      (setting.shownIn c).toList = before ++ Text.trimChars text.toList ++ after →
      Text.KeepsSigmas before.reverse (Text.trimChars text.toList) after →
      i ∈ s.positionsFrom settings := by
    intro i setting before after given stands keeps
    refine (found i).mpr ⟨setting, given, ?_⟩
    rw [stands]
    exact keeps.infix
  refine { found := found, once := ?_, counted := ?_, kept := kept, kept_of_no_sigma := ?_ }
  · rw [positionsFrom_of_first first]
    exact shownSettings_nodup
  · rw [positionsFrom_of_first first, List.length_map]
    rfl
  · intro i setting given stands none
    have trimmed := Text.trimChars_infix text.toList
    obtain ⟨before, after, split⟩ := trimmed.trans stands
    refine kept i setting before after given split.symm ?_
    exact Text.keepsSigmas_of_not_mem (fun sigma => none (trimmed.mem sigma)) _ _

theorem setFilter_of_given (s : State) {c : Column} (able : c.isFilterable = true) {text : String}
    (given : Text.isBlankText text = false) :
    s.setFilter c text = .ok { s with filter := some ⟨c, text⟩, page := 0 } := by
  rw [setFilter, if_pos able, given]
  rfl

/-- Filtering by a text that is not blank succeeds in every column with data, and it finds every
setting whose cell holds the text, but for the two forms of a small sigma. -/
theorem finds_of_setFilter (s : State) {c : Column} (able : c.isFilterable = true) {text : String}
    (given : Text.isBlankText text = false) (settings : List Setting) :
    ∃ s', s.setFilter c text = .ok s' ∧ Finds c text settings s' := by
  exact ⟨_, s.setFilter_of_given able given, finds_of_filter rfl rfl settings⟩

/-- A sigma that ends a word neither in the text nor in the cell, which goes on after it. -/
theorem finds_of_inner_sigma :
    Column.datasetName.isFilterable = true ∧ Text.isBlankText " ΣΥ" = false ∧
      ∃ s', setFilter ⟨3, none, none, [.minArea]⟩ .datasetName " ΣΥ" = .ok s' ∧
        Finds .datasetName " ΣΥ" [⟨7, none, "ΟΔΥΣΣΕΥΣ ΣΥΝ", "box", "mask", none, none⟩] s' := by
  have given : Text.isBlankText " ΣΥ" = false := by decide +kernel
  exact ⟨rfl, given, finds_of_setFilter _ rfl given _⟩

/-- The text ends in a sigma and the cell goes on, so the filter misses a cell that holds the
text. -/
theorem missed_of_final_sigma :
    ∃ s', initial.setFilter .datasetName "ΑΣ" = .ok s' ∧
      "ΑΣ".toList <:+:
        (Setting.shownIn ⟨7, none, "ΑΣΑ", "box", "mask", none, none⟩ .datasetName).toList ∧
      Text.isBlankText "ΑΣ" = false ∧
      (s'.view [⟨7, none, "ΑΣΑ", "box", "mask", none, none⟩]).totalRows = 0 ∧
      s'.positionsFrom [⟨7, none, "ΑΣΑ", "box", "mask", none, none⟩] = [] := by
  have given : Text.isBlankText "ΑΣ" = false := by decide +kernel
  refine ⟨_, initial.setFilter_of_given rfl given, ?_, given, ?_, ?_⟩
  · exact ⟨[], ['Α'], by decide +kernel⟩
  · decide +kernel
  · rw [positionsFrom_of_first rfl]
    decide +kernel

end EvaluationBrowser.Grid.State
