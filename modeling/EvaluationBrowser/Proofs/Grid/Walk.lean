/-
# Walking through the pages shows every match once

The pages of a walk are the slices of one list, the settings shown, so their rows put together are
what is left of that list from the first page of the walk on. The rest is about that list: it holds
every match once, by its position in the list given, in the stable order of the sort.
-/
import EvaluationBrowser.Proofs.Grid.Order
import EvaluationBrowser.Proofs.Grid.Shown
import EvaluationBrowser.Proofs.Grid.Sorting

namespace EvaluationBrowser.Grid

namespace State

variable (s : State) (settings : List Setting)

/-! ## The settings shown -/

/-- The settings that match, each with its position, in the order in which they are given. -/
def foundSettings : List (Setting × Nat) := settings.zipIdx.filter fun r => s.isMatch r.1

theorem shownSettings_perm : (s.shownSettings settings).Perm (s.foundSettings settings) := by
  unfold shownSettings
  cases s.sort with
  | none => exact .refl _
  | some sort => exact sortBy_perm _ _

theorem map_fst_foundSettings :
    (s.foundSettings settings).map Prod.fst = settings.filter s.isMatch := by
  rw [foundSettings, ← Function.comp_def s.isMatch, ← List.filter_map, List.zipIdx_map_fst]

theorem map_fst_shownSettings_perm :
    ((s.shownSettings settings).map Prod.fst).Perm (settings.filter s.isMatch) := by
  rw [← map_fst_foundSettings]
  exact (s.shownSettings_perm settings).map Prod.fst

theorem foundSettings_increasing :
    (s.foundSettings settings).Pairwise fun a b => a.2 < b.2 := by
  refine List.Pairwise.filter _ (List.pairwise_iff_getElem.mpr ?_)
  intro i j hi hj lt
  simpa using lt

variable {s settings}

theorem mem_shownSettings {r : Setting × Nat} :
    r ∈ s.shownSettings settings ↔ settings[r.2]? = some r.1 ∧ s.isMatch r.1 = true := by
  rw [(s.shownSettings_perm settings).mem_iff, foundSettings, List.mem_filter,
    List.mem_zipIdx_iff_getElem?]

theorem fst_mem_of_mem_shownSettings {r : Setting × Nat} (shown : r ∈ s.shownSettings settings) :
    r.1 ∈ settings :=
  List.mem_of_getElem? (mem_shownSettings.mp shown).1

theorem shownSettings_nodup : ((s.shownSettings settings).map Prod.snd).Nodup := by
  rw [((s.shownSettings_perm settings).map Prod.snd).nodup_iff, List.nodup_iff_pairwise_ne,
    List.pairwise_map]
  exact (s.foundSettings_increasing settings).imp fun lt => Nat.ne_of_lt lt

theorem shownSettings_of_unsorted (unsorted : s.sort = none) :
    (s.shownSettings settings).Pairwise fun a b => a.2 < b.2 := by
  rw [shownSettings, unsorted]
  exact s.foundSettings_increasing settings

theorem shownSettings_of_sorted {sort : SortOrder} (sorted : s.sort = some sort)
    (numbers : ∀ setting ∈ settings, setting.HasNumbers) :
    (s.shownSettings settings).Pairwise fun a b =>
      sort.compare a.1 b.1 = .lt ∨ sort.compare a.1 b.1 = .eq ∧ a.2 < b.2 := by
  have hasNumbers : ∀ r ∈ s.shownSettings settings, r.1.HasNumbers :=
    fun r hr => numbers r.1 (fst_mem_of_mem_shownSettings hr)
  have found : ∀ r ∈ s.foundSettings settings, r.1.HasNumbers :=
    fun r hr => hasNumbers r ((s.shownSettings_perm settings).mem_iff.mpr hr)
  have := transCmp_comap sort.keyCompare (Prod.fst : Setting × Nat → Setting)
  have stable : (s.shownSettings settings).Pairwise
      (StablyBefore (fun a b => sort.keyCompare a.1 b.1) fun a b => a.2 < b.2) := by
    rw [shownSettings, sorted]
    refine sortBy_pairwise ?_ (s.foundSettings_increasing settings)
    intro a ha b hb
    rw [sort.isBefore_eq, sort.compare_eq_keyCompare (found a ha) (found b hb)]
  refine stable.imp_of_mem ?_
  intro a b ha hb before
  rw [sort.compare_eq_keyCompare (hasNumbers a ha) (hasNumbers b hb)]
  exact before

/-! ## The page shown -/

section Page

variable (s : State) (settings : List Setting)

/-- There is something on the page that is shown, unless it is the first. -/
theorem number_view_mul_lt : (s.view settings).number = 0 ∨
    (s.view settings).number * pageSize < (s.view settings).totalRows := by
  have number := number_view s settings
  have count : (s.view settings).pageCount = pageCount (s.view settings).totalRows := rfl
  simp only [pageCount, pageSize] at count ⊢
  omega

theorem one_lt_pageCount_view :
    1 < (s.view settings).pageCount ↔ pageSize < (s.view settings).totalRows := by
  have count : (s.view settings).pageCount = pageCount (s.view settings).totalRows := rfl
  simp only [pageCount, pageSize] at count ⊢
  omega

theorem hasPrevious_view :
    (s.view settings).hasPrevious = true ↔ (s.view settings).number ≠ 0 :=
  decide_eq_true_iff.trans Nat.pos_iff_ne_zero

theorem hasNext_view :
    (s.view settings).hasNext = true ↔
      ((s.view settings).number + 1) * pageSize < (s.view settings).totalRows := by
  have number := number_view s settings
  have count : (s.view settings).pageCount = pageCount (s.view settings).totalRows := rfl
  rw [Page.hasNext, decide_eq_true_iff]
  simp only [pageCount, pageSize] at count ⊢
  omega

theorem isEmpty_view : (s.view settings).isEmpty = true ↔ (s.view settings).totalRows = 0 := by
  have within := s.number_view_mul_lt settings
  have total : (s.view settings).totalRows = (s.shownSettings settings).length := rfl
  rw [Page.isEmpty, List.isEmpty_iff_length_eq_zero, rows_view, List.length_map, List.length_take,
    List.length_drop, ← total]
  simp only [pageSize] at within ⊢
  omega

end Page

/-! ## The pages of a walk -/

/-- The rows of a page and of those after it are the rest of the settings shown. -/
theorem rows_pagesFrom (settings : List Setting) (s : State) :
    (s.pagesFrom settings).flatMap Page.rows
      = ((s.shownSettings settings).drop ((s.view settings).number * pageSize)).map
          (row s.visibleColumns) := by
  induction s using pagesFrom.induct settings with
  | case1 s next ih =>
      rw [pagesFrom, if_pos next, List.flatMap_cons, ih, number_view_nextPage next,
        shownSettings_nextPage, visibleColumns_nextPage, Nat.add_mul, Nat.one_mul,
        ← List.drop_drop]
      rw [rows_view, ← List.map_append, List.take_append_drop]
  | case2 s last =>
      have count : (s.view settings).pageCount = pageCount (s.shownSettings settings).length := rfl
      have few := of_decide_eq_false (Bool.eq_false_iff.mpr last)
      simp only [count, pageCount, pageSize] at few
      rw [pagesFrom, if_neg last, List.flatMap_singleton, rows_view, List.take_of_length_le]
      rw [List.length_drop, pageSize]
      omega

theorem length_pagesFrom (settings : List Setting) (s : State) :
    (s.pagesFrom settings).length
      = (s.view settings).pageCount - (s.view settings).number := by
  induction s using pagesFrom.induct settings with
  | case1 s next ih =>
      rw [pagesFrom, if_pos next, List.length_cons, ih, number_view_nextPage next,
        pageCount_view_nextPage]
      have := of_decide_eq_true next
      omega
  | case2 s last =>
      have := of_decide_eq_false (Bool.eq_false_iff.mpr last)
      have number := number_view s settings
      have count : 1 ≤ (s.view settings).pageCount := Nat.le_max_left ..
      rw [pagesFrom, if_neg last, List.length_singleton]
      omega

/-! ## The theorem -/

/-- The pages of a walk over the settings show every match once and in order. -/
structure ShowsMatches (settings : List Setting) (s : State) (pages : List Page) : Prop where
  /-- There is one step fewer than there are pages. -/
  steps : pages.length = (s.view settings).pageCount
  /-- No position is shown twice. -/
  once : ((pages.flatMap Page.rows).map Row.index).Nodup
  /-- The positions shown are those of the settings that match. -/
  matching : ∀ i, i ∈ (pages.flatMap Page.rows).map Row.index ↔
    ∃ setting, settings[i]? = some setting ∧
      ∀ filter, s.filter = some filter → filter.Finds setting
  /-- What is shown at a position is the setting at that position. -/
  faithful : ∀ r ∈ pages.flatMap Page.rows, ∃ setting, settings[r.index]? = some setting ∧
    r = ⟨setting.id, r.index, s.visibleColumns.map setting.cellIn⟩
  unsorted : s.sort = none → (pages.flatMap Page.rows).Pairwise fun a b => a.index < b.index
  sorted : ∀ sort, s.sort = some sort → (pages.flatMap Page.rows).Pairwise fun a b =>
    ∀ x y, settings[a.index]? = some x → settings[b.index]? = some y →
      sort.compare x y = .lt ∨ sort.compare x y = .eq ∧ a.index < b.index

/-- A walk from the first page shows every match once and in order. -/
theorem showsMatches_pagesFrom (settings : List Setting)
    (numbers : ∀ setting ∈ settings, setting.HasNumbers) (s : State) (pageCount : Nat) :
    ShowsMatches settings s ((s.setPage 0 pageCount).pagesFrom settings) := by
  have first : ((s.setPage 0 pageCount).view settings).number = 0 := by
    rw [number_view, setPage, Nat.zero_min, Nat.zero_min]
  have rows : ((s.setPage 0 pageCount).pagesFrom settings).flatMap Page.rows
      = (s.shownSettings settings).map (row s.visibleColumns) := by
    rw [rows_pagesFrom, first, Nat.zero_mul, List.drop_zero, shownSettings_setPage,
      visibleColumns_setPage]
  have positions : (((s.setPage 0 pageCount).pagesFrom settings).flatMap Page.rows).map Row.index
      = (s.shownSettings settings).map Prod.snd := by
    rw [rows, List.map_map]
    rfl
  refine { steps := ?_, once := ?_, matching := ?_, faithful := ?_, unsorted := ?_, sorted := ?_ }
  · rw [length_pagesFrom, first, pageCount_view_setPage, Nat.sub_zero]
  · rw [positions]
    exact shownSettings_nodup
  · intro i
    rw [positions, List.mem_map]
    simp only [← isMatch_iff]
    constructor
    · rintro ⟨r, shown, rfl⟩
      exact ⟨r.1, mem_shownSettings.mp shown⟩
    · rintro ⟨setting, found⟩
      exact ⟨(setting, i), mem_shownSettings.mpr found, rfl⟩
  · rw [rows]
    intro r hr
    obtain ⟨shown, mem, rfl⟩ := List.mem_map.mp hr
    refine ⟨shown.1, (mem_shownSettings.mp mem).1, ?_⟩
    rw [row_eq]
  · intro unsorted
    rw [rows, List.pairwise_map]
    exact shownSettings_of_unsorted unsorted
  · intro sort sorted
    rw [rows, List.pairwise_map]
    refine (shownSettings_of_sorted sorted numbers).imp_of_mem ?_
    intro a b ha hb before x y hx hy
    cases (mem_shownSettings.mp ha).1.symm.trans hx
    cases (mem_shownSettings.mp hb).1.symm.trans hy
    exact before

/-- Two settings that tie, from the greatest to the least. -/
theorem showsMatches_of_tie :
    (∀ setting ∈ [⟨7, "m", "a", "", "", none, some .zero⟩, ⟨7, "m", "b", "", "", none, some .zero⟩],
      Setting.HasNumbers setting) ∧
    ShowsMatches [⟨7, "m", "a", "", "", none, some .zero⟩, ⟨7, "m", "b", "", "", none, some .zero⟩]
      ⟨3, some ⟨.maxArea, .descending⟩, none, []⟩
      ((setPage ⟨3, some ⟨.maxArea, .descending⟩, none, []⟩ 0 1).pagesFrom
        [⟨7, "m", "a", "", "", none, some .zero⟩, ⟨7, "m", "b", "", "", none, some .zero⟩]) := by
  have numbers : ∀ setting ∈ [⟨7, "m", "a", "", "", none, some .zero⟩,
      ⟨7, "m", "b", "", "", none, some .zero⟩], Setting.HasNumbers setting := by
    intro setting mem bound
    simp only [List.mem_cons, List.not_mem_nil, or_false] at mem
    rcases mem with rfl | rfl <;> cases bound <;> exact nofun
  exact ⟨numbers, showsMatches_pagesFrom _ numbers _ _⟩

end State

end EvaluationBrowser.Grid
