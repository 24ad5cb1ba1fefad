/-
# Where a page stands

The rows that match stand in one line, in the order in which they are shown, and the page shown is
the piece of it that its number says. What stands before the piece and what stands behind it decides
everything else: whether there is a previous and a next page, what they show, and the positions in
the label. Nothing is asked of the page kept, so it may have been kept for another list: the page
shown is the nearest that there is, and stepping starts from that one.

The numbers stay words of 64 bits as long as the number of settings and one more is a word. That is
so of every list in a memory with addresses of 64 bits, since a setting takes more than one byte.
The largest number that is ever made is the position behind the last row, in the label.
-/
import EvaluationBrowser.Grid.Word
import EvaluationBrowser.Proofs.Grid.Walk

namespace EvaluationBrowser.Grid.State

variable (s : State) (settings : List Setting)

/-- The rows of all settings that match, in the order in which they are shown. -/
def matchingRows : List Row := (s.shownSettings settings).map (row s.visibleColumns)

/-- The page of some number. -/
def pageAt (number : Nat) : Page :=
  { columns := s.visibleColumns
    rows := ((s.matchingRows settings).drop (number * pageSize)).take pageSize
    number
    pageCount := pageCount (s.shownSettings settings).length
    totalRows := (s.shownSettings settings).length }

/-- What stands before and behind the page shown, and what follows from that. -/
structure StandsBetween (before after : List Row) : Prop where
  matchingRows : s.matchingRows settings = before ++ (s.view settings).rows ++ after
  length_before : before.length = (s.view settings).number * pageSize
  hasPrevious_iff : (s.view settings).hasPrevious = true ↔ before ≠ []
  hasNext_iff : (s.view settings).hasNext = true ↔ after ≠ []
  /-- The positions of the first and the last row shown, counted from one. -/
  rangeLabel : (s.view settings).rangeLabel =
    if (s.view settings).totalRows = 0 then "0–0 of 0"
    else toString (before.length + 1) ++ "–"
      ++ toString (before.length + (s.view settings).rows.length)
      ++ " of " ++ toString (s.view settings).totalRows
  /-- A step forward shows the first rows behind the page. -/
  next : after ≠ [] →
    ((s.nextPage (s.view settings).pageCount).view settings).number
        = (s.view settings).number + 1 ∧
      ((s.nextPage (s.view settings).pageCount).view settings).rows = after.take pageSize
  next_of_last : after = [] →
    (s.nextPage (s.view settings).pageCount).view settings = s.view settings
  /-- A step back shows the last rows before the page. -/
  previous : before ≠ [] →
    ((s.previousPage (s.view settings).pageCount).view settings).number + 1
        = (s.view settings).number ∧
      ((s.previousPage (s.view settings).pageCount).view settings).rows
        = before.drop (before.length - pageSize)
  previous_of_first : before = [] →
    (s.previousPage (s.view settings).pageCount).view settings = s.view settings

/-- What the page shown has to do with the page kept and with the settings. -/
structure ShowsPage : Prop where
  number : (s.view settings).number = min s.page ((s.view settings).pageCount - 1)
  /-- The pages hold all rows that match, and none of them is empty but the first. -/
  pageCount : 0 < (s.view settings).pageCount ∧
    (s.view settings).totalRows ≤ (s.view settings).pageCount * pageSize ∧
    ∀ number, 0 < number → number < (s.view settings).pageCount →
      number * pageSize < (s.view settings).totalRows
  totalRows : (s.view settings).totalRows = (settings.filter s.isMatch).length
  matching : (s.matchingRows settings).Perm
    ((s.foundSettings settings).map (row s.visibleColumns))
  rows_iff : (s.view settings).rows ≠ [] ↔
    ∃ setting ∈ settings, ∀ filter, s.filter = some filter → filter.Finds setting
  length_rows : (s.view settings).rows.length
    = min pageSize ((s.view settings).totalRows - (s.view settings).number * pageSize)
  stands : ∃ before after, s.StandsBetween settings before after

/-- Paging in machine words has a result in every step, and it is the one without bounds. -/
structure FitsWords : Prop where
  view : s.view? settings = some (s.view settings)
  hasNext : (s.view settings).hasNext? = some (s.view settings).hasNext
  rangeLabel : (s.view settings).rangeLabel? = some (s.view settings).rangeLabel
  nextPage : s.nextPage? (s.view settings).pageCount
    = some (s.nextPage (s.view settings).pageCount)

/-! ## Pages by their number -/

theorem length_matchingRows :
    (s.matchingRows settings).length = (s.view settings).totalRows := List.length_map ..

theorem view_eq_pageAt : s.view settings = s.pageAt settings (s.view settings).number := by
  have rows : (s.view settings).rows
      = (s.pageAt settings (s.view settings).number).rows := by
    rw [rows_view, List.map_take, List.map_drop]
    rfl
  exact congrArg (fun rows => { s.pageAt settings (s.view settings).number with rows }) rows

theorem pageCount_view :
    (s.view settings).pageCount = Grid.pageCount (s.view settings).totalRows := rfl

theorem pageCount_pos : 0 < (s.view settings).pageCount :=
  Nat.lt_of_lt_of_le Nat.one_pos (Nat.le_max_left ..)

/-- Forward, or not at all from the last page. -/
theorem view_nextPage :
    (s.nextPage (s.view settings).pageCount).view settings
      = s.pageAt settings
          (min ((s.view settings).number + 1) ((s.view settings).pageCount - 1)) := by
  have number : ((s.nextPage (s.view settings).pageCount).view settings).number
      = min ((s.view settings).number + 1) ((s.view settings).pageCount - 1) := by
    rw [number_view, number_view, pageCount_view_nextPage]
    exact Nat.min_eq_left (Nat.min_le_right ..)
  have same := view_eq_pageAt (s.nextPage (s.view settings).pageCount) settings
  rw [number] at same
  exact same

/-- Back, or not at all from the first page. -/
theorem view_previousPage :
    (s.previousPage (s.view settings).pageCount).view settings
      = s.pageAt settings ((s.view settings).number - 1) := by
  have number : ((s.previousPage (s.view settings).pageCount).view settings).number
      = (s.view settings).number - 1 := by
    have shown := number_view s settings
    rw [number_view]
    change min (min s.page ((s.view settings).pageCount - 1) - 1)
      ((s.view settings).pageCount - 1) = _
    omega
  have same := view_eq_pageAt (s.previousPage (s.view settings).pageCount) settings
  rw [number] at same
  exact same

/-! ## The page shown -/

theorem length_rows_view :
    (s.view settings).rows.length
      = min pageSize ((s.view settings).totalRows - (s.view settings).number * pageSize) := by
  rw [rows_view, List.length_map, List.length_take, List.length_drop]
  rfl

theorem totalRows_view : (s.view settings).totalRows = (settings.filter s.isMatch).length := by
  rw [← (s.map_fst_shownSettings_perm settings).length_eq, List.length_map]
  rfl

theorem rows_view_ne_nil_iff :
    (s.view settings).rows ≠ [] ↔
      ∃ setting ∈ settings, ∀ filter, s.filter = some filter → filter.Finds setting := by
  simp only [← isMatch_iff]
  have empty := s.isEmpty_view settings
  rw [Page.isEmpty, List.isEmpty_iff, totalRows_view, List.length_eq_zero_iff,
    List.filter_eq_nil_iff] at empty
  rw [ne_eq, empty]
  simp only [Classical.not_forall, Classical.not_not, exists_prop]

theorem pages_hold_all :
    (s.view settings).totalRows ≤ (s.view settings).pageCount * pageSize ∧
      ∀ number, 0 < number → number < (s.view settings).pageCount →
        number * pageSize < (s.view settings).totalRows := by
  have count := pageCount_view s settings
  simp only [Grid.pageCount, pageSize] at count ⊢
  constructor
  · omega
  · intro number pos lt
    omega

/-! ## What stands before and behind -/

def rowsBefore : List Row := (s.matchingRows settings).take ((s.view settings).number * pageSize)

def rowsBehind : List Row :=
  (s.matchingRows settings).drop (((s.view settings).number + 1) * pageSize)

theorem matchingRows_eq_append :
    s.matchingRows settings
      = s.rowsBefore settings ++ (s.view settings).rows ++ s.rowsBehind settings := by
  rw [view_eq_pageAt, pageAt, rowsBefore, rowsBehind]
  dsimp only
  rw [List.append_assoc, Nat.add_mul, Nat.one_mul, ← List.drop_drop, List.take_append_drop,
    List.take_append_drop]

theorem length_rowsBefore :
    (s.rowsBefore settings).length = (s.view settings).number * pageSize := by
  refine List.length_take_of_le ?_
  rcases s.number_view_mul_lt settings with first | lt
  · rw [first, Nat.zero_mul]
    exact Nat.zero_le _
  · exact s.length_matchingRows settings ▸ Nat.le_of_lt lt

theorem rowsBefore_ne_nil_iff : s.rowsBefore settings ≠ [] ↔ (s.view settings).number ≠ 0 := by
  rw [ne_eq, ← List.length_eq_zero_iff, length_rowsBefore]
  simp only [pageSize]
  omega

theorem rowsBehind_ne_nil_iff :
    s.rowsBehind settings ≠ [] ↔ (s.view settings).hasNext = true := by
  rw [s.hasNext_view settings, rowsBehind, ne_eq, List.drop_eq_nil_iff, length_matchingRows,
    Nat.not_le]

theorem rangeLabel_view :
    (s.view settings).rangeLabel =
      if (s.view settings).totalRows = 0 then "0–0 of 0"
      else toString ((s.rowsBefore settings).length + 1) ++ "–"
        ++ toString ((s.rowsBefore settings).length + (s.view settings).rows.length)
        ++ " of " ++ toString (s.view settings).totalRows := by
  have last : (s.view settings).number * pageSize + 1 + (s.view settings).rows.length - 1
      = (s.view settings).number * pageSize + (s.view settings).rows.length := by omega
  rw [Page.rangeLabel, length_rowsBefore]
  dsimp only
  rw [last]

/-! ## Steps -/

theorem view_nextPage_of_rowsBehind (some : s.rowsBehind settings ≠ []) :
    (s.nextPage (s.view settings).pageCount).view settings
      = s.pageAt settings ((s.view settings).number + 1) := by
  have more := of_decide_eq_true ((s.rowsBehind_ne_nil_iff settings).mp some)
  have step : min ((s.view settings).number + 1) ((s.view settings).pageCount - 1)
      = (s.view settings).number + 1 := by omega
  rw [view_nextPage, step]

theorem view_nextPage_of_last (none : s.rowsBehind settings = []) :
    (s.nextPage (s.view settings).pageCount).view settings = s.view settings := by
  have no : (s.view settings).hasNext = false :=
    Bool.eq_false_iff.mpr fun next => (s.rowsBehind_ne_nil_iff settings).mpr next none
  have few := of_decide_eq_false no
  have number := number_view s settings
  have stay : min ((s.view settings).number + 1) ((s.view settings).pageCount - 1)
      = (s.view settings).number := by omega
  rw [view_nextPage, stay, ← view_eq_pageAt]

/-- The last rows before the page are the page before it. -/
theorem rows_pageAt_pred (some : s.rowsBefore settings ≠ []) :
    (s.pageAt settings ((s.view settings).number - 1)).rows
      = (s.rowsBefore settings).drop ((s.rowsBefore settings).length - pageSize) := by
  have pos := (s.rowsBefore_ne_nil_iff settings).mp some
  have back : (s.view settings).number * pageSize - pageSize
      = ((s.view settings).number - 1) * pageSize := by rw [Nat.sub_mul, Nat.one_mul]
  have one : (s.view settings).number * pageSize - ((s.view settings).number - 1) * pageSize
      = pageSize := by
    simp only [pageSize]
    omega
  rw [length_rowsBefore, back, rowsBefore, List.drop_take, one]
  rfl

theorem view_previousPage_of_first (none : s.rowsBefore settings = []) :
    (s.previousPage (s.view settings).pageCount).view settings = s.view settings := by
  have first : (s.view settings).number = 0 :=
    Classical.byContradiction fun other => (s.rowsBefore_ne_nil_iff settings).mpr other none
  have stay : (s.view settings).number - 1 = (s.view settings).number := by omega
  rw [view_previousPage, stay, ← view_eq_pageAt]

theorem standsBetween :
    s.StandsBetween settings (s.rowsBefore settings) (s.rowsBehind settings) where
  matchingRows := s.matchingRows_eq_append settings
  length_before := s.length_rowsBefore settings
  hasPrevious_iff := (s.hasPrevious_view settings).trans (s.rowsBefore_ne_nil_iff settings).symm
  hasNext_iff := (s.rowsBehind_ne_nil_iff settings).symm
  rangeLabel := s.rangeLabel_view settings
  next some := by
    rw [s.view_nextPage_of_rowsBehind settings some]
    exact ⟨rfl, rfl⟩
  next_of_last := s.view_nextPage_of_last settings
  previous some := by
    rw [view_previousPage, ← s.rows_pageAt_pred settings some]
    exact ⟨Nat.succ_pred ((s.rowsBefore_ne_nil_iff settings).mp some), rfl⟩
  previous_of_first := s.view_previousPage_of_first settings

/-! ## Words -/

theorem pageCount?_eq {totalRows : Nat} (small : totalRows < 2 ^ 64) :
    pageCount? totalRows = some (Grid.pageCount totalRows) := by
  rw [pageCount?, Grid.pageCount]
  by_cases even : totalRows % pageSize = 0
  · rw [if_pos even]
    refine congrArg some ?_
    rw [pageSize] at even ⊢
    omega
  · rw [if_neg even, word?_succ (by rw [pageSize]; omega)]
    refine congrArg some ?_
    rw [pageSize] at even ⊢
    omega

theorem view?_eq (small : (s.view settings).totalRows < 2 ^ 64) :
    s.view? settings = some (s.view settings) := by
  have start : s.shownPage (Grid.pageCount (s.shownSettings settings).length) * pageSize
      < 2 ^ 64 := by
    rcases s.number_view_mul_lt settings with first | lt
    · have zero : s.shownPage (Grid.pageCount (s.shownSettings settings).length) = 0 := first
      rw [zero, Nat.zero_mul]
      exact Nat.two_pow_pos 64
    · exact Nat.lt_trans lt small
  have total : word? (s.shownSettings settings).length = some (s.shownSettings settings).length :=
    word?_natCast small
  have count : pageCount? (s.shownSettings settings).length
      = some (Grid.pageCount (s.shownSettings settings).length) := pageCount?_eq small
  rw [view?]
  dsimp only
  rw [total, Option.bind_eq_bind, Option.bind_some, count, Option.bind_some, word?_mul start,
    Option.bind_some]
  rfl

theorem fitsWords (small : settings.length + 1 < 2 ^ 64) : s.FitsWords settings := by
  have matching : (s.view settings).totalRows ≤ settings.length := by
    rw [totalRows_view]
    exact List.length_filter_le ..
  have number := number_view s settings
  have count := pageCount_view s settings
  have positive := s.pageCount_pos settings
  have within := s.number_view_mul_lt settings
  have rows := s.length_rows_view settings
  have following : (s.view settings).number + 1 < 2 ^ 64 := by
    rw [pageSize] at within
    omega
  refine { view := ?_, hasNext := ?_, rangeLabel := ?_, nextPage := ?_ }
  · refine s.view?_eq settings (Nat.lt_of_le_of_lt matching ?_)
    exact Nat.lt_of_succ_lt small
  · rw [Page.hasNext?, word?_succ following]
    rfl
  · have behind : (s.view settings).totalRows ≠ 0 →
        (s.view settings).number * pageSize + 1 + (s.view settings).rows.length < 2 ^ 64 := by
      intro some
      rw [pageSize] at within rows ⊢
      omega
    rw [Page.rangeLabel?, Page.rangeLabel]
    by_cases none : (s.view settings).totalRows = 0
    · rw [if_pos none, if_pos none]
    · have small := behind none
      rw [if_neg none, if_neg none, word?_mul (by omega), Option.bind_eq_bind, Option.bind_some,
        word?_succ (by omega), Option.bind_some, word?_add small, Option.bind_some,
        word?_pred (by omega) small, Option.bind_some]
  · have shown : s.shownPage (s.view settings).pageCount = (s.view settings).number := rfl
    rw [nextPage?, shown, word?_succ following]
    rfl

/-! ## The theorem -/

/-- Whatever page is kept and whatever list is given: the page shown is the nearest one to the page
kept, its place among the rows that match decides what else is told of it, and no number on the way
is too large for a machine. -/
theorem showsPage_view :
    s.ShowsPage settings ∧ (settings.length + 1 < 2 ^ 64 → s.FitsWords settings) where
  left :=
    { number := number_view s settings
      pageCount := ⟨s.pageCount_pos settings, s.pages_hold_all settings⟩
      totalRows := s.totalRows_view settings
      matching := (s.shownSettings_perm settings).map _
      rows_iff := s.rows_view_ne_nil_iff settings
      length_rows := s.length_rows_view settings
      stands := ⟨_, _, s.standsBetween settings⟩ }
  right := s.fitsWords settings

/-- The largest page that can be kept, with six settings of which one does not match. -/
theorem showsPage_of_largest :
    ∃ settings : List Setting, settings.length + 1 < 2 ^ 64 ∧
      ShowsPage ⟨2 ^ 64 - 1, none, some ⟨.datasetName, "a"⟩, []⟩ settings ∧
      FitsWords ⟨2 ^ 64 - 1, none, some ⟨.datasetName, "a"⟩, []⟩ settings := by
  have small : (⟨9, none, "b", "", "", none, none⟩
      :: List.replicate 5 (⟨7, none, "a", "", "", none, none⟩ : Setting)).length + 1 < 2 ^ 64 := by
    decide
  obtain ⟨shows, fits⟩ := showsPage_view ⟨2 ^ 64 - 1, none, some ⟨.datasetName, "a"⟩, []⟩
    (⟨9, none, "b", "", "", none, none⟩
      :: List.replicate 5 (⟨7, none, "a", "", "", none, none⟩ : Setting))
  exact ⟨_, small, shows, fits small⟩

end EvaluationBrowser.Grid.State
