/-
# Which queries are accepted

A column can be sorted by, filtered by and hidden if it shows data, so every option comes down to
the same question: does the field named belong to a column that shows data? A filter names the field
before its first equals sign. For the options that follow each other the answer does not depend on
the state that the ones before them have made, with one exception: a column that is hidden is not
asked again whether it can be. Hidden columns can, as long as every one was asked the first time.
-/
import EvaluationBrowser.CommandLine.Run
import EvaluationBrowser.Proofs.Checks
import EvaluationBrowser.Proofs.Grid.Reachable

namespace EvaluationBrowser

open Grid (Direction State)

namespace Grid.State

variable {s s' : State} {c : Column}

theorem setSort_eq_ok_iff {d : Direction} :
    s.setSort c d = .ok s' ↔ c.isSortable = true ∧ s' = { s with sort := some ⟨c, d⟩, page := 0 } :=
  ite_eq_ok_iff

theorem setFilter_eq_ok_iff {text : String} :
    s.setFilter c text = .ok s' ↔ c.isFilterable = true ∧
      s' = { s with
        filter := if Text.isBlankText text then none else some ⟨c, text⟩
        page := 0 } :=
  ite_eq_ok_iff

theorem toggleHidden_eq_ok_iff :
    s.toggleHidden c = .ok s' ↔ c.isHideable = true ∧
      s' = { s with hidden := if s.isHidden c then s.hidden.erase c else s.hidden ++ [c] } :=
  ite_eq_ok_iff

end Grid.State

namespace CommandLine

variable {s s' : State}

/-- The names of the columns that show data. -/
def NamesData (field : String) : Prop :=
  field ∈ ["dataset_name", "model_pred_task_type", "dataset_gt_task_type", "min_area", "max_area"]

theorem namesData_iff {field : String} :
    NamesData field ↔ ∃ c : Column, c.isData = true ∧ c.field = field := by
  constructor
  · intro named
    simp only [NamesData, List.mem_cons, List.not_mem_nil, or_false] at named
    rcases named with rfl | rfl | rfl | rfl | rfl
    · exact ⟨.datasetName, rfl, rfl⟩
    · exact ⟨.predictionTask, rfl, rfl⟩
    · exact ⟨.groundTruthTask, rfl, rfl⟩
    · exact ⟨.minArea, rfl, rfl⟩
    · exact ⟨.maxArea, rfl, rfl⟩
  · rintro ⟨c, data, rfl⟩
    cases c with
    | metrics => cases data
    | _ => simp [NamesData, Column.field, AreaBound.name]

theorem columnOf_eq_ok_iff {field : String} {c : Column} :
    columnOf field = .ok c ↔ c.field = field := by
  rw [columnOf]
  constructor
  · intro found
    split at found
    · next column =>
      cases found
      have named := List.find?_some column
      exact eq_of_beq named
    · cases found
  · rintro rfl
    rw [Column.ofField?_field]

theorem columnOf_eq_error_iff {field : String} {fault : RunFault} :
    columnOf field = .error fault ↔
      (∀ c : Column, c.field ≠ field) ∧ fault = .unknownColumn field := by
  rw [columnOf]
  cases found : Column.ofField? field with
  | some c =>
      have named := List.find?_some found
      have named : c.field = field := eq_of_beq named
      refine iff_of_false ?_ fun h => h.1 c named
      rintro ⟨⟩
  | none =>
      have none : ∀ c : Column, c.field ≠ field := by
        rintro c rfl
        rw [Column.ofField?_field] at found
        cases found
      constructor
      · intro failed
        exact ⟨none, (Except.error.inj failed).symm⟩
      · rintro ⟨-, rfl⟩
        rfl

/-! ## The parts of a query -/

theorem withSort_eq_ok_iff {isDescending : Bool} {field : String} :
    withSort s isDescending (some field) = .ok s' ↔
      ∃ c, c.isData = true ∧ c.field = field ∧
        s' = { s with
          sort := some ⟨c, if isDescending then .descending else .ascending⟩
          page := 0 } := by
  simp only [withSort, bind_eq_ok_iff, mapError_eq_ok_iff, State.setSort_eq_ok_iff,
    columnOf_eq_ok_iff]
  constructor
  · rintro ⟨c, named, able, same⟩
    exact ⟨c, able, named, same⟩
  · rintro ⟨c, able, named, same⟩
    exact ⟨c, named, able, same⟩

theorem splitAtEquals_of_not_mem {cs : List Char} (none : '=' ∉ cs) :
    splitAtEquals cs = (cs, Option.none) := by
  have before : ∀ c ∈ cs, (c != '=') = true := by
    intro c mem
    simp only [bne_iff_ne]
    rintro rfl
    exact none mem
  have rest : cs.dropWhile (· != '=') = [] := by
    have all : (cs ++ []).dropWhile (· != '=') = [] := List.dropWhile_append_of_pos before
    rwa [List.append_nil] at all
  rw [splitAtEquals, rest]

theorem splitAtEquals_append {before : List Char} (none : '=' ∉ before) (after : List Char) :
    splitAtEquals (before ++ '=' :: after) = (before, some after) := by
  have others : ∀ c ∈ before, (c != '=') = true := by
    intro c mem
    simp only [bne_iff_ne]
    rintro rfl
    exact none mem
  have rest : (before ++ '=' :: after).dropWhile (· != '=') = '=' :: after := by
    rw [List.dropWhile_append_of_pos others]
    rfl
  have first : (before ++ '=' :: after).takeWhile (· != '=') = before := by
    rw [List.takeWhile_append_of_pos others]
    exact List.append_nil before
  rw [splitAtEquals, rest, first]

theorem withFilter_of_not_mem {given : String} (none : '=' ∉ given.toList) :
    withFilter s (some given) = .error (.notAFilter given) := by
  simp only [withFilter]
  rw [splitAtEquals_of_not_mem none]

theorem withFilter_append {field : String} (none : '=' ∉ field.toList) (text : String) :
    withFilter s (some (field ++ "=" ++ text))
      = (columnOf field >>= fun c => (s.setFilter c text).mapError .failed) := by
  have parts : (field ++ "=" ++ text).toList = field.toList ++ '=' :: text.toList := by simp
  simp only [withFilter]
  rw [parts, splitAtEquals_append none]
  simp only [String.ofList_toList]

/-- A text with an equals sign is a field and a text, split at the first one. -/
theorem exists_field_of_mem {given : String} (mem : '=' ∈ given.toList) :
    ∃ field text, given = field ++ "=" ++ text ∧ '=' ∉ field.toList := by
  obtain ⟨before, after, split, none⟩ := List.eq_append_cons_of_mem mem
  refine ⟨String.ofList before, String.ofList after, ?_, by rwa [String.toList_ofList]⟩
  rw [← String.toList_inj, split]
  simp

theorem withFilter_eq_ok_iff {given : String} :
    withFilter s (some given) = .ok s' ↔
      ∃ field text, given = field ++ "=" ++ text ∧ '=' ∉ field.toList ∧
        ∃ c, c.isData = true ∧ c.field = field ∧
          s' = { s with
            filter := if Text.isBlankText text then none else some ⟨c, text⟩
            page := 0 } := by
  constructor
  · intro accepted
    by_cases mem : '=' ∈ given.toList
    · obtain ⟨field, text, parts, none⟩ := exists_field_of_mem mem
      rw [parts, withFilter_append none] at accepted
      simp only [bind_eq_ok_iff, mapError_eq_ok_iff, State.setFilter_eq_ok_iff,
        columnOf_eq_ok_iff] at accepted
      obtain ⟨c, named, able, same⟩ := accepted
      exact ⟨_, _, parts, none, c, able, named, same⟩
    · rw [withFilter_of_not_mem mem] at accepted
      cases accepted
  · rintro ⟨field, text, rfl, none, c, able, named, same⟩
    simp only [withFilter_append none, bind_eq_ok_iff, mapError_eq_ok_iff,
      State.setFilter_eq_ok_iff, columnOf_eq_ok_iff]
    exact ⟨c, named, able, same⟩

/-- Hiding columns that can be hidden, whether they are or not. -/
def hide (s : State) (c : Column) : State :=
  { s with hidden := if s.isHidden c then s.hidden else s.hidden ++ [c] }

/-- Whatever is hidden could be hidden. -/
def Hideable (s : State) : Prop := ∀ c ∈ s.hidden, c.isHideable = true

theorem hideable_of_none_hidden (none : s.hidden = []) : Hideable s := by
  rw [Hideable, none]
  exact fun _ mem => nomatch mem

theorem hide_eq_ok_iff {c : Column} (able : Hideable s) :
    (if s.isHidden c then .ok s else (s.toggleHidden c).mapError RunFault.failed) = .ok s' ↔
      c.isData = true ∧ s' = hide s c := by
  cases hidden : s.isHidden c with
  | true =>
      have data : c.isData = true := able c (State.isHidden_iff.mp hidden)
      have same : hide s c = s := by simp [hide, hidden]
      rw [if_pos rfl, same]
      exact ⟨fun h => ⟨data, (Except.ok.inj h).symm⟩, fun h => congrArg Except.ok h.2.symm⟩
  | false =>
      rw [if_neg Bool.false_ne_true, mapError_eq_ok_iff, State.toggleHidden_eq_ok_iff]
      simp [hide, hidden, Column.isHideable]

theorem hideable_hide {c : Column} (able : Hideable s) (data : c.isData = true) :
    Hideable (hide s c) := by
  intro d mem
  simp only [hide] at mem
  split at mem
  · exact able d mem
  · rcases List.mem_append.mp mem with old | new
    · exact able d old
    · rw [List.mem_singleton.mp new]
      exact data

theorem withHidden_cons (s : State) (field : String) (fields : List String) :
    withHidden s (field :: fields)
      = (columnOf field >>= fun c =>
          (if s.isHidden c then .ok s else (s.toggleHidden c).mapError .failed) >>= fun s =>
            withHidden s fields) := by
  rw [withHidden]
  congr 1
  funext c
  cases s.isHidden c with
  | true => rfl
  | false => rfl

theorem withHidden_eq_ok_iff {fields : List String} (able : Hideable s) :
    withHidden s fields = .ok s' ↔
      ∃ columns : List Column, (∀ c ∈ columns, c.isData = true) ∧
        columns.map Column.field = fields ∧ s' = columns.foldl hide s := by
  induction fields generalizing s with
  | nil =>
      constructor
      · intro done
        cases done
        exact ⟨[], by simp, rfl, rfl⟩
      · rintro ⟨columns, -, none, rfl⟩
        rw [List.map_eq_nil_iff.mp none]
        rfl
  | cons field fields ih =>
      simp only [withHidden_cons, bind_eq_ok_iff, columnOf_eq_ok_iff, hide_eq_ok_iff able]
      constructor
      · rintro ⟨c, named, _, ⟨data, rfl⟩, rest⟩
        obtain ⟨columns, others, fields, same⟩ := (ih (hideable_hide able data)).mp rest
        refine ⟨c :: columns, ?_, ?_, same⟩
        · exact List.forall_mem_cons.mpr ⟨data, others⟩
        · rw [List.map_cons, named, fields]
      · rintro ⟨columns, data, named, rfl⟩
        obtain ⟨c, columns, rfl, first, rest⟩ := List.map_eq_cons_iff.mp named
        obtain ⟨data, others⟩ := List.forall_mem_cons.mp data
        refine ⟨c, first, hide s c, ⟨data, rfl⟩, ?_⟩
        exact (ih (hideable_hide able data)).mpr ⟨columns, others, rest, rfl⟩

/-! ## The whole query -/

/-- The model has a name that can be one, and every option names a column that shows data. -/
structure Query.IsAccepted (query : Query) : Prop where
  model : isModelName query.model = true
  sort : ∀ field ∈ query.sort, NamesData field
  /-- The field of a filter stands before its first equals sign. -/
  filter : ∀ given ∈ query.filter, ∃ field text,
    given = field ++ "=" ++ text ∧ '=' ∉ field.toList ∧ NamesData field
  hidden : ∀ field ∈ query.hidden, NamesData field

theorem exists_withSort_iff {isDescending : Bool} {sort : Option String} :
    (∃ s', withSort s isDescending sort = .ok s') ↔ ∀ field ∈ sort, NamesData field := by
  cases sort with
  | none => exact ⟨fun _ _ mem => (nomatch mem), fun _ => ⟨s, rfl⟩⟩
  | some field =>
      simp only [withSort_eq_ok_iff, namesData_iff, Option.mem_some, forall_eq']
      constructor
      · rintro ⟨s', c, data, named, -⟩
        exact ⟨c, data, named⟩
      · rintro ⟨c, data, named⟩
        exact ⟨_, c, data, named, rfl⟩

theorem exists_withFilter_iff {filter : Option String} :
    (∃ s', withFilter s filter = .ok s') ↔
      ∀ given ∈ filter, ∃ field text,
        given = field ++ "=" ++ text ∧ '=' ∉ field.toList ∧ NamesData field := by
  cases filter with
  | none => exact ⟨fun _ _ mem => (nomatch mem), fun _ => ⟨s, rfl⟩⟩
  | some given =>
      simp only [withFilter_eq_ok_iff, namesData_iff, Option.mem_some, forall_eq']
      constructor
      · rintro ⟨s', field, text, parts, first, c, data, named, -⟩
        exact ⟨field, text, parts, first, c, data, named⟩
      · rintro ⟨field, text, parts, first, c, data, named⟩
        exact ⟨_, field, text, parts, first, c, data, named, rfl⟩

theorem exists_withHidden_iff {fields : List String} (able : Hideable s) :
    (∃ s', withHidden s fields = .ok s') ↔ ∀ field ∈ fields, NamesData field := by
  simp only [withHidden_eq_ok_iff able, namesData_iff]
  constructor
  · rintro ⟨_, columns, data, rfl, -⟩ field mem
    obtain ⟨c, inColumns, rfl⟩ := List.mem_map.mp mem
    exact ⟨c, data c inColumns, rfl⟩
  · intro all
    induction fields with
    | nil => exact ⟨s, [], by simp, rfl, rfl⟩
    | cons field fields ih =>
        obtain ⟨⟨c, data, named⟩, others⟩ := List.forall_mem_cons.mp all
        obtain ⟨_, columns, dataColumns, names, -⟩ := ih others
        refine ⟨_, c :: columns, List.forall_mem_cons.mpr ⟨data, dataColumns⟩, ?_, rfl⟩
        rw [List.map_cons, named, names]

theorem hidden_withSort {isDescending : Bool} {sort : Option String}
    (accepted : withSort s isDescending sort = .ok s') : s'.hidden = s.hidden := by
  cases sort with
  | none =>
      cases accepted
      rfl
  | some field =>
      obtain ⟨c, -, -, rfl⟩ := withSort_eq_ok_iff.mp accepted
      rfl

theorem hidden_withFilter {filter : Option String} (accepted : withFilter s filter = .ok s') :
    s'.hidden = s.hidden := by
  cases filter with
  | none =>
      cases accepted
      rfl
  | some given =>
      obtain ⟨_, _, -, -, c, -, -, rfl⟩ := withFilter_eq_ok_iff.mp accepted
      rfl

theorem gridState_eq_ok_iff {sort : Option String} {isDescending : Bool} {filter : Option String}
    {hidden : List String} :
    gridState sort isDescending filter hidden = .ok s ↔
      ∃ sorted filtered, withSort .initial isDescending sort = .ok sorted ∧
        withFilter sorted filter = .ok filtered ∧ withHidden filtered hidden = .ok s := by
  simp only [gridState, bind_eq_ok_iff]
  constructor
  · rintro ⟨sorted, sort, filtered, filter, hide⟩
    exact ⟨sorted, filtered, sort, filter, hide⟩
  · rintro ⟨sorted, filtered, sort, filter, hide⟩
    exact ⟨sorted, sort, filtered, filter, hide⟩

theorem exists_gridState_iff {sort : Option String} {isDescending : Bool} {filter : Option String}
    {hidden : List String} :
    (∃ s, gridState sort isDescending filter hidden = .ok s) ↔
      (∀ field ∈ sort, NamesData field) ∧
        (∀ given ∈ filter, ∃ field text,
          given = field ++ "=" ++ text ∧ '=' ∉ field.toList ∧ NamesData field) ∧
        ∀ field ∈ hidden, NamesData field := by
  -- Nothing is hidden yet when the columns to hide are asked for.
  have able : ∀ {sorted filtered : State}, withSort .initial isDescending sort = .ok sorted →
      withFilter sorted filter = .ok filtered → Hideable filtered := by
    intro sorted filtered sort filter
    exact hideable_of_none_hidden ((hidden_withFilter filter).trans (hidden_withSort sort))
  simp only [gridState_eq_ok_iff]
  constructor
  · rintro ⟨s, sorted, filtered, sort, filter, hide⟩
    exact ⟨exists_withSort_iff.mp ⟨sorted, sort⟩, exists_withFilter_iff.mp ⟨filtered, filter⟩,
      (exists_withHidden_iff (able sort filter)).mp ⟨s, hide⟩⟩
  · rintro ⟨sortFields, filterFields, hiddenFields⟩
    obtain ⟨sorted, sort⟩ := exists_withSort_iff.mpr sortFields
    obtain ⟨filtered, filter⟩ := exists_withFilter_iff.mpr filterFields
    obtain ⟨s, hide⟩ := (exists_withHidden_iff (able sort filter)).mpr hiddenFields
    exact ⟨s, sorted, filtered, sort, filter, hide⟩

theorem prepare_eq_ok_iff {query : Query} {name : ModelName} :
    query.prepare = .ok (name, s) ↔ query.model = name.text ∧
      gridState query.sort query.isDescending query.filter query.hidden = .ok s := by
  simp only [Query.prepare, bind_eq_ok_iff, mapError_eq_ok_iff]
  constructor
  · rintro ⟨given, named, state, set, same⟩
    cases same
    rw [ModelName.ofString] at named
    split at named
    · next found =>
      cases named
      exact ⟨ModelName.ofString?_eq_some_iff.mp found, set⟩
    · cases named
  · rintro ⟨named, set⟩
    refine ⟨name, ?_, s, set, rfl⟩
    rw [ModelName.ofString, named, ModelName.ofString?_text]

/-- What a query needs is there iff its model and all its options are accepted. -/
theorem exists_prepare_iff {query : Query} :
    (∃ name s, query.prepare = .ok (name, s)) ↔ query.IsAccepted := by
  simp only [prepare_eq_ok_iff]
  constructor
  · rintro ⟨name, s, named, set⟩
    obtain ⟨sort, filter, hidden⟩ := exists_gridState_iff.mp ⟨s, set⟩
    exact ⟨named ▸ name.isName, sort, filter, hidden⟩
  · rintro ⟨isName, sort, filter, hidden⟩
    obtain ⟨s, set⟩ := exists_gridState_iff.mpr ⟨sort, filter, hidden⟩
    exact ⟨⟨query.model, isName⟩, s, rfl, set⟩

end CommandLine
end EvaluationBrowser
