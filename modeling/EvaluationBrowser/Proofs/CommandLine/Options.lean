/-
# What the options of a query come to

The options are read as a list of items, in the order in which they are looked at: the column to
sort by, the filter, and the columns to hide from left to right. An item is refused for what it is
and not for what the items before it have made of the grid. That is why the fault of a whole query
is the fault of its first bad item, and it holds although a hidden column is not asked again whether
it can be hidden: it was asked when it was hidden first.

Nor does it matter how often and in which order columns are hidden. Hiding is a toggle underneath,
but one that is only used on columns still shown, so what is hidden in the end is the set of columns
named; and a page is made from that set, not from the list in which it is kept.
-/
import EvaluationBrowser.Proofs.CommandLine.Run

namespace EvaluationBrowser

open Grid (State)

/-- A page shows which columns are hidden, but not in which order they were. -/
theorem Grid.State.view_congr_hidden {s : State} {hidden : List Column}
    (same : ∀ c, c ∈ hidden ↔ c ∈ s.hidden) (settings : List Setting) :
    ({ s with hidden } : State).view settings = s.view settings := by
  have columns : ({ s with hidden } : State).visibleColumns = s.visibleColumns := by
    refine List.filter_congr fun c _ => congrArg not ?_
    rw [Bool.eq_iff_iff, isHidden_iff, isHidden_iff, same]
  rw [view, columns]
  rfl

namespace CommandLine

variable {s s' : State}

/-! ## Items -/

/-- One thing that is asked of a grid. -/
inductive Item where
  | sort (field : String)
  | filter (given : String)
  | hide (field : String)

/-- In the order in which they are looked at. -/
def Query.items (query : Query) : List Item :=
  query.sort.toList.map .sort ++ query.filter.toList.map .filter ++ query.hidden.map .hide

/-- Why a field cannot be used: it names no column, or one that shows no data. -/
inductive FieldFault (refusal : Column → Failure) : String → RunFault → Prop
  | unknown {field : String} : (∀ c : Column, c.field ≠ field) →
      FieldFault refusal field (.unknownColumn field)
  | noData {c : Column} : c.isData = false → FieldFault refusal c.field (.failed (refusal c))

/-- What is wrong with an item. The field of a filter stands before its first equals sign. -/
inductive Item.HasFault : Item → RunFault → Prop
  | sort {field : String} {fault : RunFault} :
      FieldFault .notSortable field fault → HasFault (.sort field) fault
  | notAFilter {given : String} : '=' ∉ given.toList → HasFault (.filter given) (.notAFilter given)
  | filter {field text : String} {fault : RunFault} : '=' ∉ field.toList →
      FieldFault .notFilterable field fault → HasFault (.filter (field ++ "=" ++ text)) fault
  | hide {field : String} {fault : RunFault} :
      FieldFault .notHideable field fault → HasFault (.hide field) fault

/-- The grid after one more item. -/
def Item.add (isDescending : Bool) (s : State) : Item → Except RunFault State
  | .sort field => withSort s isDescending (some field)
  | .filter given => withFilter s (some given)
  | .hide field => withHidden s [field]

theorem withHidden_singleton (s : State) (field : String) :
    withHidden s [field]
      = columnOf field >>= fun c =>
          if s.isHidden c then .ok s else (s.toggleHidden c).mapError .failed := by
  rw [withHidden_cons]
  exact congrArg _ (funext fun c => bind_pure _)

theorem foldlM_hide (isDescending : Bool) (s : State) (fields : List String) :
    (fields.map Item.hide).foldlM (Item.add isDescending) s = withHidden s fields := by
  induction fields generalizing s with
  | nil => rfl
  | cons field fields ih =>
      rw [List.map_cons, List.foldlM_cons, Item.add, withHidden_singleton, withHidden_cons,
        bind_assoc]
      simp only [ih]

/-- A query is the run of its items. -/
theorem gridState_eq_foldlM (query : Query) :
    gridState query.sort query.isDescending query.filter query.hidden
      = query.items.foldlM (Item.add query.isDescending) .initial := by
  have sort : (query.sort.toList.map Item.sort).foldlM (Item.add query.isDescending) State.initial
      = withSort .initial query.isDescending query.sort := by
    cases query.sort with
    | none => rfl
    | some field => exact bind_pure _
  have filter : ∀ s, (query.filter.toList.map Item.filter).foldlM (Item.add query.isDescending) s
      = withFilter s query.filter := by
    intro s
    cases query.filter with
    | none => rfl
    | some given => exact bind_pure _
  rw [Query.items, List.append_assoc, List.foldlM_append, sort]
  simp only [List.foldlM_append, filter, foldlM_hide]
  rfl

/-! ## One item -/

/-- Looking a column up and asking it for something that only columns with data can do. -/
theorem ask_eq_error_iff {field : String} {refusal : Column → Failure}
    {ask : Column → Except Failure State} {fault : RunFault}
    (refused_iff : ∀ c failure, ask c = .error failure ↔ c.isData = false ∧ failure = refusal c) :
    (columnOf field >>= fun c => (ask c).mapError .failed) = .error fault ↔
      FieldFault refusal field fault := by
  simp only [bind_eq_error_iff, columnOf_eq_error_iff, columnOf_eq_ok_iff, mapError_eq_error_iff,
    refused_iff]
  constructor
  · rintro (⟨none, rfl⟩ | ⟨c, rfl, failure, ⟨noData, rfl⟩, rfl⟩)
    · exact .unknown none
    · exact .noData noData
  · intro fault
    cases fault with
    | unknown none => exact .inl ⟨none, rfl⟩
    | noData noData => exact .inr ⟨_, rfl, _, ⟨noData, rfl⟩, rfl⟩

theorem withSort_eq_error_iff {isDescending : Bool} {field : String} {fault : RunFault} :
    withSort s isDescending (some field) = .error fault ↔
      FieldFault .notSortable field fault :=
  ask_eq_error_iff fun _ _ => ite_eq_error_iff

theorem withFilter_eq_error_iff {given : String} {fault : RunFault} :
    withFilter s (some given) = .error fault ↔ (Item.filter given).HasFault fault := by
  have ask : ∀ {field text : String}, '=' ∉ field.toList →
      (withFilter s (some (field ++ "=" ++ text)) = .error fault ↔
        FieldFault .notFilterable field fault) := by
    intro field text none
    rw [withFilter_append none]
    exact ask_eq_error_iff fun _ _ => ite_eq_error_iff
  constructor
  · intro failed
    by_cases mem : '=' ∈ given.toList
    · obtain ⟨field, text, rfl, none⟩ := exists_field_of_mem mem
      exact .filter none ((ask none).mp failed)
    · rw [withFilter_of_not_mem mem] at failed
      cases failed
      exact .notAFilter mem
  · intro fault
    cases fault with
    | notAFilter none => exact withFilter_of_not_mem none
    | filter none fault => exact (ask none).mpr fault

theorem withHidden_singleton_eq_error_iff (able : Hideable s) {field : String} {fault : RunFault} :
    withHidden s [field] = .error fault ↔ FieldFault .notHideable field fault := by
  have asked : withHidden s [field]
      = columnOf field >>= fun c =>
          (if s.isHidden c then .ok s else s.toggleHidden c).mapError .failed := by
    rw [withHidden_singleton]
    refine congrArg _ (funext fun c => ?_)
    cases s.isHidden c <;> rfl
  rw [asked]
  refine ask_eq_error_iff fun c failure => ?_
  cases hidden : s.isHidden c with
  | true =>
      -- It is not asked, but it would not refuse.
      have data : c.isData = true := able c (State.isHidden_iff.mp hidden)
      refine iff_of_false nofun fun h => ?_
      rw [data] at h
      cases h.1
  | false => exact ite_eq_error_iff

theorem Item.add_eq_error_iff {isDescending : Bool} (able : Hideable s) (item : Item)
    (fault : RunFault) : item.add isDescending s = .error fault ↔ item.HasFault fault := by
  cases item with
  | sort field =>
      refine withSort_eq_error_iff.trans ⟨.sort, fun h => ?_⟩
      cases h with
      | sort fault => exact fault
  | filter given => exact withFilter_eq_error_iff
  | hide field =>
      refine (withHidden_singleton_eq_error_iff able).trans ⟨.hide, fun h => ?_⟩
      cases h with
      | hide fault => exact fault

/-! ## What is hidden -/

/-- Only what is hidden changes, and it is what was hidden before and what is named. -/
theorem withHidden_eq_ok {fields : List String} (able : Hideable s)
    (accepted : withHidden s fields = .ok s') :
    ∃ hidden, s' = { s with hidden } ∧ (s.hidden.Nodup → hidden.Nodup) ∧
      ∀ c, c ∈ hidden ↔ c ∈ s.hidden ∨ c.field ∈ fields := by
  obtain ⟨columns, -, rfl, rfl⟩ := (withHidden_eq_ok_iff able).mp accepted
  clear accepted able
  induction columns generalizing s with
  | nil => exact ⟨s.hidden, rfl, id, by simp⟩
  | cons c columns ih =>
      obtain ⟨hidden, same, once, mem_iff⟩ := @ih (hide s c)
      refine ⟨hidden, same, ?_, ?_⟩
      · intro nodup
        refine once ?_
        cases old : s.isHidden c with
        | true => simpa [hide, old] using nodup
        | false =>
            have new : c ∉ s.hidden := by simp [← State.isHidden_iff, old]
            simpa [hide, old] using nodup.concat new
      · intro d
        have step : d ∈ (hide s c).hidden ↔ d ∈ s.hidden ∨ d = c := by
          cases old : s.isHidden c with
          | true =>
              have mem := State.isHidden_iff.mp old
              simp only [hide, old, if_true]
              exact ⟨.inl, fun h => h.elim id fun eq => eq ▸ mem⟩
          | false => simp [hide, old]
        have named : d.field = c.field ↔ d = c := ⟨Column.field_injective, congrArg _⟩
        rw [mem_iff, step, List.map_cons, List.mem_cons, named, or_assoc]

theorem Item.hideable_add {isDescending : Bool} {item : Item} (able : Hideable s)
    (added : item.add isDescending s = .ok s') : Hideable s' := by
  cases item with
  | sort field =>
      rw [Item.add] at added
      rwa [Hideable, hidden_withSort added]
  | filter given =>
      rw [Item.add] at added
      rwa [Hideable, hidden_withFilter added]
  | hide field =>
      obtain ⟨columns, data, -, rfl⟩ := (withHidden_eq_ok_iff able).mp added
      clear added
      induction columns generalizing s with
      | nil => exact able
      | cons c columns ih =>
          obtain ⟨first, rest⟩ := List.forall_mem_cons.mp data
          exact ih (hideable_hide able first) rest

/-! ## The whole query -/

section Accepted

variable {sort filter : Option String} {isDescending : Bool}

theorem withSort_eq_ok (accepted : withSort .initial isDescending sort = .ok s) :
    s.page = 0 ∧ s.filter = none ∧ s.hidden = [] ∧ (sort = none → s.sort = none) ∧
      ∀ c : Column, sort = some c.field →
        s.sort = some ⟨c, if isDescending then .descending else .ascending⟩ := by
  cases sort with
  | none =>
      cases accepted
      exact ⟨rfl, rfl, rfl, fun _ => rfl, nofun⟩
  | some field =>
      obtain ⟨c, -, rfl, rfl⟩ := withSort_eq_ok_iff.mp accepted
      refine ⟨rfl, rfl, rfl, nofun, fun d same => ?_⟩
      rw [Column.field_injective (Option.some.inj same)]

theorem equals_not_mem_field (c : Column) : '=' ∉ c.field.toList := by cases c <;> decide

theorem withFilter_eq_ok (accepted : withFilter s filter = .ok s') :
    s'.sort = s.sort ∧ (s.page = 0 → s'.page = 0) ∧ s'.hidden = s.hidden ∧
      (filter = none → s'.filter = s.filter) ∧
      ∀ (c : Column) (text : String), filter = some (c.field ++ "=" ++ text) →
        s'.filter = if Text.isBlankText text then none else some ⟨c, text⟩ := by
  cases filter with
  | none =>
      cases accepted
      exact ⟨rfl, id, rfl, fun _ => rfl, nofun⟩
  | some given =>
      obtain ⟨field, text, rfl, none, c, -, rfl, rfl⟩ := withFilter_eq_ok_iff.mp accepted
      refine ⟨rfl, fun _ => rfl, rfl, nofun, fun d text' same => ?_⟩
      -- The text is split in one way only, as the filter that it makes is one.
      have filter := accepted
      rw [Option.some.inj same, withFilter_append (equals_not_mem_field d),
        columnOf_eq_ok_iff.mpr rfl] at filter
      have filter := State.setFilter_eq_ok_iff.mp (mapError_eq_ok_iff.mp filter)
      rw [filter.2]

end Accepted

/-- The grid that a query sets up. -/
structure Query.SetsUp (query : Query) (s : State) : Prop where
  page : s.page = 0
  unsorted : query.sort = none → s.sort = none
  sort : ∀ c : Column, query.sort = some c.field →
    s.sort = some ⟨c, if query.isDescending then .descending else .ascending⟩
  unfiltered : query.filter = none → s.filter = none
  /-- All that follows the first equals sign is kept, with further equals signs and white space. -/
  filter : ∀ (c : Column) (text : String), query.filter = some (c.field ++ "=" ++ text) →
    (∃ char ∈ text.toList, Text.isBlank char = false) → s.filter = some ⟨c, text⟩
  blank : ∀ (c : Column) (text : String), query.filter = some (c.field ++ "=" ++ text) →
    (∀ char ∈ text.toList, Text.isBlank char = true) → s.filter = none
  hidden_once : s.hidden.Nodup
  hidden_iff : ∀ c, c ∈ s.hidden ↔ c.field ∈ query.hidden

/-- All that the options of a query come to. -/
structure Query.ReadsOptions (query : Query) : Prop where
  accepted_iff :
    (∃ s, gridState query.sort query.isDescending query.filter query.hidden = .ok s) ↔
      (∀ field ∈ query.sort, NamesData field) ∧
        (∀ given ∈ query.filter, ∃ field text,
          given = field ++ "=" ++ text ∧ '=' ∉ field.toList ∧ NamesData field) ∧
        ∀ field ∈ query.hidden, NamesData field
  setsUp : ∀ s, gridState query.sort query.isDescending query.filter query.hidden = .ok s →
    query.SetsUp s
  /-- The fault is that of the first bad item. -/
  fault_iff : ∀ fault,
    gridState query.sort query.isDescending query.filter query.hidden = .error fault ↔
      ∃ before item after, query.items = before ++ item :: after ∧
        (∀ good ∈ before, ∀ fault, ¬ good.HasFault fault) ∧ item.HasFault fault
  /-- With the columns to hide named in another order, or another number of times, a query that is
  accepted is accepted again; every page of it is the same, and so is all that a run prints. -/
  regardless : ∀ s, gridState query.sort query.isDescending query.filter query.hidden = .ok s →
    ∀ hidden, (∀ field, field ∈ hidden ↔ field ∈ query.hidden) →
      (∃ s', gridState query.sort query.isDescending query.filter hidden = .ok s' ∧
        ∀ number settings, pageOf s' number settings = pageOf s number settings) ∧
      ∀ given environment transport,
        Invocation.run ⟨given, .settings { query with hidden }⟩ environment transport
          = Invocation.run ⟨given, .settings query⟩ environment transport

section Query

variable {query : Query}

theorem setsUp_of_accepted
    (accepted : gridState query.sort query.isDescending query.filter query.hidden = .ok s) :
    query.SetsUp s := by
  obtain ⟨sorted, filtered, sort, filter, hide⟩ := gridState_eq_ok_iff.mp accepted
  obtain ⟨page, noFilter, noneHidden, unsorted, sortedBy⟩ := withSort_eq_ok sort
  obtain ⟨sameSort, samePage, sameHidden, unfiltered, filteredBy⟩ := withFilter_eq_ok filter
  have none : filtered.hidden = [] := sameHidden.trans noneHidden
  have able := hideable_of_none_hidden none
  obtain ⟨hidden, rfl, once, mem_iff⟩ := withHidden_eq_ok able hide
  rw [none] at once mem_iff
  refine { page := samePage page, unsorted := fun none => sameSort.trans (unsorted none),
           sort := fun c named => sameSort.trans (sortedBy c named),
           unfiltered := fun none => (unfiltered none).trans noFilter, filter := ?_, blank := ?_,
           hidden_once := once .nil, hidden_iff := fun c => (mem_iff c).trans (by simp) }
  · rintro c text given ⟨char, mem, other⟩
    refine (filteredBy c text given).trans (if_neg fun blank => ?_)
    rw [Text.isBlankText_iff.mp blank char mem] at other
    cases other
  · intro c text given all
    exact (filteredBy c text given).trans (if_pos (Text.isBlankText_iff.mpr all))

theorem gridState_eq_error_iff {fault : RunFault} :
    gridState query.sort query.isDescending query.filter query.hidden = .error fault ↔
      ∃ before item after, query.items = before ++ item :: after ∧
        (∀ good ∈ before, ∀ fault, ¬ good.HasFault fault) ∧ item.HasFault fault := by
  rw [gridState_eq_foldlM]
  exact foldlM_eq_error_iff Hideable Item.HasFault (fun able => Item.add_eq_error_iff able)
    (fun able added => Item.hideable_add able added) (hideable_of_none_hidden rfl)

theorem pageOf_congr_hidden {hidden : List Column} (same : ∀ c, c ∈ hidden ↔ c ∈ s.hidden)
    (number : Nat) (settings : List Setting) :
    pageOf { s with hidden } number settings = pageOf s number settings := by
  rw [pageOf, pageOf, State.view_congr_hidden same]
  exact @State.view_congr_hidden (s.setPage (number - 1) _) hidden same settings

theorem exists_gridState_of_same_hidden {hidden : List String}
    (accepted : gridState query.sort query.isDescending query.filter query.hidden = .ok s)
    (same : ∀ field, field ∈ hidden ↔ field ∈ query.hidden) :
    ∃ s', gridState query.sort query.isDescending query.filter hidden = .ok s' ∧
      ∀ number settings, pageOf s' number settings = pageOf s number settings := by
  obtain ⟨sorted, filtered, sort, filter, hide⟩ := gridState_eq_ok_iff.mp accepted
  have able : Hideable filtered :=
    hideable_of_none_hidden ((hidden_withFilter filter).trans (hidden_withSort sort))
  have named : ∀ field ∈ hidden, NamesData field := fun field mem =>
    (exists_withHidden_iff able).mp ⟨s, hide⟩ field ((same field).mp mem)
  obtain ⟨s', hide'⟩ := (exists_withHidden_iff able).mpr named
  refine ⟨s', gridState_eq_ok_iff.mpr ⟨sorted, filtered, sort, filter, hide'⟩, ?_⟩
  obtain ⟨columns, rfl, -, mem_iff⟩ := withHidden_eq_ok able hide
  obtain ⟨columns', rfl, -, mem_iff'⟩ := withHidden_eq_ok able hide'
  have sameColumns : ∀ c, c ∈ columns' ↔ c ∈ columns := by
    intro c
    rw [mem_iff', mem_iff, same]
  exact @pageOf_congr_hidden { filtered with hidden := columns } columns' sameColumns

theorem runSettings_congr {query' : Query} {name : ModelName} {client : Client}
    {transport : Transport} (prepared : query.prepare = .ok (name, s))
    (prepared' : query'.prepare = .ok (name, s'))
    (same : ∀ settings, shown query' name s' settings = shown query name s settings) :
    runSettings client transport query' = runSettings client transport query := by
  simp only [runSettings, prepared, prepared', same]

/-- A run depends on the columns to hide through the pages alone. -/
theorem run_congr_hidden {hidden : List String}
    (accepted : gridState query.sort query.isDescending query.filter query.hidden = .ok s)
    (accepted' : gridState query.sort query.isDescending query.filter hidden = .ok s')
    (pages : ∀ number settings, pageOf s' number settings = pageOf s number settings)
    (given environment : Option String) (transport : Transport) :
    Invocation.run ⟨given, .settings { query with hidden }⟩ environment transport
      = Invocation.run ⟨given, .settings query⟩ environment transport := by
  simp only [Invocation.run]
  cases backendOf given environment with
  | error fault => rfl
  | ok backend =>
      cases named : (ModelName.ofString query.model).mapError RunFault.failed with
      | error fault =>
          simp only [runSettings, Query.prepare, named]
          rfl
      | ok name =>
          have prepared : query.prepare = .ok (name, s) := by
            rw [Query.prepare, named, accepted]
            rfl
          have prepared' : Query.prepare { query with hidden } = .ok (name, s') := by
            rw [Query.prepare, named, accepted']
            rfl
          refine runSettings_congr prepared prepared' fun settings => ?_
          rw [shown, shown, pages]

end Query

/-! ## The theorem -/

/-- Whatever the options are: they are accepted iff all of them name columns that show data, and
then they set up the grid that they name, with no regard to the order of the columns to hide;
otherwise the fault is that of the first item that is bad. -/
theorem readsOptions_gridState (query : Query) : query.ReadsOptions where
  accepted_iff := exists_gridState_iff
  setsUp _ accepted := setsUp_of_accepted accepted
  fault_iff _ := gridState_eq_error_iff
  regardless s accepted hidden same := by
    obtain ⟨s', accepted', pages⟩ := exists_gridState_of_same_hidden accepted same
    exact ⟨⟨s', accepted', pages⟩, run_congr_hidden accepted accepted' pages⟩

end CommandLine
end EvaluationBrowser
