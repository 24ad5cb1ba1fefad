/-
# Carriage returns in comma-separated values

A field is put between quotation marks for a comma, a quotation mark or a line feed in it, and *not*
for a carriage return. So to a reader that breaks lines at carriage returns too, one that stands in
a field without quotation marks ends a record there. How many records such a reader finds is known
exactly: the header, the rows, and one for each of these carriage returns.

A carriage return at the very end of a line would make one line break of itself and the line feed,
and not be counted. There is none, since the last cell of a row is the link.
-/
import Mathlib.Algebra.GroupWithZero.Nat
import EvaluationBrowser.Proofs.Report.Records
import EvaluationBrowser.Grid.Walk
import EvaluationBrowser.Proofs.Setting.Validity

namespace EvaluationBrowser.Report.Csv

open Grid (Page State)

/-- The carriage returns of a field that no quotation marks protect. -/
def Field.strayReturns (f : Field) : Nat := if f.isQuoted then 0 else f.text.toList.count '\r'

namespace Reading

/-! ## One field -/

/-- The reader is not within a field that has quotation marks. -/
def IsOutside (r : Reading) : Prop := r.place ≠ .quoted ∧ r.place ≠ .closing

theorem step_return {r : Reading} (outside : r.IsOutside) :
    r.step .any '\r' = some (r.endRecord .returned) := by
  obtain ⟨place, text, fields, records⟩ := r
  cases place with
  | start => rfl
  | returned => rfl
  | bare => rfl
  | quoted => exact absurd rfl outside.1
  | closing => exact absurd rfl outside.2

theorem step_plain {r : Reading} {c : Char} (outside : r.IsOutside)
    (plain : LineBreaks.any.mark c = .plain) : r.step .any c = some (r.push .bare c) := by
  obtain ⟨place, text, fields, records⟩ := r
  unfold step
  rw [plain]
  cases place with
  | start => rfl
  | returned => rfl
  | bare => rfl
  | quoted => exact absurd rfl outside.1
  | closing => exact absurd rfl outside.2

/-- Every carriage return outside of quotation marks ends a record. -/
theorem after?_returns {r : Reading} {cs : List Char} (outside : r.IsOutside)
    (plain : ∀ c ∈ cs, needsQuotes c = false) :
    ∃ r', r.after? .any cs = some r' ∧ r'.IsOutside ∧
      r'.records.length = r.records.length + cs.count '\r' ∧
      (r'.place = .returned → cs.getLast? = some '\r' ∨ cs = [] ∧ r.place = .returned) := by
  -- Whether a record has just been broken off is known from the last character alone, or from the
  -- beginning where there is none.
  induction cs generalizing r with
  | nil => exact ⟨r, rfl, outside, rfl, fun returned => .inr ⟨rfl, returned⟩⟩
  | cons c cs ih =>
      have rest : ∀ d ∈ cs, needsQuotes d = false :=
        fun d mem => plain d (List.mem_cons_of_mem _ mem)
      by_cases isReturn : c = '\r'
      · subst isReturn
        obtain ⟨r', read, outside', count, last⟩ :=
          ih (r := r.endRecord .returned) ⟨Place.noConfusion, Place.noConfusion⟩ rest
        refine ⟨r', (after?_cons (step_return outside) cs).trans read, outside', ?_, fun at' => ?_⟩
        · rw [count, endRecord, List.length_append, List.length_singleton, List.count_cons_self]
          omega
        · rcases last at' with more | ⟨rfl, -⟩
          · rw [List.getLast?_cons, more]
            exact .inl rfl
          · exact .inl rfl
      · have mark : LineBreaks.any.mark c = .plain :=
          mark_of_plain (plain c List.mem_cons_self) fun same => absurd same isReturn
        obtain ⟨r', read, outside', count, last⟩ :=
          ih (r := r.push .bare c) ⟨Place.noConfusion, Place.noConfusion⟩ rest
        refine ⟨r', (after?_cons (step_plain outside mark) cs).trans read, outside', ?_,
          fun at' => ?_⟩
        · rw [count, push, List.count_cons_of_ne isReturn]
        · rcases last at' with more | ⟨-, bare⟩
          · rw [List.getLast?_cons, more]
            exact .inl rfl
          · exact Place.noConfusion bare

theorem after?_field_any (s : String) (fields : Record) (records : List Record) :
    ∃ r, after? .any ⟨.start, [], fields, records⟩ (Csv.field s) = some r ∧ r.place ≠ .quoted ∧
      r.records.length = records.length + (Field.ofText s).strayReturns ∧
      (r.place = .returned → s.toList.getLast? = some '\r') := by
  cases quoted : s.toList.any needsQuotes with
  | true =>
      refine ⟨holding s fields records, after?_field fun _ => .inr quoted, ?_, ?_, ?_⟩
      · rw [holding, quoted]
        exact Place.noConfusion
      · rw [Field.strayReturns, Field.ofText, quoted]
        rfl
      · rw [holding, quoted]
        exact Place.noConfusion
  | false =>
      obtain ⟨r, read, outside, count, last⟩ :=
        after?_returns (r := ⟨.start, [], fields, records⟩)
          ⟨Place.noConfusion, Place.noConfusion⟩
          fun c mem => Bool.eq_false_iff.mpr (List.any_eq_false.mp quoted c mem)
      rw [field_of_plain quoted]
      refine ⟨r, read, outside.1, ?_, fun at' => ?_⟩
      · rw [count, Field.strayReturns, Field.ofText, quoted]
        rfl
      · exact (last at').resolve_right fun empty => Place.noConfusion empty.2

end Reading

/-! ## Lines -/

/-- The carriage returns of a line that no quotation marks protect. -/
def lineReturns (texts : List String) : Nat :=
  (texts.map fun t => (Field.ofText t).strayReturns).sum

/-- The last text of a line does not end in a carriage return. -/
def EndsPlainly (texts : List String) : Prop :=
  ∀ t, texts.getLast? = some t → t.toList.getLast? ≠ some '\r'

theorem after?_line_any (s : String) {texts : List String} (ends : EndsPlainly (s :: texts))
    (fields : Record) (records : List Record) :
    ∃ records', Reading.after? .any ⟨.start, [], fields, records⟩ (line ((s :: texts).map field))
        = some ⟨.start, [], [], records'⟩ ∧
      records'.length = records.length + (1 + lineReturns (s :: texts)) := by
  induction texts generalizing s fields records with
  | nil =>
      obtain ⟨r, read, closed, count, last⟩ := Reading.after?_field_any s fields records
      -- Only here the line feed could go with a carriage return, and not end the record.
      have notReturned : r.place ≠ .returned := fun at' => ends s rfl (last at')
      refine ⟨(r.endRecord .start).records, ?_, ?_⟩
      · rw [List.map_singleton, line_singleton, Reading.after?_append read,
          Reading.after?_cons (Reading.step_lineFeed closed notReturned)]
        rfl
      · rw [Reading.endRecord, List.length_append, count, List.length_singleton, lineReturns,
          List.map_singleton, List.sum_singleton]
        omega
  | cons t texts ih =>
      obtain ⟨r, read, closed, count, -⟩ := Reading.after?_field_any s fields records
      obtain ⟨records', readRest, countRest⟩ := ih t (fun u eq => ends u eq) (r.fields ++ [r.field])
        r.records
      refine ⟨records', ?_, ?_⟩
      · rw [List.map_cons, List.map_cons, line_cons_cons, Reading.after?_append read,
          Reading.after?_cons (Reading.step_comma closed), ← List.map_cons]
        exact readRest
      · have returns : lineReturns (s :: t :: texts)
            = (Field.ofText s).strayReturns + lineReturns (t :: texts) := List.sum_cons
        rw [countRest, count, returns]
        omega

theorem after?_lines_any {lines : List (List String)} (nonempty : ∀ texts ∈ lines, texts ≠ [])
    (ends : ∀ texts ∈ lines, EndsPlainly texts) (records : List Record) :
    ∃ records', Reading.after? .any ⟨.start, [], [], records⟩
        (lines.flatMap fun texts => line (texts.map field)) = some ⟨.start, [], [], records'⟩ ∧
      records'.length = records.length + (lines.length + (lines.map lineReturns).sum) := by
  induction lines generalizing records with
  | nil => exact ⟨records, rfl, rfl⟩
  | cons texts lines ih =>
      cases texts with
      | nil => exact absurd rfl (nonempty [] List.mem_cons_self)
      | cons s texts =>
          obtain ⟨first, read, count⟩ :=
            after?_line_any s (ends (s :: texts) List.mem_cons_self) [] records
          obtain ⟨records', readRest, countRest⟩ :=
            ih (fun texts mem => nonempty texts (List.mem_cons_of_mem _ mem))
              (fun texts mem => ends texts (List.mem_cons_of_mem _ mem)) first
          refine ⟨records', ?_, ?_⟩
          · rw [List.flatMap_cons, Reading.after?_append read, readRest]
          · rw [countRest, count, List.length_cons, List.map_cons, List.sum_cons]
            omega

/-! ## A page -/

/-- A page whose lines end plainly has as many records to every reader as it has lines and
carriage returns that are not protected. -/
theorem exists_read_any {page : Page} (ends : ∀ texts ∈ pageTexts page, EndsPlainly texts) :
    ∃ records, read .any (csv page) = some records ∧
      records.length = (pageTexts page).length + ((pageTexts page).map lineReturns).sum := by
  obtain ⟨records, lines, count⟩ := after?_lines_any (pageTexts_nonempty page) ends []
  refine ⟨records, ?_, ?_⟩
  · rw [read, csv, String.toList_ofList, readChars, chars_eq, Reading.initial, lines]
    rfl
  · rw [count, List.length_nil, Nat.zero_add]

theorem endsPlainly_of_not_mem {texts : List String} {t : String} (last : texts.getLast? = some t)
    (none : '\r' ∉ t.toList) : EndsPlainly texts := by
  intro u eq ends
  rw [last] at eq
  cases eq
  exact none (List.mem_of_getLast? ends)

theorem strayReturns_of_not_mem {s : String} (none : '\r' ∉ s.toList) :
    (Field.ofText s).strayReturns = 0 := by
  rw [Field.strayReturns, Field.ofText, List.count_eq_zero.mpr none, ite_self]

/-- The carriage returns of the cells on a page that no quotation marks protect. -/
def strayReturns (page : Page) : Nat :=
  (page.rows.map fun r => lineReturns (r.cells.map Cell.exported)).sum

theorem return_not_mem_field (c : Column) : '\r' ∉ c.field.toList := by
  cases c <;> decide

theorem return_not_mem_toString (n : Nat) : '\r' ∉ (toString n).toList := by
  rw [Nat.toString_eq_ofList_toDigits, String.toList_ofList]
  exact fun mem => absurd (Text.allDigits_toDigits n '\r' mem) (by decide)

theorem return_not_mem_metricsLink (id : UInt64) : '\r' ∉ (Column.metricsLink id).toList := by
  have parts : (Column.metricsLink id).toList
      = "evaluation-settings/".toList ++ (toString id.toNat).toList := String.toList_append
  have label : '\r' ∉ "evaluation-settings/".toList := by decide
  rw [parts]
  exact fun mem => (List.mem_append.mp mem).elim label (return_not_mem_toString id.toNat)

theorem lineReturns_header (columns : List Column) :
    lineReturns ("id" :: columns.map Column.field) = 0 := by
  refine List.sum_eq_zero_iff_forall_eq_nat.mpr fun n mem => ?_
  obtain ⟨t, inLine, rfl⟩ := List.mem_map.mp mem
  refine strayReturns_of_not_mem ?_
  rcases List.mem_cons.mp inLine with id | inHeader
  · rw [id]
    decide
  · obtain ⟨c, -, rfl⟩ := List.mem_map.mp inHeader
    exact return_not_mem_field c

theorem lineReturns_rowTexts (r : Grid.Row) :
    lineReturns (rowTexts r) = lineReturns (r.cells.map Cell.exported) := by
  rw [lineReturns, rowTexts, List.map_cons, List.sum_cons,
    strayReturns_of_not_mem (return_not_mem_toString _), Nat.zero_add, lineReturns]

theorem sum_lineReturns (page : Page) :
    ((pageTexts page).map lineReturns).sum = strayReturns page := by
  rw [pageTexts, List.map_cons, List.sum_cons, lineReturns_header, Nat.zero_add, List.map_map,
    strayReturns]
  exact congrArg List.sum (List.map_congr_left fun r _ => lineReturns_rowTexts r)

theorem length_pageTexts (page : Page) : (pageTexts page).length = 1 + page.rows.length := by
  rw [pageTexts, List.length_cons, List.length_map, Nat.add_comm]

theorem strayReturns_eq_zero {page : Page} : strayReturns page = 0 ↔
    ∀ r ∈ page.rows, ∀ cell ∈ r.cells,
      '\r' ∈ cell.exported.toList → cell.exported.toList.any needsQuotes = true := by
  have field : ∀ s : String, (Field.ofText s).strayReturns = 0 ↔
      ('\r' ∈ s.toList → s.toList.any needsQuotes = true) := by
    intro s
    rw [Field.strayReturns, Field.ofText]
    cases s.toList.any needsQuotes with
    | true => exact iff_of_true rfl fun _ => rfl
    | false =>
        rw [if_neg Bool.false_ne_true, List.count_eq_zero]
        exact ⟨fun none mem => absurd mem none, fun quoted mem => Bool.noConfusion (quoted mem)⟩
  rw [strayReturns, List.sum_eq_zero_iff_forall_eq_nat, List.forall_mem_map]
  refine forall₂_congr fun r _ => ?_
  rw [lineReturns, List.sum_eq_zero_iff_forall_eq_nat, List.map_map, List.forall_mem_map]
  exact forall₂_congr fun cell _ => field cell.exported

section View

variable (actions : List Grid.Action) (settings : List Setting)

/-- The last field of a line is a field name or a link. -/
theorem endsPlainly_pageTexts :
    ∀ texts ∈ pageTexts ((State.ofActions actions).view settings), EndsPlainly texts := by
  obtain ⟨data, columns⟩ := State.visibleColumns_ofActions actions
  intro texts mem
  rcases List.mem_cons.mp mem with rfl | mem
  · refine endsPlainly_of_not_mem (t := Column.metrics.field) ?_ (return_not_mem_field _)
    have header : ((State.ofActions actions).view settings).columns = data ++ [.metrics] := columns
    rw [header, List.map_append, List.map_singleton, List.getLast?_cons, List.getLast?_concat]
    rfl
  · obtain ⟨r, inRows, rfl⟩ := List.mem_map.mp mem
    rw [State.rows_view] at inRows
    obtain ⟨shown, -, rfl⟩ := List.mem_map.mp inRows
    refine endsPlainly_of_not_mem (t := Column.metricsLink shown.1.id) ?_
      (return_not_mem_metricsLink _)
    rw [rowTexts, State.row, columns, List.map_append, List.map_append, List.map_singleton,
      List.map_singleton, List.getLast?_cons, List.getLast?_concat]
    rfl

/-- No field without quotation marks holds a comma, a quotation mark or a line feed. It may hold
carriage returns, and to a reader that breaks lines at them too each of these begins one more
record, so that reader finds the rows of the page just if every cell with a carriage return is
quoted for another character in it. -/
theorem records_of_view :
    (∃ records, read .lineFeed (csv ((State.ofActions actions).view settings)) = some records ∧
      ∀ record ∈ records, ∀ f ∈ record, f.isQuoted = false →
        ',' ∉ f.text.toList ∧ '"' ∉ f.text.toList ∧ '\n' ∉ f.text.toList) ∧
      ∃ records, read .any (csv ((State.ofActions actions).view settings)) = some records ∧
        records.length = 1 + ((State.ofActions actions).view settings).rows.length
          + strayReturns ((State.ofActions actions).view settings) ∧
        (records.length = 1 + ((State.ofActions actions).view settings).rows.length ↔
          ∀ r ∈ ((State.ofActions actions).view settings).rows, ∀ cell ∈ r.cells,
            '\r' ∈ cell.exported.toList → cell.exported.toList.any needsQuotes = true) := by
  refine ⟨⟨_, read_csv _, ?_⟩, ?_⟩
  · intro record inRecords f inRecord bare
    obtain ⟨texts, -, rfl⟩ := List.mem_map.mp inRecords
    obtain ⟨t, -, rfl⟩ := List.mem_map.mp inRecord
    have plain : ∀ c, needsQuotes c = true → c ∉ t.toList :=
      fun c special mem => List.any_eq_false.mp bare c mem special
    exact ⟨plain ',' rfl, plain '"' rfl, plain '\n' rfl⟩
  · obtain ⟨records, read, count⟩ := exists_read_any (endsPlainly_pageTexts actions settings)
    rw [length_pageTexts, sum_lineReturns] at count
    refine ⟨records, read, count, ?_⟩
    rw [count, Nat.add_eq_left, strayReturns_eq_zero]

end View

/-- A dataset may have a carriage return in its name. The field for it has no quotation marks, and a
page of one row has three records to a reader that breaks lines at carriage returns. -/
theorem three_records_of_one_row :
    ∃ s, Setting.parseAll "[[7, null, \"a\\rb\", \"box\", \"mask\"]]" = .ok [s] ∧
      ((State.ofActions []).view [s]).rows.length = 1 ∧
      (∃ records, read .lineFeed (csv ((State.ofActions []).view [s])) = some records ∧
        ∃ record ∈ records, ∃ f ∈ record, f.isQuoted = false ∧ '\r' ∈ f.text.toList) ∧
      ∃ records, read .any (csv ((State.ofActions []).view [s])) = some records ∧
        records.length = 3 := by
  let s : Setting := ⟨7, none, "a\rb", "box", "mask", none, none⟩
  have accepted : Setting.parseAll "[[7, null, \"a\\rb\", \"box\", \"mask\"]]" = .ok [s] :=
    Setting.eq_ok_of_toOption (by decide +kernel)
  refine ⟨s, accepted, rfl, ⟨_, read_csv _, ?_⟩, ?_⟩
  · refine ⟨_, List.mem_map_of_mem (List.mem_cons_of_mem _ List.mem_cons_self), .ofText "a\rb", ?_,
      by decide, by decide⟩
    exact List.mem_map_of_mem (List.mem_cons_of_mem _ List.mem_cons_self)
  · obtain ⟨records, read, count⟩ := exists_read_any (endsPlainly_pageTexts [] [s])
    have stray : strayReturns ((State.ofActions []).view [s]) = 1 := by decide +kernel
    refine ⟨records, read, ?_⟩
    rw [count, length_pageTexts, sum_lineReturns, stray]
    rfl

end EvaluationBrowser.Report.Csv
