/-
# A page read back from its comma-separated values

What a reader has read at the end of a field is known from the field's text alone: the text itself,
and whether it stands behind a closing mark (`Reading.holding`). That is the induction over the
characters of one field; a comma or a line feed then ends it alike in both cases. The fields of a
line and the lines of a page follow by induction on them.

The lemmas on fields hold for every reader, but where a reader breaks lines at carriage returns only
for those without one, or with quotation marks around it. A reader that breaks lines at line feeds
only gets every page back.
-/
import Mathlib.Data.List.Basic
import EvaluationBrowser.Report.Records
import EvaluationBrowser.Proofs.Grid.Reachable
import EvaluationBrowser.Proofs.Text.Digits

namespace EvaluationBrowser.Report.Csv

open Grid (Page State)

/-- The field that is written for a text. -/
def Field.ofText (s : String) : Field := ⟨s, s.toList.any needsQuotes⟩

theorem field_of_quoted {s : String} (quoted : s.toList.any needsQuotes = true) :
    field s
      = '"' :: (s.toList.flatMap (fun c => if c = '"' then ['"', '"'] else [c]) ++ ['"']) := by
  rw [field, quoted]
  rfl

/-- A text without special characters is its own field. -/
theorem field_of_plain {s : String} (plain : s.toList.any needsQuotes = false) :
    field s = s.toList := by
  rw [field, plain]
  rfl

namespace Reading

variable {breaks : LineBreaks} {r r' : Reading}

theorem after?_cons {c : Char} (taken : r.step breaks c = some r') (cs : List Char) :
    r.after? breaks (c :: cs) = r'.after? breaks cs := by
  rw [after?, List.foldlM_cons, taken]
  rfl

theorem after?_append {cs : List Char} (taken : r.after? breaks cs = some r') (rest : List Char) :
    r.after? breaks (cs ++ rest) = r'.after? breaks rest := by
  rw [after?] at taken
  rw [after?, List.foldlM_append, taken]
  rfl

/-! ## One field -/

variable {fields : Record} {records : List Record}

theorem mark_of_plain {c : Char} (plain : needsQuotes c = false)
    (noReturn : c = '\r' → breaks = .lineFeed) : breaks.mark c = .plain := by
  simp only [needsQuotes, Bool.or_eq_false_iff, beq_eq_false_iff_ne] at plain
  obtain ⟨⟨comma, quote⟩, lineFeed⟩ := plain
  rw [LineBreaks.mark, if_neg comma, if_neg quote, if_neg lineFeed, if_neg]
  rintro ⟨isReturn, any⟩
  rw [noReturn isReturn] at any
  cases any

/-- Between quotation marks every character is the field's, and two marks stand for one. -/
theorem after?_escaped (text cs : List Char) :
    after? breaks ⟨.quoted, text, fields, records⟩
        (cs.flatMap fun c => if c = '"' then ['"', '"'] else [c])
      = some ⟨.quoted, text ++ cs, fields, records⟩ := by
  induction cs generalizing text with
  | nil => rw [List.append_nil]; rfl
  | cons c cs ih =>
      rw [List.flatMap_cons]
      by_cases quote : c = '"'
      · -- The first of the two marks closes the field, and the second opens it again.
        subst quote
        rw [if_pos rfl]
        have closed : step breaks ⟨.quoted, text, fields, records⟩ '"'
            = some ⟨.closing, text, fields, records⟩ := rfl
        have opened : step breaks ⟨.closing, text, fields, records⟩ '"'
            = some ⟨.quoted, text ++ ['"'], fields, records⟩ := rfl
        rw [List.cons_append, after?_cons closed, List.cons_append, after?_cons opened,
          List.nil_append, ih, List.append_assoc, List.singleton_append]
      · rw [if_neg quote]
        have taken : step breaks ⟨.quoted, text, fields, records⟩ c
            = some ⟨.quoted, text ++ [c], fields, records⟩ := by
          have other : breaks.mark c ≠ .quote := by
            unfold LineBreaks.mark
            rw [if_neg quote]
            split_ifs <;> exact Mark.noConfusion
          unfold step
          split <;> simp_all [push]
        rw [List.singleton_append, after?_cons taken, ih, List.append_assoc,
          List.singleton_append]

/-- Characters that mean nothing to the reader go on with a field. -/
theorem after?_bare (text : List Char) {cs : List Char}
    (plain : ∀ c ∈ cs, breaks.mark c = .plain) :
    after? breaks ⟨.bare, text, fields, records⟩ cs
      = some ⟨.bare, text ++ cs, fields, records⟩ := by
  induction cs generalizing text with
  | nil => rw [List.append_nil]; rfl
  | cons c cs ih =>
      have taken : step breaks ⟨.bare, text, fields, records⟩ c
          = some ⟨.bare, text ++ [c], fields, records⟩ := by
        rw [step, plain c List.mem_cons_self]
        rfl
      rw [after?_cons taken, ih _ fun d mem => plain d (List.mem_cons_of_mem _ mem),
        List.append_assoc, List.singleton_append]

/-- What has been read at the end of a field with the given text. -/
def holding (s : String) (fields : Record) (records : List Record) : Reading :=
  { place := if s.toList.any needsQuotes then .closing else if s.toList = [] then .start else .bare
    text := s.toList
    fields
    records }

/-- To the reader, the field of a text without quotation marks holds no line break. -/
def IsUnbroken (breaks : LineBreaks) (s : String) : Prop :=
  '\r' ∈ s.toList → breaks = .lineFeed ∨ s.toList.any needsQuotes = true

theorem after?_field {s : String} (unbroken : IsUnbroken breaks s) :
    after? breaks ⟨.start, [], fields, records⟩ (Csv.field s)
      = some (holding s fields records) := by
  rw [holding]
  cases quoted : s.toList.any needsQuotes with
  | true =>
      have opened : step breaks ⟨.start, [], fields, records⟩ '"'
          = some ⟨.quoted, [], fields, records⟩ := rfl
      rw [field_of_quoted quoted, if_pos rfl, after?_cons opened,
        after?_append (after?_escaped [] s.toList), List.nil_append]
      rfl
  | false =>
      have plain : ∀ c ∈ s.toList, breaks.mark c = .plain := by
        intro c mem
        refine mark_of_plain (Bool.eq_false_iff.mpr (List.any_eq_false.mp quoted c mem)) ?_
        rintro rfl
        refine (unbroken mem).resolve_right ?_
        rw [quoted]
        exact Bool.false_ne_true
      rw [field_of_plain quoted, if_neg Bool.false_ne_true]
      -- An empty field leaves the reader where it began; the first character makes it a bare one.
      cases chars : s.toList with
      | nil => rfl
      | cons c cs =>
          rw [chars] at plain
          have taken : step breaks ⟨.start, [], fields, records⟩ c
              = some ⟨.bare, [c], fields, records⟩ := by
            rw [step, plain c List.mem_cons_self]
            rfl
          rw [after?_cons taken,
            after?_bare [c] fun d mem => plain d (List.mem_cons_of_mem _ mem),
            List.singleton_append, if_neg (List.cons_ne_nil _ _)]

theorem field_holding (s : String) (fields : Record) (records : List Record) :
    (holding s fields records).field = .ofText s := by
  simp only [field, holding, Field.ofText, String.ofList_toList, Field.mk.injEq, true_and]
  split_ifs with quoted empty
  · rw [quoted]; rfl
  · rw [Bool.eq_false_iff.mpr quoted]; rfl
  · rw [Bool.eq_false_iff.mpr quoted]; rfl

/-- A comma ends a field, unless it is the field's own. -/
theorem step_comma (closed : r.place ≠ .quoted) : r.step breaks ',' = some r.endField := by
  obtain ⟨place, text, fields, records⟩ := r
  cases place with
  | quoted => exact absurd rfl closed
  | start => rfl
  | returned => rfl
  | bare => rfl
  | closing => rfl

/-- So does a line feed, unless it goes with a carriage return before it. -/
theorem step_lineFeed (closed : r.place ≠ .quoted) (notReturned : r.place ≠ .returned) :
    r.step breaks '\n' = some (r.endRecord .start) := by
  obtain ⟨place, text, fields, records⟩ := r
  cases place with
  | quoted => exact absurd rfl closed
  | returned => exact absurd rfl notReturned
  | start => rfl
  | bare => rfl
  | closing => rfl

theorem place_holding (s : String) (fields : Record) (records : List Record) :
    (holding s fields records).place ≠ .quoted ∧ (holding s fields records).place ≠ .returned := by
  unfold holding
  split_ifs <;> exact ⟨Place.noConfusion, Place.noConfusion⟩

theorem endField_holding (s : String) (fields : Record) (records : List Record) :
    (holding s fields records).endField = ⟨.start, [], fields ++ [.ofText s], records⟩ := by
  rw [endField, field_holding]
  rfl

theorem endRecord_holding (s : String) (fields : Record) (records : List Record) :
    (holding s fields records).endRecord .start
      = ⟨.start, [], [], records ++ [fields ++ [.ofText s]]⟩ := by
  rw [endRecord, field_holding]
  rfl

end Reading

/-! ## Lines -/

theorem line_singleton (text : List Char) : line [text] = text ++ ['\n'] := by
  rw [line, List.intercalate_singleton]

theorem line_cons_cons (text next : List Char) (texts : List (List Char)) :
    line (text :: next :: texts) = text ++ ',' :: line (next :: texts) := by
  rw [line, line, List.intercalate_cons_cons]
  simp only [List.append_assoc, List.cons_append, List.nil_append]

section Lines

open Reading

variable {breaks : LineBreaks} {fields : Record} {records : List Record}

theorem after?_line (s : String) {texts : List String}
    (unbroken : ∀ t ∈ s :: texts, IsUnbroken breaks t) :
    after? breaks ⟨.start, [], fields, records⟩ (line ((s :: texts).map field))
      = some ⟨.start, [], [], records ++ [fields ++ (s :: texts).map .ofText]⟩ := by
  induction texts generalizing s fields with
  | nil =>
      rw [List.map_singleton, line_singleton,
        after?_append (after?_field (unbroken s List.mem_cons_self)),
        after?_cons (step_lineFeed (place_holding ..).1 (place_holding ..).2), endRecord_holding,
        List.map_singleton]
      rfl
  | cons t texts ih =>
      rw [List.map_cons, List.map_cons, line_cons_cons,
        after?_append (after?_field (unbroken s List.mem_cons_self)),
        after?_cons (step_comma (place_holding ..).1), endField_holding,
        ← List.map_cons, ih t fun u mem => unbroken u (List.mem_cons_of_mem _ mem),
        List.append_assoc]
      rfl

theorem after?_lines {lines : List (List String)} (nonempty : ∀ texts ∈ lines, texts ≠ [])
    (unbroken : ∀ texts ∈ lines, ∀ t ∈ texts, IsUnbroken breaks t) :
    after? breaks ⟨.start, [], [], records⟩ (lines.flatMap fun texts => line (texts.map field))
      = some ⟨.start, [], [], records ++ lines.map (·.map .ofText)⟩ := by
  induction lines generalizing records with
  | nil => rw [List.map_nil, List.append_nil]; rfl
  | cons texts lines ih =>
      cases texts with
      | nil => exact absurd rfl (nonempty [] List.mem_cons_self)
      | cons s texts =>
          rw [List.flatMap_cons,
            after?_append (after?_line s fun t => unbroken (s :: texts) List.mem_cons_self t),
            ih (fun texts mem => nonempty texts (List.mem_cons_of_mem _ mem))
              fun texts mem => unbroken texts (List.mem_cons_of_mem _ mem),
            List.append_assoc]
          rfl

end Lines

/-! ## A page -/

/-- The texts of a row, its identifier first. -/
def rowTexts (r : Grid.Row) : List String := toString r.id.toNat :: r.cells.map Cell.exported

/-- The texts of a page, line by line. -/
def pageTexts (page : Page) : List (List String) :=
  ("id" :: page.columns.map Column.field) :: page.rows.map rowTexts

theorem plain_field (c : Column) : c.field.toList.any needsQuotes = false := by
  cases c <;> decide

theorem plain_of_isDigit {cs : List Char} (digits : Text.AllDigits cs) :
    cs.any needsQuotes = false := by
  refine List.any_eq_false.mpr fun c mem => ?_
  have digit := digits c mem
  rw [needsQuotes, Bool.or_eq_true, Bool.or_eq_true, beq_iff_eq, beq_iff_eq, beq_iff_eq]
  rintro ((rfl | rfl) | rfl) <;> exact absurd digit (by decide)

theorem plain_toString (n : Nat) : (toString n).toList.any needsQuotes = false := by
  rw [Nat.toString_eq_ofList_toDigits, String.toList_ofList]
  exact plain_of_isDigit (Text.allDigits_toDigits n)

theorem chars_eq (page : Page) :
    chars page = (pageTexts page).flatMap fun texts => line (texts.map field) := by
  have header : Csv.header page = line (("id" :: page.columns.map Column.field).map field) := by
    have fields :
        (page.columns.map Column.field).map field = page.columns.map (·.field.toList) := by
      rw [List.map_map]
      exact List.map_congr_left fun c _ => field_of_plain (plain_field c)
    rw [List.map_cons, fields]
    rfl
  have row : ∀ r : Grid.Row, Csv.row r = line ((rowTexts r).map field) := by
    intro r
    rw [rowTexts, List.map_cons, field_of_plain (plain_toString _), List.map_map]
    rfl
  rw [chars, pageTexts, List.flatMap_cons, List.flatMap_map, header]
  exact congrArg _ (List.flatMap_congr fun r _ => row r)

theorem pageTexts_nonempty (page : Page) : ∀ texts ∈ pageTexts page, texts ≠ [] := by
  intro texts mem
  rcases List.mem_cons.mp mem with rfl | mem
  · exact List.cons_ne_nil _ _
  · obtain ⟨r, -, rfl⟩ := List.mem_map.mp mem
    exact List.cons_ne_nil _ _

theorem read_csv (page : Page) :
    read .lineFeed (csv page) = some ((pageTexts page).map (·.map .ofText)) := by
  have lines : Reading.after? .lineFeed ⟨.start, [], [], []⟩ _ = _ :=
    after?_lines (pageTexts_nonempty page) fun _ _ _ _ _ => .inl rfl
  rw [read, csv, String.toList_ofList, readChars, chars_eq, Reading.initial, lines]
  rfl

theorem readTexts_csv (page : Page) : readTexts .lineFeed (csv page) = some (pageTexts page) := by
  have texts : ∀ line : List String, (line.map Field.ofText).map Field.text = line := by
    intro line
    rw [List.map_map]
    exact List.map_id _
  rw [readTexts, read_csv, Option.map_some, List.map_map]
  exact congrArg some ((List.map_congr_left fun line _ => texts line).trans (List.map_id _))

/-! ## Two pages -/

/-- What a row tells outside a browser. -/
def told (r : Grid.Row) : UInt64 × List String := (r.id, r.cells.map Cell.exported)

theorem toldTexts_injective :
    Function.Injective fun t : UInt64 × List String => toString t.1.toNat :: t.2 := by
  rintro ⟨id, texts⟩ ⟨id', texts'⟩ same
  obtain ⟨ids, rest⟩ := List.cons.inj same
  exact Prod.ext (UInt64.toNat_inj.mp (Text.toString_injective ids)) rest

theorem pageTexts_inj {p q : Page} :
    pageTexts p = pageTexts q ↔ p.columns = q.columns ∧ p.rows.map told = q.rows.map told := by
  have rows : ∀ page : Page, page.rows.map rowTexts
      = (page.rows.map told).map fun t => toString t.1.toNat :: t.2 := by
    intro page
    rw [List.map_map]
    rfl
  rw [pageTexts, pageTexts, List.cons.injEq, List.cons.injEq, rows p, rows q,
    (List.map_injective_iff.mpr fun _ _ => Column.field_injective).eq_iff,
    (List.map_injective_iff.mpr toldTexts_injective).eq_iff, eq_self, true_and]

theorem csv_inj {p q : Page} :
    csv p = csv q ↔ p.columns = q.columns ∧ p.rows.map told = q.rows.map told := by
  rw [← pageTexts_inj]
  constructor
  · intro same
    have texts := readTexts_csv p
    rw [same, readTexts_csv q] at texts
    exact (Option.some.inj texts).symm
  · intro same
    rw [csv, csv, chars_eq, chars_eq, same]

/-- Every page that a grid shows is read back as its header and its rows, text by text, and these
are the texts of the settings at the positions of the rows; so two pages have the same values
separated by commas only if they agree in all of these. -/
theorem readTexts_csv_view (actions : List Grid.Action) (settings : List Setting) :
    readTexts .lineFeed (csv ((State.ofActions actions).view settings))
        = some (("id" :: (State.ofActions actions).visibleColumns.map Column.field) ::
            ((State.ofActions actions).view settings).rows.map fun r =>
              toString r.id.toNat :: r.cells.map Cell.exported) ∧
      (∀ r ∈ ((State.ofActions actions).view settings).rows, ∃ setting,
        settings[r.index]? = some setting ∧ r.id = setting.id ∧
          r.cells.map Cell.exported
            = (State.ofActions actions).visibleColumns.map setting.textIn) ∧
      ∀ (actions' : List Grid.Action) (settings' : List Setting),
        csv ((State.ofActions actions).view settings)
            = csv ((State.ofActions actions').view settings') ↔
          (State.ofActions actions).visibleColumns = (State.ofActions actions').visibleColumns ∧
            ((State.ofActions actions).view settings).rows.map (fun r =>
                (r.id, r.cells.map Cell.exported))
              = ((State.ofActions actions').view settings').rows.map fun r =>
                  (r.id, r.cells.map Cell.exported) :=
  ⟨readTexts_csv _, fun _ => State.exported_of_mem_rows, fun _ _ => csv_inj⟩

end EvaluationBrowser.Report.Csv
