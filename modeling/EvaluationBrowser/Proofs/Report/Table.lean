/-
# Where the texts of a table stand

The widths of a table are folded over its lines and only grow, so at the end every text fits its
column. A line of texts that fit has a length that the widths alone fix, and the rules have the
same, so the lines of a table follow each other at equal distances, whatever characters are in the
texts. Behind the first three the lines are the rows, and the widths cut each row into its texts
again.
-/
import Mathlib.Algebra.GroupWithZero.Nat
import Mathlib.Data.List.Forall2
import EvaluationBrowser.Report.Table

namespace EvaluationBrowser.Report.Table

open Grid (Page)

/-- The characters on a line: every column with the two spaces before it. -/
def total (widths : List Nat) : Nat := (widths.map (· + 2)).sum

/-- What stands in the columns of a line. -/
def slots : List Nat → List Char → List (List Char)
  | [], _ => []
  | width :: widths, cs => (cs.drop 2).take width :: slots widths (cs.drop (2 + width))

/-- A line of a table with rows, counted from the rule on top, and its line feed. A text may break
lines too, so lines are told apart by their length. -/
def segment (page : Page) (k : Nat) : List Char :=
  ((table page).toList.drop (k * (total (widths page) + 1))).take (total (widths page) + 1)

/-- Every text has a column that is as wide as it at least. -/
abbrev Fits (texts : List (List Char)) (widths : List Nat) : Prop :=
  List.Forall₂ (fun text width => text.length ≤ width) texts widths

/-! ## Widths -/

section Widths

variable {texts : List (List Char)} {widths : List Nat}

/-- The zeros that a line is filled up with are not used where it has a text for every column. -/
theorem widen_eq_zipWith (aligned : texts.length = widths.length) :
    widen widths texts = List.zipWith (fun width text => max width text.length) widths texts := by
  have lengths : widths.length = (texts.map List.length).length := by rw [List.length_map, aligned]
  have filled : List.zipWith max (widths ++ [])
        (texts.map List.length ++ List.replicate widths.length 0)
      = List.zipWith max widths (texts.map List.length) ++ [] := List.zipWith_append lengths
  rw [List.append_nil, List.append_nil] at filled
  rw [widen, filled, List.zipWith_map_right]

theorem length_widen (widths : List Nat) (texts : List (List Char)) :
    (widen widths texts).length = widths.length := by
  rw [widen, List.length_zipWith, List.length_append, List.length_replicate]
  omega

theorem fits_lengths (texts : List (List Char)) : Fits texts (texts.map List.length) := by
  rw [Fits, List.forall₂_map_right_iff]
  exact List.forall₂_same.mpr fun text _ => Nat.le_refl _

theorem fits_widen (aligned : texts.length = widths.length) : Fits texts (widen widths texts) := by
  rw [widen_eq_zipWith aligned]
  induction texts generalizing widths with
  | nil =>
      rw [List.eq_nil_of_length_eq_zero aligned.symm]
      exact .nil
  | cons text texts ih =>
      cases widths with
      | nil => cases aligned
      | cons width widths => exact .cons (Nat.le_max_right ..) (ih (Nat.succ.inj aligned))

theorem Fits.widen (fits : Fits texts widths) {more : List (List Char)}
    (aligned : more.length = widths.length) : Fits texts (widen widths more) := by
  rw [widen_eq_zipWith aligned]
  induction fits generalizing more with
  | nil => exact .nil
  | cons fit _ ih =>
      cases more with
      | nil => cases aligned
      | cons text more =>
          exact .cons (Nat.le_trans fit (Nat.le_max_left ..)) (ih (Nat.succ.inj aligned))

theorem Fits.foldl_widen (fits : Fits texts widths) {lines : List (List (List Char))}
    (aligned : ∀ more ∈ lines, more.length = widths.length) :
    Fits texts (lines.foldl Table.widen widths) := by
  induction lines generalizing widths with
  | nil => exact fits
  | cons more lines ih =>
      refine ih (fits.widen (aligned more List.mem_cons_self)) fun others mem => ?_
      rw [length_widen, aligned others (List.mem_cons_of_mem _ mem)]

/-- The widths folded over some lines are enough for each of them. -/
theorem fits_foldl_widen {lines : List (List (List Char))}
    (aligned : ∀ more ∈ lines, more.length = widths.length) (mem : texts ∈ lines) :
    Fits texts (lines.foldl widen widths) := by
  induction lines generalizing widths with
  | nil => cases mem
  | cons more lines ih =>
      have rest : ∀ others ∈ lines, others.length = (Table.widen widths more).length := by
        intro others mem
        rw [length_widen, aligned others (List.mem_cons_of_mem _ mem)]
      -- A line makes room for itself, and those after it leave it that room.
      rcases List.mem_cons.mp mem with rfl | later
      · exact (fits_widen (aligned texts List.mem_cons_self)).foldl_widen rest
      · exact ih rest later

end Widths

section Fitting

variable {page : Page}

/-- A row that is made of a setting has a cell for every column. -/
theorem length_cells_of_rows {shown : List (Setting × Nat)}
    (rows : page.rows = shown.map (Grid.State.row page.columns)) :
    ∀ r ∈ page.rows, r.cells.length = page.columns.length := by
  intro r mem
  rw [rows] at mem
  obtain ⟨of, -, rfl⟩ := List.mem_map.mp mem
  exact List.length_map _

variable (aligned : ∀ r ∈ page.rows, r.cells.length = page.columns.length)

include aligned

theorem length_of_mem_rows {texts : List (List Char)} (mem : texts ∈ page.rows.map Table.texts) :
    texts.length = ((headings page).map List.length).length := by
  obtain ⟨r, inRows, rfl⟩ := List.mem_map.mp mem
  rw [Table.texts, headings, List.length_map, List.length_map, List.length_map, aligned r inRows]

theorem fits_headings : Fits (headings page) (widths page) :=
  (fits_lengths _).foldl_widen fun _ mem => length_of_mem_rows aligned mem

theorem fits_texts {r : Grid.Row} (mem : r ∈ page.rows) : Fits (texts r) (widths page) :=
  fits_foldl_widen (fun _ inRows => length_of_mem_rows aligned inRows) (List.mem_map_of_mem mem)

end Fitting

/-! ## Lines -/

section Lines

variable {texts : List (List Char)} {widths : List Nat}

theorem length_pad {text : List Char} {width : Nat} (fit : text.length ≤ width) :
    (pad text width).length = width := by
  rw [pad, List.length_append, List.length_replicate, Nat.add_sub_cancel' fit]

theorem line_cons (text : List Char) (width : Nat) (texts : List (List Char))
    (widths : List Nat) :
    line (text :: texts) (width :: widths)
      = [' ', ' '] ++ (pad text width ++ line texts widths) := by
  rw [line, line, List.zipWith_cons_cons, List.flatten_cons]
  simp only [List.cons_append, List.nil_append, List.append_assoc]

theorem length_line (fits : Fits texts widths) : (line texts widths).length = total widths + 1 := by
  induction fits with
  | nil => rfl
  | @cons text width texts widths fit _ ih =>
      rw [line_cons, List.length_append, List.length_append, length_pad fit, ih, total, total,
        List.map_cons, List.sum_cons, List.length_cons, List.length_singleton]
      omega

/-- The widths cut a line into its texts. -/
theorem slots_line (fits : Fits texts widths) :
    slots widths (line texts widths) = List.zipWith pad texts widths := by
  induction fits with
  | nil => rfl
  | @cons text width texts widths fit _ ih =>
      have textEnd : 2 + width = ([' ', ' '] ++ pad text width).length := by
        rw [List.length_append, length_pad fit]
        rfl
      have slot :
          ((line (text :: texts) (width :: widths)).drop 2).take width = pad text width := by
        rw [line_cons]
        exact List.take_left' (length_pad fit)
      have rest :
          (line (text :: texts) (width :: widths)).drop (2 + width) = line texts widths := by
        rw [line_cons, ← List.append_assoc, textEnd, List.drop_left]
      rw [slots, slot, rest, ih, List.zipWith_cons_cons]

/-- In its column a text is followed by spaces only. -/
theorem forall₂_pad (fits : Fits texts widths) :
    List.Forall₂ (fun slot text => ∃ n, slot = text ++ List.replicate n ' ')
      (List.zipWith pad texts widths) texts := by
  induction fits with
  | nil => exact .nil
  | cons _ _ ih => exact .cons ⟨_, rfl⟩ ih

/-- A rule is as long as a line. -/
theorem rule_eq (widths : List Nat) :
    rule widths = List.replicate (total widths) '-' ++ ['\n'] := by
  have counts : widths.sum + 2 * widths.length = total widths := by
    induction widths with
    | nil => rfl
    | cons width widths ih =>
        rw [total, List.map_cons, List.sum_cons, List.sum_cons, ← total, ← ih, List.length_cons]
        omega
  rw [rule, ← List.sum_eq_foldl_nat, counts]

theorem length_rule (widths : List Nat) : (rule widths).length = total widths + 1 := by
  rw [rule_eq, List.length_append, List.length_replicate, List.length_singleton]

end Lines

/-! ## The table -/

/-- Pieces of one length are found again where they stand. -/
theorem take_drop_flatten {α : Type} {length : Nat} {pieces : List (List α)}
    (same : ∀ piece ∈ pieces, piece.length = length) (rest : List α) {k : Nat} {piece : List α}
    (found : pieces[k]? = some piece) :
    ((pieces.flatten ++ rest).drop (k * length)).take length = piece := by
  induction pieces generalizing k with
  | nil => cases found
  | cons first pieces ih =>
      have firstLength := same first List.mem_cons_self
      rw [List.flatten_cons, List.append_assoc]
      cases k with
      | zero =>
          cases found
          rw [Nat.zero_mul, List.drop_zero]
          exact List.take_left' firstLength
      | succ k =>
          have skip : (k + 1) * length = first.length + k * length := by
            rw [firstLength, Nat.add_mul, Nat.one_mul, Nat.add_comm]
          rw [skip, List.drop_length_add_append]
          exact ih (fun piece mem => same piece (List.mem_cons_of_mem _ mem)) found

/-- The lines of the table down to the last row. -/
def upperLines (page : Page) : List (List Char) :=
  [rule (widths page), line (headings page) (widths page), rule (widths page)]
    ++ page.rows.map fun r => line (texts r) (widths page)

section Page

variable {page : Page}

theorem chars_eq (shown : page.isEmpty = false) :
    chars page = (upperLines page).flatten ++ (rule (widths page) ++ (footer page).toList) := by
  rw [chars, body, shown, if_neg Bool.false_ne_true, upperLines, List.flatten_append,
    List.flatMap_def]
  simp only [List.flatten_cons, List.flatten_nil, List.append_nil, List.append_assoc]

variable (aligned : ∀ r ∈ page.rows, r.cells.length = page.columns.length)

include aligned

theorem length_of_mem_upperLines :
    ∀ piece ∈ upperLines page, piece.length = total (widths page) + 1 := by
  intro piece mem
  rcases List.mem_append.mp mem with top | inRows
  · have heading := length_line (fits_headings aligned)
    simp only [List.mem_cons, List.not_mem_nil, or_false] at top
    rcases top with rfl | rfl | rfl
    · exact length_rule _
    · exact heading
    · exact length_rule _
  · obtain ⟨r, shown, rfl⟩ := List.mem_map.mp inRows
    exact length_line (fits_texts aligned shown)

/-- Behind the heading and its rules the lines are the rows. -/
theorem segment_row {k : Nat} {r : Grid.Row} (found : page.rows[k]? = some r) :
    segment page (k + 3) = line (texts r) (widths page) := by
  have mem := List.mem_of_getElem? found
  have shown : page.isEmpty = false :=
    Bool.eq_false_iff.mpr fun empty => List.ne_nil_of_mem mem (List.isEmpty_iff.mp empty)
  have piece : (upperLines page)[k + 3]? = some (line (texts r) (widths page)) := by
    change (page.rows.map fun r => line (texts r) (widths page))[k]? = _
    rw [List.getElem?_map, found]
    rfl
  rw [segment, table, String.toList_ofList, chars_eq shown]
  exact take_drop_flatten (length_of_mem_upperLines aligned) _ piece

theorem slots_segment_row {k : Nat} {r : Grid.Row} (found : page.rows[k]? = some r) :
    slots (widths page) (segment page (k + 3)) = List.zipWith pad (texts r) (widths page) := by
  rw [segment_row aligned found, slots_line (fits_texts aligned (List.mem_of_getElem? found))]

end Page

end EvaluationBrowser.Report.Table
