/-
# Settings without areas come back

Writing a text escapes what cannot stand in it, and reading undoes that. A null has no quotation
marks, so no text is read as a null and no null as a text. Areas alone may change when they are
written and read again. Hence settings that leave both areas open come back as they were: one by
one from the compact layout, and as a list from the indented one, also with the line feed that ends
what is printed. Two such lists that are written alike are therefore the same list.
-/
import EvaluationBrowser.Proofs.Setting.Reread
import EvaluationBrowser.Report.Export

namespace EvaluationBrowser.Setting

/-- Both areas are left open. -/
def IsOpen (s : Setting) : Prop := ∀ bound, s.area bound = none

variable {s : Setting} {settings others : List Setting}

theorem IsOpen.hasFiniteAreas (h : s.IsOpen) : s.HasFiniteAreas := by
  intro bound area given
  cases (h bound).symm.trans given

theorem IsOpen.reread (h : s.IsOpen) : s.reread = s := by
  refine reread_eq_iff.mpr fun bound area given => ?_
  cases (h bound).symm.trans given

theorem map_reread (h : ∀ s ∈ settings, s.IsOpen) : settings.map reread = settings := by
  refine (eq_map_reread_iff.mpr fun s mem bound area given => ?_).symm
  cases (h s mem bound).symm.trans given

theorem decodeAll_encodeAll_of_isOpen (h : ∀ s ∈ settings, s.IsOpen) :
    decodeAll (encodeAll settings) = .ok settings := by
  rw [decodeAll_encodeAll fun s mem => (h s mem).hasFiniteAreas, map_reread h]

/-- What is shown on a page are settings that the page was made from. -/
theorem mem_of_mem_shownOn {page : Grid.Page} (h : s ∈ Report.shownOn page settings) :
    s ∈ settings := by
  obtain ⟨row, -, found⟩ := List.mem_filterMap.mp h
  exact List.mem_of_getElem? found

/-- Reading undoes writing. -/
structure ComesBack (settings : List Setting) : Prop where
  /-- One setting, in the compact layout. -/
  each : ∀ s ∈ settings, decode s.encode = .ok s
  /-- The whole list, in the indented layout. -/
  all : decodeAll (encodeAll settings) = .ok settings
  /-- The settings on a page, as they are printed. -/
  printed : ∀ page, decodeAll (Report.json page settings ++ "\n")
    = .ok (Report.shownOn page settings)
  /-- No other list is written in the same way. -/
  only : ∀ others, (∀ s ∈ others, s.IsOpen) → encodeAll others = encodeAll settings →
    others = settings

theorem comesBack_of_isOpen (h : ∀ s ∈ settings, s.IsOpen) : ComesBack settings := by
  refine { each := fun s mem => ?_, all := decodeAll_encodeAll_of_isOpen h,
           printed := fun page => ?_, only := fun others ho same => ?_ }
  · rw [decode_encode (h s mem).hasFiniteAreas, (h s mem).reread]
  · have shown : ∀ s ∈ Report.shownOn page settings, s.IsOpen :=
      fun s mem => h s (mem_of_mem_shownOn mem)
    rw [Report.json, decodeAll_encodeAll_line fun s mem => (shown s mem).hasFiniteAreas,
      map_reread shown]
  · have back := decodeAll_encodeAll_of_isOpen ho
    rw [same, decodeAll_encodeAll_of_isOpen h] at back
    exact (Except.ok.inj back).symm

/-- Texts that need escapes, or that look like other parts of the format. -/
def awkward : List Setting :=
  [⟨18446744073709551615, none, "", "\"id\": 1, \\", "]", none, none⟩,
   ⟨0, some "null", "\x00\x1f\n\t\x7f", "\u2028\u2029\ufeff", "😀\\u0041", none, none⟩,
   ⟨0, some "", "null", "Σ\r\n", "\\", none, none⟩]

theorem comesBack_of_awkward :
    (∀ s ∈ awkward, s.IsOpen) ∧ ComesBack awkward := by
  have isOpen : ∀ s ∈ awkward, s.IsOpen := by
    have missing : ∀ s ∈ awkward, s.minArea = none ∧ s.maxArea = none := by decide
    intro s mem bound
    cases bound with
    | min => exact (missing s mem).1
    | max => exact (missing s mem).2
  exact ⟨isOpen, comesBack_of_isOpen isOpen⟩

end EvaluationBrowser.Setting
