/-
# Settings read back from JSON

What is written for a setting, or for a list of settings, decodes in either layout to the same
identifiers, texts and nulls, and to areas that were read where areas were written. If there are no
areas, or none that reading changes, that is the setting itself.
-/
import EvaluationBrowser.Setting.Format
import EvaluationBrowser.Proofs.Json.Reader
import EvaluationBrowser.Proofs.Json.Reread

namespace EvaluationBrowser

open Json (Reader Style Literal Value)

namespace Json

/-! ## What the values of fields are read as -/

theorem Reader.Takes.into {read : Reader α} {text : List Char} {x : α} (h : read.Takes text x)
    (f : α → β) : Reader.Takes (fun cs => (read cs).map fun r => (f r.1, r.2)) text (f x) := by
  refine ⟨h.opens, fun space rest blank ends => ?_⟩
  rw [h.run space rest blank ends]
  rfl

theorem takes_natural (n : UInt64) : Reader.natural.Takes (Literal.ofNat n.toNat).chars n := by
  refine takes_number (Literal.ofNat_isWellFormed _) (Literal.number_ofNat n.toNat_lt) ?_
  dsimp only
  rw [if_pos (Int.natCast_nonneg _), Int.toNat_natCast, UInt64.ofNat_toNat]

/-- A finite number is taken as the number that is read where it was written. -/
theorem takes_real (style : Style) (depth : Nat) {x : Binary64} (finite : x.isFinite = true) :
    Reader.real.Takes ((Value.ofBinary64 x).chars style depth) x.reread := by
  cases x with
  | finite negative rank =>
      obtain ⟨s, reread, rereads⟩ := exists_reread negative rank
      have sameRank : Binary64.ofRank negative s = .finite negative s := dif_pos s.isLt
      rw [reread]
      refine takes_number (Literal.ofMagnitude_isWellFormed negative rank.isLt) rereads.number ?_
      rw [Number.toBinary64, sameRank]
  | infinite _ => cases finite
  | nan => cases finite

theorem takes_optionalText (style : Style) (depth : Nat) (s : Option String) :
    (Reader.optional .text).Takes ((Value.ofOption .text s).chars style depth) s := by
  cases s with
  | none => exact takes_null _
  | some s => exact (takes_text s).optional (show 'n' ∉ some '"' by decide)

theorem takes_optionalReal (style : Style) (depth : Nat) {x : Option Binary64}
    (finite : ∀ area, x = some area → area.isFinite = true) :
    (Reader.optional .real).Takes ((Value.ofOption .ofBinary64 x).chars style depth)
      (x.map Binary64.reread) := by
  cases x with
  | none => exact takes_null _
  | some x =>
      refine (takes_real style depth (finite x rfl)).optional ?_
      cases x with
      | finite negative rank =>
          obtain ⟨c, cs, eq, start⟩ :=
            chars_eq_cons (Literal.ofMagnitude_isWellFormed negative rank.isLt)
          have notNull := (startsNumber_spec start).2.2
          change 'n' ∉ (Literal.ofMagnitude negative rank).chars.head?
          rw [eq]
          exact fun h => notNull (Option.some.inj h)
      | infinite _ => exact absurd (finite _ rfl) Bool.false_ne_true
      | nan => exact absurd (finite _ rfl) Bool.false_ne_true

theorem elementChars_eq_map (style : Style) (depth : Nat) (vs : List Value) :
    elementChars style depth vs = vs.map fun v => v.chars style depth := by
  induction vs with
  | nil => rfl
  | cons v vs ih => rw [elementChars, ih, List.map_cons]

theorem memberChars_eq_map (style : Style) (depth : Nat) (ms : List (String × Value)) :
    memberChars style depth ms
      = ms.map fun m => memberText style m.1 (m.2.chars style depth) := by
  induction ms with
  | nil => rfl
  | cons m ms ih =>
      obtain ⟨key, v⟩ := m
      rw [memberChars, ih, List.map_cons, memberText]

end Json

namespace Setting

/-- The setting that is read where the setting was written. -/
def reread (s : Setting) : Setting :=
  { s with minArea := s.minArea.map Binary64.reread, maxArea := s.maxArea.map Binary64.reread }

def HasFiniteAreas (s : Setting) : Prop :=
  ∀ bound area, s.area bound = some area → area.isFinite = true

/-- A field of the setting, given to the draft. -/
def Draft.put (s : Setting) : Field → Draft → Draft
  | .id, d => { d with id := some s.id }
  | .modelName, d => { d with modelName := some s.modelName }
  | .datasetName, d => { d with datasetName := some s.datasetName }
  | .predictionTask, d => { d with predictionTask := some s.predictionTask }
  | .groundTruthTask, d => { d with groundTruthTask := some s.groundTruthTask }
  | .minArea, d => { d with minArea := some s.minArea }
  | .maxArea, d => { d with maxArea := some s.maxArea }

theorem takesFields (style : Style) (depth : Nat) {s : Setting} (finite : s.HasFiniteAreas) :
    format.TakesFields (fun field => (s.fieldValue field).chars style depth)
      (Draft.put s.reread) where
  found field := by cases field <;> decide
  others draft field other ne := by
    cases field <;> cases other <;> first | rfl | exact absurd rfl ne
  takes field draft := by
    cases field with
    | id =>
        exact (Json.takes_natural s.id).into
          fun x => { draft with id := some x }
    | modelName =>
        exact (Json.takes_optionalText style depth s.modelName).into
          fun x => { draft with modelName := some x }
    | datasetName =>
        exact (Json.takes_text s.datasetName).into
          fun x => { draft with datasetName := some x }
    | predictionTask =>
        exact (Json.takes_text s.predictionTask).into
          fun x => { draft with predictionTask := some x }
    | groundTruthTask =>
        exact (Json.takes_text s.groundTruthTask).into
          fun x => { draft with groundTruthTask := some x }
    | minArea =>
        exact (Json.takes_optionalReal style depth (finite .min)).into
          fun x => { draft with minArea := some x }
    | maxArea =>
        exact (Json.takes_optionalReal style depth (finite .max)).into
          fun x => { draft with maxArea := some x }

/-- A setting is taken from what is written for it. -/
theorem takes_toValue {style : Style} (spaced : style.IsSpaced) (depth : Nat) {s : Setting}
    (finite : s.HasFiniteAreas) : reader.Takes (s.toValue.chars style depth) s.reread := by
  have distinct : Field.all.Nodup := by decide
  rw [toValue, Value.chars, Json.memberChars_eq_map, List.map_map]
  exact Json.takes_record (takesFields style (depth + 1) finite) spaced depth distinct
    (fun field _ => by cases field <;> rfl) rfl

/-! ## One setting and many -/

theorem decode_encode {s : Setting} (finite : s.HasFiniteAreas) : decode s.encode = .ok s.reread :=
  (takes_toValue Style.compact_isSpaced 0 finite).document

theorem takes_encodeAll {settings : List Setting} (finite : ∀ s ∈ settings, s.HasFiniteAreas) :
    (Reader.list reader).Takes (encodeAll settings).toList (settings.map reread) := by
  rw [encodeAll, Value.render, String.toList_ofList, Value.chars, Json.elementChars_eq_map,
    List.map_map]
  exact Json.takes_list Style.indented_isSpaced 0
    fun s member => takes_toValue Style.indented_isSpaced 1 (finite s member)

theorem decodeAll_encodeAll {settings : List Setting} (finite : ∀ s ∈ settings, s.HasFiniteAreas) :
    decodeAll (encodeAll settings) = .ok (settings.map reread) := by
  have taken := (takes_encodeAll finite).document
  rwa [String.ofList_toList] at taken

/-- What is printed ends its last line. -/
theorem decodeAll_encodeAll_line {settings : List Setting}
    (finite : ∀ s ∈ settings, s.HasFiniteAreas) :
    decodeAll (encodeAll settings ++ "\n") = .ok (settings.map reread) := by
  have lineFeed : Json.AllSpace ['\n'] := by
    intro c mem
    rw [List.mem_singleton.mp mem]
    rfl
  have taken := (takes_encodeAll finite).document_spaced Json.allSpace_nil lineFeed
  rwa [List.nil_append, String.ofList_append, String.ofList_toList] at taken

end Setting

end EvaluationBrowser
