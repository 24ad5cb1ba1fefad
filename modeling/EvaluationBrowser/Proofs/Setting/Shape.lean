/-
# Which trees are settings

A tree says what the values of a name are, by the members that have the name or by a place in a
list, and nothing else about the tree matters: whether it is the form of a setting, and which
setting it describes, is asked of those values alone. So the order of the members plays no part,
and neither does a member of another name, whatever its value.

The names are those on the wire, in the order in which a setting has its fields.
-/
import Mathlib.Data.List.Forall2
import EvaluationBrowser.Setting.Basic
import EvaluationBrowser.Json.Value
import EvaluationBrowser.Proofs.Json.Literal

namespace EvaluationBrowser.Setting

open Json (Value Literal)

def wireNames : List String :=
  ["id", "model_name", "dataset_name", "model_pred_task_type", "dataset_gt_task_type", "min_area",
    "max_area"]

/-- The values of the members that have the name, in order. -/
def valuesOf (members : List (String × Value)) (name : String) : List Value :=
  members.filterMap fun m => if m.1 = name then some m.2 else none

/-! ## The form -/

/-- The name must have one value, and it must be such. -/
def Once (allowed : Value → Prop) (values : List Value) : Prop :=
  ∃ v, values = [v] ∧ allowed v

/-- The name may be missing, and its value may be null. -/
def AtMostOnce (allowed : Value → Prop) (values : List Value) : Prop :=
  values = [] ∨ values = [.null] ∨ Once allowed values

def IsIdentifier (v : Value) : Prop :=
  ∃ l : Literal, v = .number l ∧ l.IsUnsigned ∧ l.coefficient < 2 ^ 64

def IsText (v : Value) : Prop := ∃ s, v = .text s

/-- A number that is not out of range. -/
def IsAreaNumber (v : Value) : Prop := ∃ l n, v = .number l ∧ l.number = .ok n

/-- The values that the names of a setting must and may have. -/
structure HasForm (values : String → List Value) : Prop where
  id : Once IsIdentifier (values "id")
  modelName : AtMostOnce IsText (values "model_name")
  datasetName : Once IsText (values "dataset_name")
  predictionTask : Once IsText (values "model_pred_task_type")
  groundTruthTask : Once IsText (values "dataset_gt_task_type")
  minArea : AtMostOnce IsAreaNumber (values "min_area")
  maxArea : AtMostOnce IsAreaNumber (values "max_area")

/-- An object gives values by its members, and a list of five to seven by their places. -/
def IsForm : Value → Prop
  | .object members => HasForm (valuesOf members)
  | .list vs => 5 ≤ vs.length ∧ vs.length ≤ 7 ∧ HasForm (valuesOf (wireNames.zip vs))
  | _ => False

/-! ## What is described -/

def IsIdentifierOf (id : UInt64) (v : Value) : Prop :=
  ∃ l : Literal, v = .number l ∧ l.IsUnsigned ∧ l.coefficient = id.toNat

def IsTextOf (s : String) (v : Value) : Prop := v = .text s

def IsAreaOf (area : Binary64) (v : Value) : Prop :=
  ∃ l n, v = .number l ∧ l.number = .ok n ∧ n.toBinary64 = area

/-- What an optional field is: nothing where no value or null is given. -/
inductive IsOptional (describes : α → Value → Prop) : Option α → List Value → Prop
  | missing : IsOptional describes none []
  | null : IsOptional describes none [.null]
  | given {x : α} {v : Value} (h : describes x v) : IsOptional describes (some x) [v]

/-- The values that the names have are those of the setting. -/
structure HasValues (s : Setting) (values : String → List Value) : Prop where
  id : Once (IsIdentifierOf s.id) (values "id")
  modelName : IsOptional IsTextOf s.modelName (values "model_name")
  datasetName : Once (IsTextOf s.datasetName) (values "dataset_name")
  predictionTask : Once (IsTextOf s.predictionTask) (values "model_pred_task_type")
  groundTruthTask : Once (IsTextOf s.groundTruthTask) (values "dataset_gt_task_type")
  minArea : IsOptional IsAreaOf s.minArea (values "min_area")
  maxArea : IsOptional IsAreaOf s.maxArea (values "max_area")

def Describes : Value → Setting → Prop
  | .object members, s => HasValues s (valuesOf members)
  | .list vs, s => 5 ≤ vs.length ∧ vs.length ≤ 7 ∧ HasValues s (valuesOf (wireNames.zip vs))
  | _, _ => False

/-! ## Every form describes a setting -/

theorem once_exists {describes : α → Value → Prop} {values : List Value} :
    Once (fun v => ∃ x, describes x v) values ↔ ∃ x, Once (describes x) values := by
  constructor
  · rintro ⟨v, rfl, x, h⟩
    exact ⟨x, v, rfl, h⟩
  · rintro ⟨x, v, rfl, h⟩
    exact ⟨v, rfl, x, h⟩

theorem atMostOnce_exists {describes : α → Value → Prop} {values : List Value} :
    AtMostOnce (fun v => ∃ x, describes x v) values ↔ ∃ x, IsOptional describes x values := by
  constructor
  · rintro (rfl | rfl | ⟨v, rfl, x, h⟩)
    · exact ⟨none, .missing⟩
    · exact ⟨none, .null⟩
    · exact ⟨some x, .given h⟩
  · rintro ⟨x, h⟩
    cases h with
    | missing => exact .inl rfl
    | null => exact .inr (.inl rfl)
    | given h => exact .inr (.inr ⟨_, rfl, _, h⟩)

theorem isIdentifier_iff : IsIdentifier = fun v => ∃ id, IsIdentifierOf id v := by
  funext v
  refine propext ⟨?_, ?_⟩
  · rintro ⟨l, rfl, unsigned, few⟩
    exact ⟨UInt64.ofNat l.coefficient, l, rfl, unsigned, (UInt64.toNat_ofNat_of_lt' few).symm⟩
  · rintro ⟨id, l, rfl, unsigned, value⟩
    exact ⟨l, rfl, unsigned, value ▸ id.toNat_lt⟩

theorem isAreaNumber_iff : IsAreaNumber = fun v => ∃ area, IsAreaOf area v := by
  funext v
  refine propext ⟨?_, ?_⟩
  · rintro ⟨l, n, rfl, number⟩
    exact ⟨n.toBinary64, l, n, rfl, number, rfl⟩
  · rintro ⟨_, l, n, rfl, number, -⟩
    exact ⟨l, n, rfl, number⟩

theorem hasForm_iff {values : String → List Value} :
    HasForm values ↔ ∃ s, HasValues s values := by
  constructor
  · rintro ⟨id, modelName, datasetName, predictionTask, groundTruthTask, minArea, maxArea⟩
    rw [isIdentifier_iff] at id
    rw [isAreaNumber_iff] at minArea maxArea
    obtain ⟨id, isId⟩ := once_exists.mp id
    obtain ⟨model, isModel⟩ := atMostOnce_exists.mp modelName
    obtain ⟨dataset, isDataset⟩ := once_exists.mp datasetName
    obtain ⟨prediction, isPrediction⟩ := once_exists.mp predictionTask
    obtain ⟨groundTruth, isGroundTruth⟩ := once_exists.mp groundTruthTask
    obtain ⟨min, isMin⟩ := atMostOnce_exists.mp minArea
    obtain ⟨max, isMax⟩ := atMostOnce_exists.mp maxArea
    exact ⟨⟨id, model, dataset, prediction, groundTruth, min, max⟩,
      ⟨isId, isModel, isDataset, isPrediction, isGroundTruth, isMin, isMax⟩⟩
  · rintro ⟨s, id, modelName, datasetName, predictionTask, groundTruthTask, minArea, maxArea⟩
    refine ⟨?_, atMostOnce_exists.mpr ⟨_, modelName⟩, once_exists.mpr ⟨_, datasetName⟩,
      once_exists.mpr ⟨_, predictionTask⟩, once_exists.mpr ⟨_, groundTruthTask⟩, ?_, ?_⟩
    · rw [isIdentifier_iff]
      exact once_exists.mpr ⟨_, id⟩
    · rw [isAreaNumber_iff]
      exact atMostOnce_exists.mpr ⟨_, minArea⟩
    · rw [isAreaNumber_iff]
      exact atMostOnce_exists.mpr ⟨_, maxArea⟩

theorem isForm_iff {v : Value} : IsForm v ↔ ∃ s, Describes v s := by
  cases v with
  | object members => exact hasForm_iff
  | list vs =>
      rw [IsForm, hasForm_iff]
      constructor
      · rintro ⟨few, many, s, h⟩
        exact ⟨s, few, many, h⟩
      · rintro ⟨s, few, many, h⟩
        exact ⟨few, many, s, h⟩
  | null | boolean _ | number _ | text _ => exact ⟨False.elim, fun h => h.elim fun _ h => h⟩

/-! ## What plays no part -/

/-- The same values for every name of a setting, in any order. -/
def SameValues : Value → Value → Prop
  | .object members, .object others =>
    ∀ name ∈ wireNames, (valuesOf members name).Perm (valuesOf others name)
  | v, w => v = w

theorem Once.perm {allowed : Value → Prop} {values others : List Value} (h : Once allowed values)
    (same : values.Perm others) : Once allowed others := by
  obtain ⟨v, rfl, ok⟩ := h
  exact ⟨v, List.singleton_perm.mp same |>.symm, ok⟩

theorem IsOptional.perm {describes : α → Value → Prop} {x : Option α} {values others : List Value}
    (h : IsOptional describes x values) (same : values.Perm others) :
    IsOptional describes x others := by
  cases h with
  | missing =>
      rw [List.nil_perm.mp same]
      exact .missing
  | null =>
      rw [← List.singleton_perm.mp same]
      exact .null
  | given h =>
      rw [← List.singleton_perm.mp same]
      exact .given h

theorem HasValues.perm {s : Setting} {values others : String → List Value}
    (h : HasValues s values) (same : ∀ name ∈ wireNames, (values name).Perm (others name)) :
    HasValues s others where
  id := h.id.perm (same "id" (by decide))
  modelName := h.modelName.perm (same "model_name" (by decide))
  datasetName := h.datasetName.perm (same "dataset_name" (by decide))
  predictionTask := h.predictionTask.perm (same "model_pred_task_type" (by decide))
  groundTruthTask := h.groundTruthTask.perm (same "dataset_gt_task_type" (by decide))
  minArea := h.minArea.perm (same "min_area" (by decide))
  maxArea := h.maxArea.perm (same "max_area" (by decide))

theorem describes_congr {v w : Value} (same : SameValues v w) (s : Setting) :
    Describes v s ↔ Describes w s := by
  cases v with
  | object members =>
      cases w with
      | object others =>
          exact ⟨fun h => h.perm same, fun h => h.perm fun name member => (same name member).symm⟩
      | null | boolean _ | number _ | text _ | list _ => cases same
  | null | boolean _ | number _ | text _ | list _ =>
      cases w <;> cases same
      exact Iff.rfl

end EvaluationBrowser.Setting
