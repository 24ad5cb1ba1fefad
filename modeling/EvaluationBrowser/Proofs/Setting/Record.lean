/-
# The setting that a record describes

The reading of a record puts one value after the other into a draft and stops at a field that is
given twice. Its invariant is an equation for each field: what the draft already holds, followed by
what the values to come mean, is what the finished draft holds. A draft holds one value of a field
at most, so the equation says at once that a field comes at most once, that its value means
something, and what.

Both forms of a record come down to values given to fields in turn. They differ in what stops them:
the object form looks out for a field that is given twice, and the list form ends with the last
field.
-/
import EvaluationBrowser.Setting.Format
import EvaluationBrowser.Proofs.Json.Meaning
import EvaluationBrowser.Proofs.Setting.Shape

namespace EvaluationBrowser.Setting

open Json (Value Literal Reader RecordFormat)

/-! ## What the values of fields mean -/

def natural? : Value → Option UInt64
  | .number l =>
    if l.IsUnsigned ∧ l.coefficient < 2 ^ 64 then some (UInt64.ofNat l.coefficient) else none
  | _ => none

def real? : Value → Option Binary64
  | .number l => l.number.toOption.map Json.Number.toBinary64
  | _ => none

/-- What a draft holds for a field that is given. -/
def Field.Content : Field → Type
  | .id => UInt64
  | .modelName => Option String
  | .datasetName | .predictionTask | .groundTruthTask => String
  | .minArea | .maxArea => Option Binary64

def Field.meaning : (field : Field) → Value → Option field.Content
  | .id => natural?
  | .modelName => Value.orNull? Value.text?
  | .datasetName | .predictionTask | .groundTruthTask => Value.text?
  | .minArea | .maxArea => Value.orNull? real?

def Draft.get (d : Draft) : (field : Field) → Option field.Content
  | .id => d.id
  | .modelName => d.modelName
  | .datasetName => d.datasetName
  | .predictionTask => d.predictionTask
  | .groundTruthTask => d.groundTruthTask
  | .minArea => d.minArea
  | .maxArea => d.maxArea

def Draft.set (d : Draft) : (field : Field) → field.Content → Draft
  | .id, x => { d with id := some x }
  | .modelName, x => { d with modelName := some x }
  | .datasetName, x => { d with datasetName := some x }
  | .predictionTask, x => { d with predictionTask := some x }
  | .groundTruthTask, x => { d with groundTruthTask := some x }
  | .minArea, x => { d with minArea := some x }
  | .maxArea, x => { d with maxArea := some x }

theorem Draft.isGiven_eq (d : Draft) (field : Field) : d.isGiven field = (d.get field).isSome := by
  cases field <;> rfl

theorem Draft.get_set_self (d : Draft) (field : Field) (x : field.Content) :
    (d.set field x).get field = some x := by
  cases field <;> rfl

theorem Draft.get_set_of_ne (d : Draft) {field other : Field} (ne : other ≠ field)
    (x : field.Content) : (d.set field x).get other = d.get other := by
  cases field <;> cases other <;> first | rfl | exact absurd rfl ne

theorem forall_field {p : Field → Prop} :
    (∀ field, p field) ↔ p .id ∧ p .modelName ∧ p .datasetName ∧ p .predictionTask ∧
      p .groundTruthTask ∧ p .minArea ∧ p .maxArea := by
  constructor
  · exact fun h => ⟨h _, h _, h _, h _, h _, h _, h _⟩
  · rintro ⟨id, modelName, datasetName, predictionTask, groundTruthTask, minArea, maxArea⟩ field
    cases field <;> assumption

theorem Draft.ext_get {d d' : Draft} (same : ∀ field, d.get field = d'.get field) : d = d' := by
  obtain ⟨id, modelName, datasetName, predictionTask, groundTruthTask, minArea, maxArea⟩ :=
    forall_field.mp same
  cases d
  cases d'
  exact Draft.mk.injEq .. |>.mpr ⟨id, modelName, datasetName, predictionTask, groundTruthTask,
    minArea, maxArea⟩

/-- The draft after a value is given to a field. -/
def Draft.give (field : Field) (d : Draft) (v : Value) : Option Draft :=
  (field.meaning v).map (d.set field)

theorem natural?_eq_some_iff {v : Value} {id : UInt64} :
    natural? v = some id ↔ IsIdentifierOf id v := by
  constructor
  · intro h
    cases v with
    | number l =>
        rw [natural?] at h
        by_cases natural : l.IsUnsigned ∧ l.coefficient < 2 ^ 64
        · rw [if_pos natural] at h
          cases h
          exact ⟨l, rfl, natural.1, (UInt64.toNat_ofNat_of_lt' natural.2).symm⟩
        · rw [if_neg natural] at h
          cases h
    | null | boolean _ | text _ | list _ | object _ => cases h
  · rintro ⟨l, rfl, unsigned, value⟩
    rw [natural?, if_pos ⟨unsigned, value ▸ id.toNat_lt⟩, value, UInt64.ofNat_toNat]

theorem text?_eq_some_iff {v : Value} {s : String} : v.text? = some s ↔ IsTextOf s v := by
  constructor
  · intro h
    cases v with
    | text t =>
        cases h
        rfl
    | null | boolean _ | number _ | list _ | object _ => cases h
  · rintro rfl
    rfl

theorem real?_eq_some_iff {v : Value} {area : Binary64} :
    real? v = some area ↔ IsAreaOf area v := by
  constructor
  · intro h
    cases v with
    | number l =>
        rw [real?] at h
        cases eq : l.number with
        | error _ =>
            rw [eq] at h
            cases h
        | ok n =>
            rw [eq] at h
            cases h
            exact ⟨l, n, rfl, eq, rfl⟩
    | null | boolean _ | text _ | list _ | object _ => cases h
  · rintro ⟨l, n, rfl, number, rfl⟩
    rw [real?, number]
    rfl

/-! ## Readers of fields -/

theorem natural_means : Reader.natural.Means natural? := by
  intro v text writes space rest blank ends
  rw [Reader.natural, Json.number_means _ _ writes space rest blank ends]
  cases v with
  | number l =>
      rw [Value.number?, natural?]
      by_cases natural : l.IsUnsigned ∧ l.coefficient < 2 ^ 64
      · obtain ⟨number, notBelow⟩ :=
          Literal.number_eq_natural_iff.mpr ⟨natural.1, natural.2, rfl⟩
        rw [if_pos natural, number, Except.toOption, Option.bind_some]
        dsimp only
        rw [if_pos notBelow, Int.toNat_natCast]
        rfl
      · rw [if_neg natural]
        cases eq : l.number with
        | error _ => rfl
        | ok n =>
            cases n with
            | real _ => rfl
            | integer k =>
                have below : ¬ 0 ≤ k := fun notBelow => by
                  obtain ⟨unsigned, few, -⟩ := Literal.number_eq_natural_iff.mp ⟨eq, notBelow⟩
                  exact natural ⟨unsigned, few⟩
                rw [Except.toOption, Option.bind_some]
                dsimp only
                rw [if_neg below]
                rfl
  | null | boolean _ | text _ | list _ | object _ => rfl

theorem real_means : Reader.real.Means real? := by
  intro v text writes space rest blank ends
  rw [Reader.real, Json.number_means _ _ writes space rest blank ends]
  cases v with
  | number l =>
      rw [Value.number?, real?]
      cases l.number <;> rfl
  | null | boolean _ | text _ | list _ | object _ => rfl

theorem format_means : format.Means Draft.give := by
  intro field draft
  cases field with
  | id => exact natural_means.into (draft.set .id)
  | modelName => exact Json.text_means.optional.into (draft.set .modelName)
  | datasetName => exact Json.text_means.into (draft.set .datasetName)
  | predictionTask => exact Json.text_means.into (draft.set .predictionTask)
  | groundTruthTask => exact Json.text_means.into (draft.set .groundTruthTask)
  | minArea => exact real_means.optional.into (draft.set .minArea)
  | maxArea => exact real_means.optional.into (draft.set .maxArea)

/-! ## Drafts -/

/-- The values that are given to the field. -/
def valuesFor (field : Field) (given : List (Field × Value)) : List Value :=
  given.filterMap fun p => if p.1 = field then some p.2 else none

theorem valuesFor_cons_self (field : Field) (v : Value) (given : List (Field × Value)) :
    valuesFor field ((field, v) :: given) = v :: valuesFor field given :=
  List.filterMap_cons_some (if_pos rfl)

theorem valuesFor_cons_of_ne {field other : Field} (ne : other ≠ field) (v : Value)
    (given : List (Field × Value)) :
    valuesFor other ((field, v) :: given) = valuesFor other given :=
  List.filterMap_cons_none (if_neg ne.symm)

/-- From the one draft to the other, the field takes those values. -/
def Takes (d d' : Draft) (field : Field) (values : List Value) : Prop :=
  (d.get field).toList.map some ++ values.map field.meaning = (d'.get field).toList.map some

theorem takes_nil_iff {d d' : Draft} {field : Field} :
    Takes d d' field [] ↔ d.get field = d'.get field := by
  rw [Takes, List.map_nil, List.append_nil]
  cases d.get field <;> cases d'.get field <;> simp

/-- A field that takes a value was not given before, and is given now. -/
theorem takes_cons_iff {d d' : Draft} {field : Field} {v : Value} {values : List Value} :
    Takes d d' field (v :: values) ↔ d.get field = none ∧ ∃ x, field.meaning v = some x ∧
      Takes (d.set field x) d' field values := by
  rw [Takes, List.map_cons]
  cases d.get field with
  | some x => cases d'.get field <;> simp
  | none =>
      cases eq : field.meaning v with
      | none => cases d'.get field <;> simp
      | some x =>
          simp only [Takes, Draft.get_set_self]
          simp

theorem takes_set_iff {d d' : Draft} {field other : Field} (ne : other ≠ field)
    (x : field.Content) {values : List Value} :
    Takes (d.set field x) d' other values ↔ Takes d d' other values := by
  rw [Takes, Takes, Draft.get_set_of_ne d ne]

theorem fill_cons_iff {d d' : Draft} {field : Field} {v : Value} {given : List (Field × Value)} :
    format.fill Draft.give d ((field, v) :: given) = some d' ↔
      d.get field = none ∧ ∃ x, field.meaning v = some x ∧
        format.fill Draft.give (d.set field x) given = some d' := by
  change (if d.isGiven field = true then none else
    ((field.meaning v).map (d.set field)).bind _) = some d' ↔ _
  rw [Draft.isGiven_eq]
  cases d.get field with
  | some _ => simp
  | none => cases field.meaning v <;> simp

/-- A draft is filled exactly if every field takes the values that are given to it. -/
theorem fill_iff {d d' : Draft} {given : List (Field × Value)} :
    format.fill Draft.give d given = some d' ↔
      ∀ field, Takes d d' field (valuesFor field given) := by
  induction given generalizing d with
  | nil =>
      change some d = some d' ↔ ∀ field, Takes d d' field []
      simp only [takes_nil_iff]
      exact ⟨fun h _ => Option.some.inj h ▸ rfl, fun same => congrArg some (Draft.ext_get same)⟩
  | cons p given ih =>
      obtain ⟨field, v⟩ := p
      rw [fill_cons_iff]
      constructor
      · rintro ⟨fresh, x, means, filled⟩ other
        by_cases eq : other = field
        · subst eq
          rw [valuesFor_cons_self, takes_cons_iff]
          exact ⟨fresh, x, means, ih.mp filled other⟩
        · rw [valuesFor_cons_of_ne eq]
          exact (takes_set_iff eq x).mp (ih.mp filled other)
      · intro all
        have own := all field
        rw [valuesFor_cons_self, takes_cons_iff] at own
        obtain ⟨fresh, x, means, own⟩ := own
        refine ⟨fresh, x, means, ih.mpr fun other => ?_⟩
        by_cases eq : other = field
        · exact eq ▸ own
        · have others := all other
          rw [valuesFor_cons_of_ne eq] at others
          exact (takes_set_iff eq x).mpr others

/-- In a list no field comes twice, so it does no harm that the reading does not look out for it. -/
theorem place_eq_fill {given : List (Field × Value)} (distinct : (given.map Prod.fst).Nodup)
    {d : Draft} (fresh : ∀ field ∈ given.map Prod.fst, d.get field = none) :
    RecordFormat.place Draft.give d given = format.fill Draft.give d given := by
  induction given generalizing d with
  | nil => rfl
  | cons p given ih =>
      obtain ⟨field, v⟩ := p
      obtain ⟨new, distinct⟩ := List.nodup_cons.mp distinct
      have notGiven : d.isGiven field = false := by
        rw [Draft.isGiven_eq, fresh field List.mem_cons_self]
        rfl
      rw [RecordFormat.place_cons]
      change _ = if d.isGiven field = true then none else (Draft.give field d v).bind _
      rw [notGiven, if_neg Bool.false_ne_true, Draft.give]
      cases field.meaning v with
      | none => rfl
      | some x =>
          refine ih distinct fun other member => ?_
          have ne : other ≠ field := fun eq => new (eq ▸ member)
          rw [Draft.get_set_of_ne d ne]
          exact fresh other (List.mem_cons_of_mem _ member)

theorem finish_iff {d : Draft} {s : Setting} :
    (format.finish d).toOption = some s ↔
      d.id = some s.id ∧ d.modelName.join = s.modelName ∧ d.datasetName = some s.datasetName ∧
        d.predictionTask = some s.predictionTask ∧ d.groundTruthTask = some s.groundTruthTask ∧
        d.minArea.join = s.minArea ∧ d.maxArea.join = s.maxArea := by
  obtain ⟨id, model, dataset, prediction, groundTruth, min, max⟩ := d
  change (Draft.finish _).toOption = some s ↔ _
  cases s
  cases id with
  | none => simp [Draft.finish, Except.toOption]
  | some id =>
  cases dataset with
  | none => simp [Draft.finish, Except.toOption]
  | some dataset =>
  cases prediction with
  | none => simp [Draft.finish, Except.toOption]
  | some prediction =>
  cases groundTruth with
  | none => simp [Draft.finish, Except.toOption]
  | some groundTruth => simp [Draft.finish, Except.toOption]

/-! ## Trees -/

section Values

variable {meaning : Value → Option α} {describes : α → Value → Prop}
  (means : ∀ {v x}, meaning v = some x ↔ describes x v)

include means

theorem once_iff {values : List Value} {x : α} :
    values.map meaning = [some x] ↔ Once (describes x) values := by
  constructor
  · intro h
    obtain ⟨v, rfl, eq⟩ := List.map_eq_singleton_iff.mp h
    exact ⟨v, rfl, means.mp eq⟩
  · rintro ⟨v, rfl, h⟩
    rw [List.map_singleton, means.mpr h]

/-- Null is a value of its own, so it must not mean anything else. -/
theorem isOptional_iff (nothing : meaning .null = none) {values : List Value} {x : Option α} :
    (∃ content : Option (Option α), values.map (Value.orNull? meaning) = content.toList.map some ∧
      content.join = x) ↔ IsOptional describes x values := by
  constructor
  · rintro ⟨content, eq, rfl⟩
    cases content with
    | none =>
        rw [List.map_eq_nil_iff.mp eq]
        exact .missing
    | some content =>
        obtain ⟨v, rfl, value⟩ := List.map_eq_singleton_iff.mp eq
        by_cases null : v = .null
        · subst null
          cases value
          exact .null
        · rw [Value.orNull?_of_ne null, Option.map_eq_some_iff] at value
          obtain ⟨x, value, rfl⟩ := value
          exact .given (means.mp value)
  · intro h
    cases h with
    | missing => exact ⟨none, rfl, rfl⟩
    | null => exact ⟨some none, rfl, rfl⟩
    | @given x v h =>
        have value := means.mpr h
        have notNull : v ≠ .null := by
          rintro rfl
          rw [nothing] at value
          cases value
        refine ⟨some (some x), ?_, rfl⟩
        rw [List.map_singleton, Value.orNull?_of_ne notNull, value]
        rfl

end Values

theorem takes_empty_iff {d : Draft} {field : Field} {values : List Value} :
    Takes Draft.empty d field values ↔
      values.map field.meaning = (d.get field).toList.map some := by
  cases field <;> exact Iff.rfl

/-- The values are those of a setting exactly if a draft takes them that makes the setting. -/
theorem hasValues_iff {s : Setting} {values : String → List Value} :
    (∃ d, (∀ field : Field, Takes Draft.empty d field (values field.name)) ∧
      (format.finish d).toOption = some s) ↔ HasValues s values := by
  simp only [takes_empty_iff, finish_iff]
  constructor
  · rintro ⟨d, takes, id, model, dataset, prediction, groundTruth, min, max⟩
    have required : ∀ field x, d.get field = some x →
        (values field.name).map field.meaning = [some x] := fun field x eq => by
      rw [takes field, eq]
      rfl
    exact ⟨(once_iff natural?_eq_some_iff).mp (required .id _ id),
      (isOptional_iff text?_eq_some_iff rfl).mp ⟨d.modelName, takes .modelName, model⟩,
      (once_iff text?_eq_some_iff).mp (required .datasetName _ dataset),
      (once_iff text?_eq_some_iff).mp (required .predictionTask _ prediction),
      (once_iff text?_eq_some_iff).mp (required .groundTruthTask _ groundTruth),
      (isOptional_iff real?_eq_some_iff rfl).mp ⟨d.minArea, takes .minArea, min⟩,
      (isOptional_iff real?_eq_some_iff rfl).mp ⟨d.maxArea, takes .maxArea, max⟩⟩
  · rintro ⟨id, model, dataset, prediction, groundTruth, min, max⟩
    obtain ⟨model, takesModel, isModel⟩ := (isOptional_iff text?_eq_some_iff rfl).mpr model
    obtain ⟨min, takesMin, isMin⟩ := (isOptional_iff real?_eq_some_iff rfl).mpr min
    obtain ⟨max, takesMax, isMax⟩ := (isOptional_iff real?_eq_some_iff rfl).mpr max
    exact ⟨⟨some s.id, model, some s.datasetName, some s.predictionTask, some s.groundTruthTask,
        min, max⟩,
      forall_field.mpr ⟨(once_iff natural?_eq_some_iff).mpr id, takesModel,
        (once_iff text?_eq_some_iff).mpr dataset, (once_iff text?_eq_some_iff).mpr prediction,
        (once_iff text?_eq_some_iff).mpr groundTruth, takesMin, takesMax⟩,
      rfl, isModel, rfl, rfl, rfl, isMin, isMax⟩

theorem field?_eq_some_iff {name : String} {field : Field} :
    format.field? name = some field ↔ field.name = name := by
  constructor
  · intro h
    have found : Field.all.find? (fun other => other.name == name) = some field := h
    have same := List.find?_some found
    exact beq_iff_eq.mp same
  · rintro rfl
    cases field <;> decide

theorem Field.name_injective {field other : Field} (same : field.name = other.name) :
    field = other :=
  Option.some.inj ((field?_eq_some_iff.mpr same).symm.trans (field?_eq_some_iff.mpr rfl))

theorem valuesFor_known (field : Field) (members : List (String × Value)) :
    valuesFor field (format.known members) = valuesOf members field.name := by
  rw [valuesFor, RecordFormat.known, List.filterMap_filterMap, valuesOf]
  congr 1
  funext m
  by_cases own : m.1 = field.name
  · rw [if_pos own, field?_eq_some_iff.mpr own.symm]
    exact if_pos rfl
  · rw [if_neg own]
    cases found : format.field? m.1 with
    | none => rfl
    | some other =>
        exact if_neg fun eq => own ((field?_eq_some_iff.mp found).symm.trans (congrArg _ eq))

theorem map_fst_zip_sublist (xs : List α) (ys : List β) :
    ((xs.zip ys).map Prod.fst).Sublist xs := by
  rw [List.zip_eq_zip_take_min, List.map_fst_zip (by simp)]
  exact List.take_sublist _ _

theorem wireNames_eq : wireNames = format.fields.map Field.name := by decide

theorem valuesFor_zip (field : Field) (vs : List Value) :
    valuesFor field (format.fields.zip vs) = valuesOf (wireNames.zip vs) field.name := by
  rw [wireNames_eq, List.zip_map_left, valuesOf, List.filterMap_map, valuesFor]
  congr 1
  funext p
  have same : p.1 = field ↔ p.1.name = field.name := ⟨congrArg _, Field.name_injective⟩
  simp only [same]
  rfl

/-- The last required field has the fifth place. -/
theorem five_le_of_hasValues {s : Setting} {vs : List Value}
    (h : HasValues s (valuesOf (wireNames.zip vs))) : 5 ≤ vs.length := by
  obtain ⟨v, eq, -⟩ := h.groundTruthTask
  rcases vs with _ | ⟨_, _ | ⟨_, _ | ⟨_, _ | ⟨_, _ | ⟨_, vs⟩⟩⟩⟩⟩
  -- in a list of at most four values the name has none
  iterate 5 cases eq
  simp only [List.length_cons]
  omega

theorem record?_iff {v : Value} {s : Setting} :
    format.record? Draft.give v = some s ↔ Describes v s := by
  cases v with
  | object members =>
      rw [RecordFormat.record?, Option.bind_eq_some_iff, Describes, ← hasValues_iff]
      simp only [← valuesFor_known]
      exact exists_congr fun d => and_congr_left fun _ => fill_iff
  | list vs =>
      have distinct : ((format.fields.zip vs).map Prod.fst).Nodup :=
        (show format.fields.Nodup by decide).sublist (map_fst_zip_sublist _ vs)
      have fresh : ∀ field ∈ (format.fields.zip vs).map Prod.fst, Draft.empty.get field = none :=
        fun field _ => by cases field <;> rfl
      have filled : (RecordFormat.place Draft.give format.empty (format.fields.zip vs)).bind
          (fun d => (format.finish d).toOption) = some s ↔
            HasValues s (valuesOf (wireNames.zip vs)) := by
        change (RecordFormat.place Draft.give Draft.empty _).bind _ = some s ↔ _
        rw [place_eq_fill distinct fresh, Option.bind_eq_some_iff, ← hasValues_iff]
        simp only [← valuesFor_zip]
        exact exists_congr fun d => and_congr_left fun _ => fill_iff
      rw [RecordFormat.record?, Describes]
      by_cases many : vs.length ≤ 7
      · rw [if_pos (show vs.length ≤ format.fields.length from many), filled]
        exact ⟨fun h => ⟨five_le_of_hasValues h, many, h⟩, fun h => h.2.2⟩
      · rw [if_neg (show ¬ vs.length ≤ format.fields.length from many)]
        exact ⟨fun h => (Option.some_ne_none s h.symm).elim, fun h => absurd h.2.1 many⟩
  | null | boolean _ | number _ | text _ =>
      exact ⟨fun h => (Option.some_ne_none s h.symm).elim, False.elim⟩

theorem record?_congr {v w : Value} (same : SameValues v w) :
    format.record? Draft.give v = format.record? Draft.give w :=
  Option.ext fun s => by
    rw [record?_iff, record?_iff]
    exact describes_congr same s

end EvaluationBrowser.Setting
