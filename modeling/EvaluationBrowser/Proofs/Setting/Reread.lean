/-
# Lists of settings written and parsed again

A parsed list holds valid settings only, so what is written for it decodes, and all but the areas
comes back as it was. An area comes back as the number that is read where it was written: of the
same sign, and the same number or one a few ranks away. Hence the rules about single fields still
hold for what comes back; but two areas that are near each other may change places, and then the
list that was written is refused.
-/
import EvaluationBrowser.Proofs.Setting.Format
import EvaluationBrowser.Proofs.Setting.Validity

namespace EvaluationBrowser

/-! ## Areas read again -/

namespace Binary64

theorem IsArea.reread {x : Binary64} (h : x.IsArea) : x.reread.IsArea := by
  obtain ⟨negative, rank, rfl, zero⟩ := isArea_iff.mp h
  obtain ⟨s, reread, rereads⟩ := Json.exists_reread negative rank
  refine isArea_iff.mpr ⟨negative, s, reread, fun sign => ?_⟩
  exact rereads.eq_zero (zero sign)

/-- Two areas change places only if they are near each other. -/
theorem near_of_swapped {min max : Binary64} (hMin : min.IsArea) (hMax : max.IsArea)
    (ordered : max.isLess min = false) (swapped : max.reread.isLess min.reread = true) :
    ∃ negative a negative' b, min = .finite negative a ∧ max = .finite negative' b ∧
      a < b ∧ b.val < a + 10 := by
  obtain ⟨negative, a, rfl, zeroA⟩ := isArea_iff.mp hMin
  obtain ⟨negative', b, rfl, zeroB⟩ := isArea_iff.mp hMax
  obtain ⟨a', eqA, rereadsA⟩ := Json.exists_reread negative a
  obtain ⟨b', eqB, rereadsB⟩ := Json.exists_reread negative' b
  have le : a.val ≤ b.val := by
    refine Nat.le_of_not_lt fun lt => ?_
    rw [(isLess_iff zeroB zeroA).mpr lt] at ordered
    cases ordered
  have lt : b'.val < a'.val := by
    rw [eqA, eqB] at swapped
    exact (isLess_iff (fun sign => rereadsB.eq_zero (zeroB sign))
      (fun sign => rereadsA.eq_zero (zeroA sign))).mp swapped
  refine ⟨negative, a, negative', b, rfl, rfl, Nat.lt_of_le_of_ne le fun same => ?_, ?_⟩
  · -- the same rank is read twice as the same, whatever the signs: if they differ, it is zero
    have zero : a.val ≠ 0 := fun zero => by
      rw [rereadsA.eq_zero zero] at lt
      cases lt
    have signs : negative = negative' := by
      rw [Bool.eq_false_iff.mpr fun sign => zero (zeroA sign),
        Bool.eq_false_iff.mpr fun sign => zero (same.trans (zeroB sign))]
    rw [← signs, ← Fin.ext same, eqA] at eqB
    cases eqB
    exact Nat.lt_irrefl _ lt
  · have closeA := rereadsA.close.2
    have closeB := rereadsB.close.1
    omega

end Binary64

namespace Setting

variable {s : Setting}

theorem IsValid.isArea (valid : s.IsValid) {bound : AreaBound} {area : Binary64}
    (eq : s.area bound = some area) : area.IsArea :=
  areaViolation?_eq_none_iff.mp ((isValid_iff.mp valid).2.1 bound) area eq

theorem IsValid.hasFiniteAreas (valid : s.IsValid) : s.HasFiniteAreas :=
  fun _ _ eq => (valid.isArea eq).finite

theorem area_reread (s : Setting) (bound : AreaBound) :
    s.reread.area bound = (s.area bound).map Binary64.reread := by
  cases bound <;> rfl

/-- What comes back may break the rule about both areas, and no other. -/
theorem IsValid.reread_iff (valid : s.IsValid) :
    s.reread.IsValid ↔ s.reread.rangeViolation? = none := by
  constructor
  · intro again
    exact (isValid_iff.mp again).2.2
  · intro range
    refine isValid_iff.mpr ⟨(isValid_iff.mp valid).1, fun bound => ?_, range⟩
    refine areaViolation?_eq_none_iff.mpr fun area eq => ?_
    rw [area_reread] at eq
    obtain ⟨written, same, rfl⟩ := Option.map_eq_some_iff.mp eq
    exact (valid.isArea same).reread

theorem reread_eq_iff :
    s.reread = s ↔ ∀ bound area, s.area bound = some area → area.reread = area := by
  constructor
  · intro eq bound area given
    have again := area_reread s bound
    rw [eq, given, Option.map_some] at again
    exact (Option.some.inj again).symm
  · intro fixed
    have same : ∀ bound, (s.area bound).map Binary64.reread = s.area bound := by
      intro bound
      cases given : s.area bound with
      | none => rfl
      | some area => rw [Option.map_some, fixed bound area given]
    obtain ⟨id, modelName, datasetName, predictionTask, groundTruthTask, minArea, maxArea⟩ := s
    rw [reread]
    exact congrArg₂ (Setting.mk id modelName datasetName predictionTask groundTruthTask)
      (same .min) (same .max)

/-- Valid settings whose areas change places have areas that are near each other. -/
theorem IsValid.near_of_rangeViolation (valid : s.IsValid)
    (refused : s.reread.rangeViolation? ≠ none) :
    ∃ negative a negative' b, s.minArea = some (.finite negative a) ∧
      s.maxArea = some (.finite negative' b) ∧ a < b ∧ b.val < a + 10 := by
  obtain ⟨min, max, hMin, hMax, less⟩ := rangeViolation?_ne_none refused
  obtain ⟨min, givenMin, rfl⟩ := Option.map_eq_some_iff.mp hMin
  obtain ⟨max, givenMax, rfl⟩ := Option.map_eq_some_iff.mp hMax
  have range := (isValid_iff.mp valid).2.2
  have ordered := rangeViolation?_eq_none_iff.mp range min max givenMin givenMax
  have areaMin := valid.isArea (show s.area .min = some min from givenMin)
  have areaMax := valid.isArea (show s.area .max = some max from givenMax)
  obtain ⟨negative, a, negative', b, rfl, rfl, near⟩ :=
    Binary64.near_of_swapped areaMin areaMax ordered less
  exact ⟨negative, a, negative', b, givenMin, givenMax, near⟩

/-! ## The list that comes back -/

/-- What is accepted of a valid list that was written. -/
theorem parseAll_encodeAll_iff {settings back : List Setting}
    (valid : ∀ s ∈ settings, s.IsValid) :
    parseAll (encodeAll settings) = .ok back ↔
      back = settings.map reread ∧ ∀ s ∈ settings, s.reread.rangeViolation? = none := by
  rw [parseAll_eq_ok_iff, decodeAll_encodeAll fun s member => (valid s member).hasFiniteAreas,
    Except.ok.injEq]
  constructor
  · rintro ⟨rfl, validBack⟩
    refine ⟨rfl, fun s member => ?_⟩
    exact (valid s member).reread_iff.mp (validBack _ (List.mem_map_of_mem member))
  · rintro ⟨rfl, ordered⟩
    refine ⟨rfl, fun back member => ?_⟩
    obtain ⟨s, given, rfl⟩ := List.mem_map.mp member
    exact (valid s given).reread_iff.mpr (ordered s given)

theorem eq_map_reread_iff {settings : List Setting} :
    settings = settings.map reread ↔
      ∀ s ∈ settings, ∀ bound area, s.area bound = some area → area.reread = area := by
  have agree := List.map_inj_left (l := settings) (f := reread) (g := fun s => s)
  rw [List.map_id'] at agree
  rw [eq_comm, agree]
  exact forall₂_congr fun _ _ => reread_eq_iff

/-- What becomes of a list that is written, indented, and parsed again. -/
structure ReadsBack (settings : List Setting) : Prop where
  /-- The text decodes to the settings, but for the areas. -/
  decoded : decodeAll (encodeAll settings) = .ok (settings.map reread)
  /-- It is accepted iff no two areas of a setting have changed places. -/
  accepted : ∀ back, parseAll (encodeAll settings) = .ok back ↔
    back = settings.map reread ∧ ∀ s ∈ settings, s.reread.rangeViolation? = none
  /-- It comes back as it was iff reading changes none of its areas. -/
  same : parseAll (encodeAll settings) = .ok settings ↔
    ∀ s ∈ settings, ∀ bound area, s.area bound = some area → area.reread = area
  /-- An area keeps its sign and is a few ranks away at most, if not the same. -/
  near : ∀ s ∈ settings, ∀ bound area, s.area bound = some area →
    ∃ negative rank back, area = .finite negative rank ∧ area.reread = .finite negative back ∧
      Json.Rereads negative rank back
  /-- Areas that change places are fewer than ten ranks apart. -/
  swapped : ∀ s ∈ settings, s.reread.rangeViolation? ≠ none →
    ∃ negative a negative' b, s.minArea = some (.finite negative a) ∧
      s.maxArea = some (.finite negative' b) ∧ a < b ∧ b.val < a + 10

theorem readsBack_of_parseAll {body : String} {settings : List Setting}
    (parsed : parseAll body = .ok settings) : ReadsBack settings := by
  have valid := (parseAll_eq_ok_iff.mp parsed).2
  refine ⟨decodeAll_encodeAll fun s member => (valid s member).hasFiniteAreas,
    fun back => parseAll_encodeAll_iff valid, ?_, ?_,
    fun s member => (valid s member).near_of_rangeViolation⟩
  · rw [parseAll_encodeAll_iff valid, eq_map_reread_iff]
    refine ⟨fun h => h.1, fun fixed => ⟨fixed, fun s member => ?_⟩⟩
    rw [reread_eq_iff.mpr (fixed s member)]
    exact (isValid_iff.mp (valid s member)).2.2
  · intro s member bound area given
    obtain ⟨negative, rank, rfl, -⟩ := Binary64.isArea_iff.mp ((valid s member).isArea given)
    obtain ⟨back, reread, rereads⟩ := Json.exists_reread negative rank
    exact ⟨negative, rank, back, rfl, reread, rereads⟩

theorem readsBack_of_fraction :
    parseAll "[[7, null, \"coco\", \"box\", \"mask\", 0.5]]"
        = .ok [⟨7, none, "coco", "box", "mask", some (.ofDecimal false 5 (-1)), none⟩] ∧
      ReadsBack [⟨7, none, "coco", "box", "mask", some (.ofDecimal false 5 (-1)), none⟩] := by
  have parsed : parseAll "[[7, null, \"coco\", \"box\", \"mask\", 0.5]]"
      = .ok [⟨7, none, "coco", "box", "mask", some (.ofDecimal false 5 (-1)), none⟩] :=
    eq_ok_of_toOption (by decide +kernel)
  exact ⟨parsed, readsBack_of_parseAll parsed⟩

/-- A setting with two areas that are neighbours, and that change places when they are read. -/
def neighbours : Setting :=
  ⟨7, none, "coco", "box", "mask", some (.ofDecimal false 4951901153817939 76),
    some (.ofDecimal false 49519011538179395 75)⟩

/-- A body may be accepted, and what is written for it refused: digits that are read as the lower
area are written for the upper one. -/
theorem refused_of_neighbours :
    parseAll
        "[[7, null, \"coco\", \"box\", \"mask\", 4.9519011538179395e91, 4.951901153817939e91]]"
          = .ok [neighbours] ∧
      ∀ back, parseAll (encodeAll [neighbours]) ≠ .ok back := by
  refine ⟨eq_ok_of_toOption (by decide +kernel), fun back accepted => ?_⟩
  obtain ⟨decoded, valid⟩ := parseAll_eq_ok_iff.mp accepted
  have finite : ∀ s ∈ [neighbours], s.HasFiniteAreas := by
    intro s member bound area given
    have isFinite : (neighbours.area bound).all Binary64.isFinite = true := by
      cases bound <;> decide +kernel
    rw [List.mem_singleton.mp member] at given
    rwa [given] at isFinite
  rw [decodeAll_encodeAll finite] at decoded
  cases decoded
  have again : ¬ neighbours.reread.IsValid := by decide +kernel
  exact again (valid _ List.mem_cons_self)

end Setting

end EvaluationBrowser
