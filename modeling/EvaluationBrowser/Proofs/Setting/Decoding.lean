/-
# Which texts decode, and to what

A text that writes a list decodes exactly if every element has the form of a setting, and it
decodes to the settings that the elements describe, one for each, in order. Texts that write no
list, and lists with an element of another form, are refused. Texts that differ only in the order
of members, or in members that no setting has, decode alike or are refused alike.
-/
import EvaluationBrowser.Proofs.Setting.Record

namespace EvaluationBrowser.Setting

open Json (Value Literal Writes WritesDocument WritesMembers WritesElements WritesText IsHexQuad
  IsWhite Leads writesText_quoteText)

/-! ## Lists of settings -/

theorem mapM_eq_some_iff {f : α → Option β} {xs : List α} {ys : List β} :
    xs.mapM f = some ys ↔ List.Forall₂ (fun x y => f x = some y) xs ys := by
  induction xs generalizing ys with
  | nil =>
      rw [List.mapM_nil, List.forall₂_nil_left_iff]
      exact ⟨fun h => (Option.some.inj h).symm, fun h => congrArg some h.symm⟩
  | cons x xs ih =>
      rw [List.mapM_cons, List.forall₂_cons_left_iff]
      simp only [← ih]
      cases f x <;> cases xs.mapM f <;> simp [eq_comm]

theorem exists_forall₂_iff {related : α → β → Prop} {xs : List α} :
    (∃ ys, List.Forall₂ related xs ys) ↔ ∀ x ∈ xs, ∃ y, related x y := by
  induction xs with
  | nil => simp
  | cons x xs ih =>
      rw [List.forall_mem_cons, ← ih]
      simp only [List.forall₂_cons_left_iff]
      constructor
      · rintro ⟨_, y, ys, h, hs, rfl⟩
        exact ⟨⟨y, h⟩, ys, hs⟩
      · rintro ⟨⟨y, h⟩, ys, hs⟩
        exact ⟨_, y, ys, h, hs, rfl⟩

theorem toOption_eq_some_iff {x : Except ε α} {a : α} : x.toOption = some a ↔ x = .ok a := by
  cases x <;> simp [Except.toOption]

/-- Two lists whose elements, one by one, give the same values for the names of a setting. -/
def SameElements (v w : Value) : Prop :=
  ∃ elements others, v = .list elements ∧ w = .list others ∧
    List.Forall₂ SameValues elements others

section Documents

variable {v : Value} {s : String}

theorem toOption_decodeAll (writes : WritesDocument v s) :
    (decodeAll s).toOption = v.list? (format.record? Draft.give) :=
  (Json.record_means format_means).list.document writes

theorem decodeAll_eq_ok_iff (writes : WritesDocument v s) {settings : List Setting} :
    decodeAll s = .ok settings ↔
      ∃ elements, v = .list elements ∧ List.Forall₂ Describes elements settings := by
  rw [← toOption_eq_some_iff, toOption_decodeAll writes]
  cases v with
  | list elements =>
      rw [Value.list?, mapM_eq_some_iff]
      simp only [record?_iff, Value.list.injEq, exists_eq_left']
  | null | boolean _ | number _ | text _ | object _ =>
      constructor
      · intro h
        cases h
      · rintro ⟨_, eq, -⟩
        cases eq

/-- A text decodes exactly if it writes a list of forms of settings, and it decodes to the settings
that they describe. Neither the order of members nor a member of another name has a part in it. -/
theorem decodeAll_of_writes (writes : WritesDocument v s) :
    ((∃ settings, decodeAll s = .ok settings) ↔
        ∃ elements, v = .list elements ∧ ∀ e ∈ elements, IsForm e) ∧
      (∀ settings, decodeAll s = .ok settings ↔
        ∃ elements, v = .list elements ∧ List.Forall₂ Describes elements settings) ∧
      ∀ w t, WritesDocument w t → SameElements v w →
        (decodeAll t).toOption = (decodeAll s).toOption := by
  refine ⟨?_, fun settings => decodeAll_eq_ok_iff writes, ?_⟩
  · simp only [decodeAll_eq_ok_iff writes, isForm_iff, ← exists_forall₂_iff]
    constructor
    · rintro ⟨settings, elements, eq, h⟩
      exact ⟨elements, eq, settings, h⟩
    · rintro ⟨elements, eq, settings, h⟩
      exact ⟨settings, elements, eq, h⟩
  · rintro w t writesOther ⟨elements, others, rfl, rfl, same⟩
    rw [toOption_decodeAll writes, toOption_decodeAll writesOther]
    rw [Value.list?, Value.list?]
    clear writes writesOther
    induction same with
    | nil => rfl
    | cons first _ ih => rw [List.mapM_cons, List.mapM_cons, record?_congr first, ih]

end Documents

/-- A setting as an object, with a member that is passed over, and one as a list. -/
def sampleElements : List Value :=
  [.object [("note", .list [.text "😀", .object []]), ("id", .ofNat 7),
      ("dataset_name", .text "coco"), ("model_pred_task_type", .text "detection"),
      ("dataset_gt_task_type", .text "detection"), ("max_area", .ofNat 1000)],
    .list [.ofNat 8, .null, .text "voc", .text "a", .text "b"]]

def sampleText : String :=
  "[ \x7b\"note\": [\"\\ud83d\\uDE00\", \x7b\x7d],\n\"\\u0069d\" :7,\"dataset_name\":\"coco\"" ++
    ",\"model_pred_task_type\":\"detection\",\"dataset_gt_task_type\":\"detection\"" ++
    ",\"max_area\":1000\x7d,[8,null,\"voc\",\"a\",\"b\"]]\n"

theorem sampleText_writes : WritesDocument (.list sampleElements) sampleText := by
  have none : IsWhite [] := by decide
  have space : IsWhite [' '] := by decide
  have line : IsWhite ['\n'] := by decide
  have comma : Leads false [','] := .next none none
  have noMore {first} : WritesMembers first [] [] := .none none
  have noOthers {first} : WritesElements first [] [] := .none none
  have number (n : Nat) : Writes (.ofNat n) _ := .number (Literal.ofNat_isWellFormed n)
  have text (s : String) : Writes (.text s) _ := .text (writesText_quoteText s)
  have leading : IsHexQuad (0xd800 + 0x3d) ['d', '8', '3', 'd'] :=
    .digits (k := 13) (l := 8) (m := 3) (n := 13) (by decide) (by decide) (by decide) (by decide)
  have trailing : IsHexQuad (0xdc00 + 0x200) ['D', 'E', '0', '0'] :=
    .digits (k := 13) (l := 14) (m := 0) (n := 0) (by decide) (by decide) (by decide) (by decide)
  have face : WritesText "😀" _ :=
    .quoted (.cons (.pair (by decide) (by decide) (by decide) leading trailing) .nil)
  have unit : IsHexQuad 'i'.toNat ['0', '0', '6', '9'] :=
    .digits (k := 0) (l := 0) (m := 6) (n := 9) (by decide) (by decide) (by decide) (by decide)
  have id : WritesText "id" _ :=
    .quoted (.cons (.unit unit) (.cons (.plain (by decide) (by decide) (by decide)) .nil))
  have object : Writes (sampleElements[0]) _ := .object <|
    .member (.first none) (writesText_quoteText _) none space
      (.list <| .element (.first none) (.text face) <|
        .element (.next none space) (.object noMore) noOthers) <|
    .member (.next none line) id space none (number 7) <|
    .member comma (writesText_quoteText _) none none (text _) <|
    .member comma (writesText_quoteText _) none none (text _) <|
    .member comma (writesText_quoteText _) none none (text _) <|
    .member comma (writesText_quoteText _) none none (number 1000) noMore
  have list : Writes (sampleElements[1]) _ := .list <|
    .element (.first none) (number 8) <| .element comma .null <| .element comma (text _) <|
    .element comma (text _) <| .element comma (text _) noOthers
  have document := WritesDocument.document none
    (.list (.element (.first space) object (.element comma list noOthers))) line
  exact (congrArg (WritesDocument _) (by decide +kernel)).mp document

theorem decodeAll_sampleText :
    decodeAll sampleText = .ok
      [⟨7, none, "coco", "detection", "detection", none,
          some (Json.Number.integer 1000).toBinary64⟩,
        ⟨8, none, "voc", "a", "b", none, none⟩] := by
  have identifier (id : UInt64) : IsIdentifierOf id (.ofNat id.toNat) :=
    ⟨_, rfl, ⟨rfl, rfl, rfl⟩, Literal.coefficient_ofNat _⟩
  have area : IsAreaOf (Json.Number.integer 1000).toBinary64 (.ofNat 1000) :=
    ⟨_, _, rfl, Literal.number_ofNat (by decide), rfl⟩
  refine ((decodeAll_of_writes sampleText_writes).2.1 _).mpr ⟨_, rfl, .cons ?_ (.cons ?_ .nil)⟩
  · exact ⟨⟨_, rfl, identifier 7⟩, .missing, ⟨_, rfl, rfl⟩, ⟨_, rfl, rfl⟩, ⟨_, rfl, rfl⟩, .missing,
      .given area⟩
  · exact ⟨by decide, by decide, ⟨_, rfl, identifier 8⟩, .null, ⟨_, rfl, rfl⟩, ⟨_, rfl, rfl⟩,
      ⟨_, rfl, rfl⟩, .missing, .missing⟩

end EvaluationBrowser.Setting
