/-
# What readers make of a written value

A reader *means* a function on trees if it answers, wherever a value is written, what the function
answers for the tree, and a fault where the function has no answer. So one statement says both what
is accepted and what is refused, and nothing in it depends on how the value is written. Which fault
it is, and where, is not part of the meaning.

Readers of parts are assumed to mean something, and what the readers of lists and records mean is
made of that.
-/
import EvaluationBrowser.Proofs.Json.Skip

namespace EvaluationBrowser.Json

/-- Wherever a value is written, the reader answers what the tree means. -/
def Reader.Means (read : Reader α) (meaning : Value → Option α) : Prop :=
  ∀ ⦃v : Value⦄ ⦃text : List Char⦄, Writes v text → ∀ space rest, AllSpace space →
    EndsNumber rest → (read (space ++ (text ++ rest))).toOption = (meaning v).map (·, rest)

theorem toOption_bind (x : Except ε α) (f : α → Except ε β) :
    (x >>= f).toOption = x.toOption.bind fun a => (f a).toOption := by
  cases x <;> rfl

theorem toOption_map (x : Except ε α) (f : α → β) : (x.map f).toOption = x.toOption.map f := by
  cases x <;> rfl

theorem toOption_mapError (x : Except ε α) (f : ε → ε') : (x.mapError f).toOption = x.toOption := by
  cases x <;> rfl

variable {read : Reader α} {meaning : Value → Option α}

/-! ## Scalars -/

def Value.text? : Value → Option String
  | .text s => some s
  | _ => none

/-- What is taken of the number, if there is one and it is in range. -/
def Value.number? (take : Number → Except Cause α) : Value → Option α
  | .number l => l.number.toOption.bind fun n => (take n).toOption
  | _ => none

def Value.orNull? (meaning : Value → Option α) : Value → Option (Option α)
  | .null => some none
  | v => (meaning v).map some

theorem text_means : Reader.text.Means Value.text? := by
  intro v text writes space rest blank _
  rw [Reader.text, writes.skipSpace_eq blank]
  cases writes with
  | text writes =>
      obtain ⟨body, rfl, reads⟩ := writes.exists_body
      change ((readText (body ++ rest)).map _).toOption = _
      rw [(reads rest).1, Except.map, String.ofList_toList]
      rfl
  | number form =>
      obtain ⟨c, cs, eq, start⟩ := chars_eq_cons form
      rw [eq, List.cons_append]
      split
      · next eq => cases eq
      · next eq => exact absurd (List.cons.inj eq).1 (startsNumber_ne start (by decide))
      · rfl
  | null | truth | falsity | list _ | object _ => rfl

theorem number_means (wanted : Wanted) (take : Number → Except Cause α) :
    (Reader.number wanted take).Means (Value.number? take) := by
  intro v text writes space rest blank ends
  rw [Reader.number, writes.skipSpace_eq blank]
  cases writes with
  | number form =>
      obtain ⟨c, cs, eq, start⟩ := chars_eq_cons form
      have literal := readLiteral_chars .endInValue form ends
      rw [eq, List.cons_append] at literal ⊢
      dsimp only
      rw [if_pos start, readNumber, literal, Value.number?]
      dsimp only [bind, Except.bind]
      cases Literal.number _ with
      | error _ => rfl
      | ok n =>
          dsimp only
          change _ = (take n).toOption.map (·, rest)
          cases take n <;> rfl
  | text writes =>
      obtain ⟨body, rfl, -⟩ := writes.exists_body
      rfl
  | null | truth | falsity | list _ | object _ => rfl

/-- Only null begins as null does. -/
theorem Writes.not_null {v : Value} {text : List Char} (h : Writes v text) (other : v ≠ .null) :
    'n' ∉ text.head? := by
  cases h with
  | null => exact absurd rfl other
  | number form =>
      obtain ⟨c, cs, eq, start⟩ := chars_eq_cons form
      rw [eq]
      exact fun h => startsNumber_ne start (by decide) (Option.some.inj h)
  | text writes =>
      obtain ⟨body, rfl, -⟩ := writes.exists_body
      exact fun h => absurd (Option.some.inj h) (by decide)
  | truth | falsity | list _ | object _ => exact fun h => absurd (Option.some.inj h) (by decide)

theorem Value.orNull?_of_ne {v : Value} (other : v ≠ .null) :
    v.orNull? meaning = (meaning v).map some := by
  cases v with
  | null => exact absurd rfl other
  | boolean _ | number _ | text _ | list _ | object _ => rfl

theorem Reader.Means.optional (means : read.Means meaning) :
    (Reader.optional read).Means (Value.orNull? meaning) := by
  intro v text writes space rest blank ends
  rw [Reader.optional, writes.skipSpace_eq blank]
  by_cases null : v = .null
  · subst null
    cases writes
    rfl
  · have run := means writes [] rest allSpace_nil ends
    have notNull := writes.not_null null
    obtain ⟨c, cs, rfl, -⟩ := writes.exists_cons
    rw [Value.orNull?_of_ne null]
    split
    · next eq => exact absurd (congrArg some (List.cons.inj eq).1) notNull
    · rw [List.nil_append] at run
      rw [toOption_map, run, Option.map_map, Option.map_map]
      rfl

theorem Reader.Means.into (means : read.Means meaning) (f : α → β) :
    Reader.Means (fun cs => (read cs).map fun r => (f r.1, r.2)) fun v => (meaning v).map f := by
  intro v text writes space rest blank ends
  rw [toOption_map, means writes space rest blank ends, Option.map_map, Option.map_map]
  rfl

/-! ## Lists -/

def Value.list? (meaning : Value → Option α) : Value → Option (List α)
  | .list vs => vs.mapM meaning
  | _ => none

theorem nextElement_append {space : List Char} (blank : AllSpace space) (first : Bool)
    (cs : List Char) : nextElement first (space ++ cs) = nextElement first cs := by
  rw [nextElement, nextElement, skipSpace_append blank]

theorem Leads.nextElement {first : Bool} {lead text : List Char} {v : Value}
    (leads : Leads first lead) (writes : Writes v text) (rest : List Char) :
    nextElement first (lead ++ (text ++ rest)) = .ok (some (text ++ rest)) := by
  obtain ⟨c, cs, eq, noSpace, noBracket, -⟩ := writes.exists_cons
  cases leads with
  | first white => exact nextElement_first white.allSpace ⟨c, cs, eq, noSpace, noBracket⟩ rest
  | next white whiteAfter =>
      rw [List.append_assoc, nextElement_append white.allSpace]
      exact nextElement_next whiteAfter.allSpace ⟨c, cs, eq, noSpace, noBracket⟩ rest

/-- An element takes a character at least. -/
theorem WritesElements.length_le {vs : List Value} {first : Bool} {inside : List Char}
    (h : WritesElements first vs inside) : vs.length ≤ inside.length := by
  induction vs generalizing first inside with
  | nil => exact Nat.zero_le _
  | cons v vs ih =>
      cases h with
      | element _ writes next =>
          obtain ⟨c, cs, rfl, -⟩ := writes.exists_cons
          have := ih next
          simp only [List.length_append, List.length_cons]
          omega

theorem readElements_means (means : read.Means meaning) {vs : List Value} {first : Bool}
    {inside : List Char} (h : WritesElements first vs inside) {fuel : Nat}
    (enough : vs.length < fuel) (rest : List Char) :
    (readElements read fuel first (inside ++ ']' :: rest)).toOption
      = (vs.mapM meaning).map (·, rest) := by
  obtain ⟨fuel, rfl⟩ : ∃ n, fuel = n + 1 := ⟨fuel - 1, by omega⟩
  induction vs generalizing first inside fuel with
  | nil =>
      cases h with
      | none white =>
          rw [readElements_end white.allSpace]
          rfl
  | cons v vs ih =>
      cases h with
      | element leads writes next =>
          rw [List.length_cons] at enough
          obtain ⟨fuel, rfl⟩ : ∃ n, fuel = n + 1 := ⟨fuel - 1, by omega⟩
          have run := means writes [] _ allSpace_nil (next.endsNumber rest)
          have others := ih next fuel (by omega)
          rw [List.nil_append] at run
          rw [List.append_assoc, List.append_assoc, readElements, leads.nextElement writes]
          change (read _ >>= fun r => readElements read (fuel + 1) false r.2 >>= fun s =>
            .ok (r.1 :: s.1, s.2)).toOption = _
          rw [toOption_bind, run, List.mapM_cons]
          cases meaning v with
          | none => rfl
          | some x =>
              change (readElements read (fuel + 1) false _ >>= _).toOption = _
              rw [toOption_bind, others]
              cases vs.mapM meaning <;> rfl

theorem Reader.Means.list (means : read.Means meaning) :
    (Reader.list read).Means (Value.list? meaning) := by
  intro v text writes space rest blank _
  rw [Reader.list, writes.skipSpace_eq blank]
  cases writes with
  | list elements =>
      have enough := elements.length_le
      rw [List.cons_append, List.append_assoc, List.singleton_append]
      refine readElements_means means elements ?_ rest
      rw [List.length_append]
      omega
  | number form =>
      obtain ⟨c, cs, eq, start⟩ := chars_eq_cons form
      rw [eq, List.cons_append]
      split
      · next eq => cases eq
      · next eq => exact absurd (List.cons.inj eq).1 (startsNumber_ne start (by decide))
      · rfl
  | text writes =>
      obtain ⟨body, rfl, -⟩ := writes.exists_body
      rfl
  | null | truth | falsity | object _ => rfl

/-! ## Records

A record is read field by field into a draft, so what a field means is a change of the draft. The
object form gives the fields in the order of its members and passes over the members that the
format has no field for; the list form gives them in the order of the format. -/

section Records

variable {Field Draft Record : Type} {format : RecordFormat Field Draft Record}
  {change : Field → Draft → Value → Option Draft}

/-- The members that are for a field. -/
def RecordFormat.known (format : RecordFormat Field Draft Record)
    (members : List (String × Value)) : List (Field × Value) :=
  members.filterMap fun m => (format.field? m.1).map (·, m.2)

/-- The values given to the draft in turn, each to a field that is not given yet. -/
def RecordFormat.fill (format : RecordFormat Field Draft Record)
    (change : Field → Draft → Value → Option Draft) :
    Draft → List (Field × Value) → Option Draft
  | draft, [] => some draft
  | draft, (field, v) :: given =>
    if format.isGiven draft field then none
    else (change field draft v).bind fun draft => format.fill change draft given

/-- The values given to the fields by their places. -/
def RecordFormat.place (change : Field → Draft → Value → Option Draft) (draft : Draft)
    (given : List (Field × Value)) : Option Draft :=
  given.foldlM (fun draft p => change p.1 draft p.2) draft

theorem RecordFormat.place_cons (field : Field) (v : Value) (draft : Draft)
    (given : List (Field × Value)) :
    RecordFormat.place change draft ((field, v) :: given)
      = (change field draft v).bind fun draft => RecordFormat.place change draft given :=
  List.foldlM_cons

def RecordFormat.record? (format : RecordFormat Field Draft Record)
    (change : Field → Draft → Value → Option Draft) : Value → Option Record
  | .object members =>
    (format.fill change format.empty (format.known members)).bind fun draft =>
      (format.finish draft).toOption
  | .list vs =>
    if vs.length ≤ format.fields.length then
      (RecordFormat.place change format.empty (format.fields.zip vs)).bind fun draft =>
        (format.finish draft).toOption
    else none
  | _ => none

def RecordFormat.Means (format : RecordFormat Field Draft Record)
    (change : Field → Draft → Value → Option Draft) : Prop :=
  ∀ field draft, (format.read field draft).Means (change field draft)

/-! ### The object form -/

theorem nextKey_append {space : List Char} (blank : AllSpace space) (first : Bool)
    (cs : List Char) : nextKey first (space ++ cs) = nextKey first cs := by
  rw [nextKey, nextKey, skipSpace_append blank]

theorem Leads.nextKey {first : Bool} {lead : List Char} (leads : Leads first lead)
    (rest : List Char) : nextKey first (lead ++ '"' :: rest) = .ok (true, rest) := by
  cases leads with
  | first white => exact nextKey_first white.allSpace rest
  | next white whiteAfter =>
      rw [List.append_assoc, nextKey_append white.allSpace]
      exact nextKey_next whiteAfter.allSpace rest

theorem readColon_white {space : List Char} (white : IsWhite space) (rest : List Char) :
    readColon (space ++ ':' :: rest) = .ok rest := by
  rw [readColon, skipSpace_append white.allSpace, skipSpace_cons rfl]
  rfl

theorem WritesMembers.length_le {ms : List (String × Value)} {first : Bool} {inside : List Char}
    (h : WritesMembers first ms inside) : ms.length ≤ inside.length := by
  induction ms generalizing first inside with
  | nil => exact Nat.zero_le _
  | cons m ms ih =>
      cases h with
      | member _ _ _ _ _ next =>
          have := ih next
          simp only [List.length_append, List.length_cons]
          omega

theorem readMembers_means (means : format.Means change) {ms : List (String × Value)}
    {first : Bool} {inside : List Char} (h : WritesMembers first ms inside) {fuel : Nat}
    (enough : ms.length < fuel) (draft : Draft) (rest : List Char) :
    (readMembers format fuel first draft (inside ++ '\x7d' :: rest)).toOption
      = (format.fill change draft (format.known ms)).bind fun draft =>
          (format.finish draft).toOption.map (·, rest) := by
  obtain ⟨fuel, rfl⟩ : ∃ n, fuel = n + 1 := ⟨fuel - 1, by omega⟩
  induction ms generalizing first inside fuel draft with
  | nil =>
      cases h with
      | none white =>
          rw [readMembers, nextKey_end white.allSpace]
          change _ = (format.finish draft).toOption.map _
          dsimp only [bind, Except.bind]
          cases format.finish draft <;> rfl
  | cons m ms ih =>
      cases h with
      | member leads writesKey white whiteAfter writes next =>
          rename_i key v lead keyText before after text others
          rw [List.length_cons] at enough
          obtain ⟨fuel, rfl⟩ : ∃ n, fuel = n + 1 := ⟨fuel - 1, by omega⟩
          obtain ⟨body, rfl, reads⟩ := writesKey.exists_body
          have spelt : lead ++ ('"' :: body ++ (before ++ ':' :: (after ++ (text ++ others))))
                ++ '\x7d' :: rest
              = lead ++ '"' :: (body ++ (before ++ ':' :: (after ++
                  (text ++ (others ++ '\x7d' :: rest))))) := by
            simp only [List.append_assoc, List.cons_append]
          rw [spelt, readMembers, leads.nextKey]
          dsimp only [bind, Except.bind]
          rw [(reads _).1]
          dsimp only
          rw [String.ofList_toList]
          cases found : format.field? key with
          | none =>
              have unknown : format.known ((key, v) :: ms) = format.known ms := by
                rw [RecordFormat.known, List.filterMap_cons_none (by rw [found]; rfl)]
                rfl
              dsimp only
              rw [readColon_white white, unknown]
              dsimp only
              rw [writes.skipValue_eq whiteAfter.allSpace (next.endsNumber rest)]
              exact ih next draft fuel (by omega)
          | some field =>
              have isKnown : format.known ((key, v) :: ms) = (field, v) :: format.known ms := by
                rw [RecordFormat.known, List.filterMap_cons_some (by rw [found]; rfl)]
                rfl
              dsimp only
              rw [isKnown, RecordFormat.fill]
              cases format.isGiven draft field with
              | true => rfl
              | false =>
                  have run := means field draft writes after _ whiteAfter.allSpace
                    (next.endsNumber rest)
                  rw [if_neg Bool.false_ne_true, if_neg Bool.false_ne_true, readColon_white white]
                  change (format.read field draft _ >>= fun r =>
                    readMembers format (fuel + 1) false r.1 r.2).toOption = _
                  rw [toOption_bind, run]
                  cases change field draft v with
                  | none => rfl
                  | some draft => exact ih next draft fuel (by omega)

/-! ### The list form -/

/-- A list is not closed where another element is written. -/
theorem closeList_lead {first : Bool} {lead text : List Char} {v : Value}
    (leads : Leads first lead) (writes : Writes v text) (rest : List Char) :
    (closeList (lead ++ (text ++ rest))).toOption = none := by
  cases leads with
  | first white =>
      rw [closeList, writes.skipSpace_eq white.allSpace]
      obtain ⟨c, cs, rfl, -, noBracket, noComma⟩ := writes.exists_cons
      split
      · next eq => cases eq
      · next eq => exact absurd (List.cons.inj eq).1 noBracket
      · next eq => exact absurd (List.cons.inj eq).1 noComma
      · rfl
  | next white whiteAfter =>
      rw [closeList, List.append_assoc, skipSpace_append white.allSpace, List.cons_append,
        skipSpace_cons rfl]
      split
      · next eq => cases eq
      · next eq => exact absurd (List.cons.inj eq).1 (by decide)
      · split <;> rfl
      · rfl

/-- Values beyond the last field are left, and then the list cannot be closed. -/
theorem readPlaces_means (means : format.Means change) {fields : List Field} {vs : List Value}
    {first : Bool} {inside : List Char} (h : WritesElements first vs inside) (draft : Draft)
    (rest : List Char) :
    (readPlaces format fields first draft (inside ++ ']' :: rest)).toOption.map
        (fun r => (r.1, (closeList r.2).toOption))
      = (RecordFormat.place change draft (fields.zip vs)).map
          (·, if vs.length ≤ fields.length then some rest else none) := by
  induction fields generalizing vs first inside draft with
  | nil =>
      cases h with
      | none white =>
          change some (draft, (closeList _).toOption) = _
          rw [closeList_end white.allSpace]
          rfl
      | element leads writes _ =>
          change some (draft, (closeList _).toOption) = _
          rw [List.append_assoc, List.append_assoc, closeList_lead leads writes]
          rfl
  | cons field fields ih =>
      cases h with
      | none white =>
          rw [readPlaces, nextElement_end white.allSpace]
          change some (draft, (closeList _).toOption) = _
          rw [closeList_end white.allSpace]
          rfl
      | element leads writes next =>
          rename_i v vs lead text others
          have run := means field draft writes [] _ allSpace_nil (next.endsNumber rest)
          rw [List.nil_append] at run
          rw [List.append_assoc, List.append_assoc, readPlaces, leads.nextElement writes]
          change (format.read field draft _ >>= fun r =>
            readPlaces format fields false r.1 r.2).toOption.map _ = _
          rw [toOption_bind, run, List.zip_cons_cons, RecordFormat.place_cons, List.length_cons,
            List.length_cons]
          simp only [Nat.add_le_add_iff_right]
          cases change field draft v with
          | none => rfl
          | some draft => exact ih next draft

theorem readTuple_means [BEq Field] (means : format.Means change) {vs : List Value}
    {inside : List Char} (h : WritesElements true vs inside) (rest : List Char) :
    (readTuple format (inside ++ ']' :: rest)).toOption
      = (format.record? change (.list vs)).map (·, rest) := by
  have places : (readPlaces format format.fields true format.empty _).toOption.map _ = _ :=
    readPlaces_means means h format.empty rest
  rw [readTuple, RecordFormat.record?]
  cases eq : readPlaces format format.fields true format.empty (inside ++ ']' :: rest) with
  | error fault =>
      rw [eq] at places
      have unplaced := Option.map_eq_none_iff.mp places.symm
      rw [unplaced, Option.bind_none, ite_self]
      rfl
  | ok r =>
      obtain ⟨draft, cs⟩ := r
      rw [eq] at places
      obtain ⟨draft, placed, same⟩ := Option.map_eq_some_iff.mp places.symm
      obtain ⟨rfl, closed⟩ := Prod.mk.inj same
      dsimp only [bind, Except.bind]
      rw [placed, Option.bind_some]
      cases format.finish draft with
      | error _ =>
          change none = Option.map _ (if _ then none else none)
          rw [ite_self]
          rfl
      | ok record =>
          change (closeList cs >>= fun rest => .ok (record, rest)).toOption = _
          rw [toOption_bind, ← closed]
          split <;> rfl

theorem record_means [BEq Field] (means : format.Means change) :
    (Reader.record format).Means (format.record? change) := by
  intro v text writes space rest blank _
  rw [Reader.record, writes.skipSpace_eq blank]
  cases writes with
  | list elements =>
      rw [List.cons_append, List.append_assoc, List.singleton_append]
      exact readTuple_means means elements rest
  | object members =>
      have enough := members.length_le
      rw [List.cons_append, List.append_assoc, List.singleton_append]
      rw [RecordFormat.record?, Option.map_bind]
      refine readMembers_means means members ?_ format.empty rest
      rw [List.length_append]
      omega
  | number form =>
      obtain ⟨c, cs, eq, start⟩ := chars_eq_cons form
      rw [eq, List.cons_append]
      split
      · next eq => cases eq
      · next eq => exact absurd (List.cons.inj eq).1 (startsNumber_ne start (by decide))
      · next eq => exact absurd (List.cons.inj eq).1 (startsNumber_ne start (by decide))
      · rfl
  | text writes =>
      obtain ⟨body, rfl, -⟩ := writes.exists_body
      rfl
  | null | truth | falsity => rfl

end Records

/-! ## Documents -/

theorem Reader.Means.document (means : read.Means meaning) {v : Value} {s : String}
    (writes : WritesDocument v s) : (Reader.document read s).toOption = meaning v := by
  cases writes with
  | document white writes whiteAfter =>
      rename_i before text after
      have blank : skipSpace after = [] := by
        have := skipSpace_append whiteAfter.allSpace []
        rwa [List.append_nil] at this
      have ends : EndsNumber after := by
        have := endsNumber_append whiteAfter.allSpace endsNumber_nil
        rwa [List.append_nil] at this
      have run := means writes before after white.allSpace ends
      rw [Reader.document, String.toList_ofList, toOption_mapError, toOption_bind, run]
      cases meaning v with
      | none => rfl
      | some x =>
          rw [Option.map_some, Option.bind_some]
          dsimp only
          rw [blank]
          rfl

end EvaluationBrowser.Json
