/-
# Readers take back what was written

A reader *takes* a text for a value if it answers that value and what stands behind the text,
whatever space is before the text and whatever is behind, as long as it does not go on with a
number. Scalars are taken as they were spelt; lists and records are taken item by item, in either
layout, since a layout only puts space between the tokens.
-/
import EvaluationBrowser.Json.Reader
import EvaluationBrowser.Json.Value
import EvaluationBrowser.Proofs.Json.Spelling

namespace EvaluationBrowser.Json

/-- The reader takes the text for the value. -/
structure Reader.Takes (read : Reader α) (text : List Char) (x : α) : Prop where
  opens : ∃ c cs, text = c :: cs ∧ isSpace c = false ∧ c ≠ ']'
  run : ∀ space rest, AllSpace space → EndsNumber rest →
    read (space ++ (text ++ rest)) = .ok (x, rest)

/-! ## Scalars -/

theorem startsNumber_spec {c : Char} (h : startsNumber c = true) :
    isSpace c = false ∧ c ≠ ']' ∧ c ≠ 'n' := by
  have none : ∀ d, startsNumber d = false → c ≠ d := by
    rintro d hd rfl
    rw [h] at hd
    cases hd
  refine ⟨?_, none ']' (by decide), none 'n' (by decide)⟩
  rw [isSpace, beq_false_of_ne (none ' ' (by decide)), beq_false_of_ne (none '\t' (by decide)),
    beq_false_of_ne (none '\n' (by decide)), beq_false_of_ne (none '\r' (by decide))]
  rfl

theorem takes_text (s : String) : Reader.text.Takes (quoteText s) s where
  opens := ⟨'"', _, rfl, rfl, by decide⟩
  run space rest blank _ := by
    have text : quoteText s ++ rest = '"' :: (s.toList.flatMap escapedChar ++ '"' :: rest) := by
      rw [quoteText, List.cons_append, List.append_assoc, List.singleton_append]
    rw [Reader.text, skipSpace_append blank, text, skipSpace_cons rfl]
    change (readText _).map _ = _
    rw [readText_flatMap, Except.map, String.ofList_toList]

theorem takes_number {wanted : Wanted} {take : Number → Except Cause α} {l : Literal} {n : Number}
    {x : α} (form : l.IsWellFormed) (number : l.number = .ok n) (taken : take n = .ok x) :
    (Reader.number wanted take).Takes l.chars x := by
  obtain ⟨c, cs, eq, start⟩ := chars_eq_cons form
  obtain ⟨noSpace, noBracket, _⟩ := startsNumber_spec start
  refine ⟨⟨c, cs, eq, noSpace, noBracket⟩, fun space rest blank ends => ?_⟩
  have read := readNumber_chars form number ends
  rw [eq, List.cons_append] at read
  rw [Reader.number, skipSpace_append blank, eq, List.cons_append, skipSpace_cons noSpace]
  dsimp only
  rw [if_pos start, read]
  dsimp only [bind, Except.bind]
  rw [taken]

theorem takes_null (read : Reader α) :
    (Reader.optional read).Takes ['n', 'u', 'l', 'l'] none where
  opens := ⟨'n', _, rfl, rfl, by decide⟩
  run space rest blank _ := by
    rw [Reader.optional, skipSpace_append blank, List.cons_append, skipSpace_cons rfl]
    rfl

theorem Reader.Takes.optional {read : Reader α} {text : List Char} {x : α}
    (h : read.Takes text x) (notNull : 'n' ∉ text.head?) :
    (Reader.optional read).Takes text (some x) := by
  obtain ⟨c, cs, rfl, noSpace, _⟩ := h.opens
  refine ⟨h.opens, fun space rest blank ends => ?_⟩
  have read := h.run [] rest nofun ends
  rw [Reader.optional, skipSpace_append blank, List.cons_append, skipSpace_cons noSpace]
  split
  · next eq =>
    exact absurd (congrArg some (List.cons.inj eq).1) notNull
  · rw [List.nil_append, List.cons_append] at read
    rw [read]
    rfl

/-! ## What stands between items -/

theorem isSpace_cases {c : Char} (h : isSpace c = true) :
    ((c = ' ' ∨ c = '\t') ∨ c = '\n') ∨ c = '\r' := by
  rw [isSpace] at h
  simpa only [Bool.or_eq_true, beq_iff_eq] using h

theorem endsNumber_cons {c : Char} (h : c.isDigit = false ∧ c ≠ '.' ∧ c ≠ 'e' ∧ c ≠ 'E')
    (rest : List Char) : EndsNumber (c :: rest) := by
  intro d hd
  cases hd
  exact h

theorem endsNumber_append {space : List Char} (blank : AllSpace space) {rest : List Char}
    (ends : EndsNumber rest) : EndsNumber (space ++ rest) := by
  cases space with
  | nil => exact ends
  | cons c space =>
      refine endsNumber_cons ?_ _
      rcases isSpace_cases (blank c List.mem_cons_self) with ((rfl | rfl) | rfl) | rfl <;> decide

/-- The layout puts nothing but space between the tokens. -/
structure Style.IsSpaced (style : Style) : Prop where
  lineBreak : ∀ depth, AllSpace (style.lineBreak depth)
  colon : ∃ space, style.colon = ':' :: space ∧ AllSpace space

theorem Style.compact_isSpaced : Style.compact.IsSpaced where
  lineBreak _ := nofun
  colon := ⟨[], rfl, nofun⟩

theorem Style.indented_isSpaced : Style.indented.IsSpaced where
  lineBreak depth := by
    intro c hc
    rcases List.mem_cons.mp hc with rfl | hc
    · rfl
    · rw [List.eq_of_mem_replicate hc]
      rfl
  colon := by
    refine ⟨[' '], rfl, fun c hc => ?_⟩
    rw [List.mem_singleton.mp hc]
    rfl

/-- Items after the first, each behind a comma. -/
def followers (between : List Char) (items : List (List Char)) : List Char :=
  items.flatMap fun item => ',' :: (between ++ item)

theorem intercalate_cons (between item : List Char) (items : List (List Char)) :
    List.intercalate (',' :: between) (item :: items) = item ++ followers between items := by
  induction items generalizing item with
  | nil => simp [followers]
  | cons next items ih =>
      rw [List.intercalate_cons_cons, ih, followers, followers, List.flatMap_cons]
      simp only [List.cons_append, List.append_assoc]

theorem followers_cons (between item : List Char) (items : List (List Char)) (rest : List Char) :
    followers between (item :: items) ++ rest
      = ',' :: (between ++ (item ++ (followers between items ++ rest))) := by
  rw [followers, followers, List.flatMap_cons]
  simp only [List.cons_append, List.append_assoc]

theorem length_followers (between : List Char) (items : List (List Char)) :
    items.length ≤ (followers between items).length := by
  induction items with
  | nil => exact Nat.zero_le _
  | cons item items ih =>
      rw [followers, List.flatMap_cons, List.length_append, List.length_cons, List.length_cons]
      rw [followers] at ih
      omega

theorem enclose_nil (style : Style) (depth : Nat) (opening closing : Char) :
    style.enclose depth opening closing [] = [opening, closing] := rfl

/-- The first item stands behind the opening bracket, the others behind commas. -/
theorem enclose_cons (style : Style) (depth : Nat) (opening closing : Char) (item : List Char)
    (items : List (List Char)) (rest : List Char) :
    style.enclose depth opening closing (item :: items) ++ rest
      = opening :: (style.lineBreak (depth + 1) ++ (item ++
          (followers (style.lineBreak (depth + 1)) items ++
            (style.lineBreak depth ++ closing :: rest)))) := by
  rw [Style.enclose, if_neg (by rw [List.isEmpty_cons]; exact Bool.false_ne_true),
    intercalate_cons]
  simp only [List.cons_append, List.append_assoc, List.nil_append]

theorem exists_enclose (style : Style) (depth : Nat) (opening closing : Char)
    (items : List (List Char)) :
    ∃ inside, style.enclose depth opening closing items = opening :: inside := by
  rw [Style.enclose]
  split
  · exact ⟨_, rfl⟩
  · exact ⟨_, rfl⟩

/-! ## Lists -/

section Lists

variable {read : Reader α} {between : List Char}

theorem nextElement_first {space text : List Char} (blank : AllSpace space)
    (opens : ∃ c cs, text = c :: cs ∧ isSpace c = false ∧ c ≠ ']') (rest : List Char) :
    nextElement true (space ++ (text ++ rest)) = .ok (some (text ++ rest)) := by
  obtain ⟨c, cs, rfl, noSpace, noBracket⟩ := opens
  rw [nextElement, skipSpace_append blank, List.cons_append, skipSpace_cons noSpace]
  dsimp only
  rw [if_neg noBracket, if_pos rfl]

theorem nextElement_next {space text : List Char} (blank : AllSpace space)
    (opens : ∃ c cs, text = c :: cs ∧ isSpace c = false ∧ c ≠ ']') (rest : List Char) :
    nextElement false (',' :: (space ++ (text ++ rest))) = .ok (some (text ++ rest)) := by
  obtain ⟨c, cs, rfl, noSpace, noBracket⟩ := opens
  rw [nextElement, skipSpace_cons rfl]
  dsimp only
  rw [if_neg (by decide), if_neg Bool.false_ne_true, if_pos rfl, skipSpace_append blank,
    List.cons_append, skipSpace_cons noSpace]
  split
  · next eq => cases eq
  · next eq => exact absurd (List.cons.inj eq).1 noBracket
  · rfl

theorem nextElement_end {space : List Char} (blank : AllSpace space) (first : Bool)
    (rest : List Char) : nextElement first (space ++ ']' :: rest) = .ok none := by
  rw [nextElement, skipSpace_append blank, skipSpace_cons rfl]
  exact if_pos rfl

theorem closeList_end {space : List Char} (blank : AllSpace space) (rest : List Char) :
    closeList (space ++ ']' :: rest) = .ok rest := by
  rw [closeList, skipSpace_append blank, skipSpace_cons rfl]
  rfl

theorem readElements_end {space : List Char} (blank : AllSpace space) (fuel : Nat) (first : Bool)
    (rest : List Char) :
    readElements read (fuel + 1) first (space ++ ']' :: rest) = .ok ([], rest) := by
  rw [readElements, nextElement_end blank]
  dsimp only [bind, Except.bind]
  rw [closeList_end blank]

theorem readElements_step {fuel : Nat} {first : Bool} {cs text rest rest' : List Char} {x : α}
    {xs : List α} (next : nextElement first cs = .ok (some (text ++ rest)))
    (takes : read.Takes text x) (ends : EndsNumber rest)
    (others : readElements read fuel false rest = .ok (xs, rest')) :
    readElements read (fuel + 1) first cs = .ok (x :: xs, rest') := by
  have run := takes.run [] rest nofun ends
  rw [List.nil_append] at run
  rw [readElements, next]
  dsimp only [bind, Except.bind]
  rw [run]
  dsimp only
  rw [others]

variable {text : β → List Char} {value : β → α}

theorem followers_ends (items : List (List Char)) {space : List Char} (blank : AllSpace space)
    {closing : Char} (ends : ∀ rest, EndsNumber (closing :: rest)) (rest : List Char) :
    EndsNumber (followers between items ++ (space ++ closing :: rest)) := by
  cases items with
  | nil => exact endsNumber_append blank (ends rest)
  | cons item items => exact endsNumber_cons (by decide) _

theorem readElements_followers (blank : AllSpace between) {space : List Char}
    (blankEnd : AllSpace space) {ys : List β} (takes : ∀ y ∈ ys, read.Takes (text y) (value y))
    {fuel : Nat} (enough : ys.length < fuel) (rest : List Char) :
    readElements read fuel false
        (followers between (ys.map text) ++ (space ++ ']' :: rest)) = .ok (ys.map value, rest) := by
  obtain ⟨fuel, rfl⟩ : ∃ n, fuel = n + 1 := ⟨fuel - 1, by omega⟩
  induction ys generalizing fuel with
  | nil => exact readElements_end blankEnd fuel false rest
  | cons y ys ih =>
      rw [List.length_cons] at enough
      obtain ⟨fuel, rfl⟩ : ∃ n, fuel = n + 1 := ⟨fuel - 1, by omega⟩
      have first := takes y List.mem_cons_self
      refine readElements_step ?_ first
        (followers_ends (ys.map text) blankEnd (endsNumber_cons (by decide)) rest)
        (ih (fun z hz => takes z (List.mem_cons_of_mem _ hz)) fuel (by omega))
      rw [List.map_cons, followers_cons]
      exact nextElement_next blank first.opens _

theorem takes_list {style : Style} (spaced : style.IsSpaced) (depth : Nat) {ys : List β}
    (takes : ∀ y ∈ ys, read.Takes (text y) (value y)) :
    (Reader.list read).Takes (style.enclose depth '[' ']' (ys.map text)) (ys.map value) := by
  refine ⟨?_, fun space rest blank _ => ?_⟩
  · obtain ⟨inside, eq⟩ := exists_enclose style depth '[' ']' (ys.map text)
    exact ⟨'[', inside, eq, rfl, by decide⟩
  cases ys with
  | nil =>
      rw [Reader.list, skipSpace_append blank, List.map_nil, enclose_nil, List.cons_append,
        skipSpace_cons rfl]
      exact readElements_end (show AllSpace [] from nofun) _ true rest
  | cons y ys =>
      have first := takes y List.mem_cons_self
      have length := length_followers (style.lineBreak (depth + 1)) (ys.map text)
      rw [List.length_map] at length
      rw [Reader.list, skipSpace_append blank, List.map_cons, enclose_cons, skipSpace_cons rfl]
      refine readElements_step (nextElement_first (spaced.lineBreak _) first.opens _) first
        (followers_ends (ys.map text) (spaced.lineBreak _) (endsNumber_cons (by decide)) rest)
        (readElements_followers (spaced.lineBreak _) (spaced.lineBreak _)
          (fun z hz => takes z (List.mem_cons_of_mem _ hz)) ?_ rest)
      simp only [List.length_append, List.length_cons]
      omega

end Lists

/-! ## Records -/

section Records

theorem nextKey_first {space : List Char} (blank : AllSpace space) (rest : List Char) :
    nextKey true (space ++ '"' :: rest) = .ok (true, rest) := by
  rw [nextKey, skipSpace_append blank, skipSpace_cons rfl]
  rfl

theorem nextKey_next {space : List Char} (blank : AllSpace space) (rest : List Char) :
    nextKey false (',' :: (space ++ '"' :: rest)) = .ok (true, rest) := by
  rw [nextKey, skipSpace_cons rfl]
  dsimp only
  rw [if_neg (by decide), if_neg Bool.false_ne_true, if_pos rfl, skipSpace_append blank,
    skipSpace_cons rfl]
  rfl

theorem nextKey_end {space : List Char} (blank : AllSpace space) (first : Bool)
    (rest : List Char) : nextKey first (space ++ '\x7d' :: rest) = .ok (false, rest) := by
  rw [nextKey, skipSpace_append blank, skipSpace_cons rfl]
  exact if_pos rfl

variable {Field Draft Record : Type} {format : RecordFormat Field Draft Record}
  {text : Field → List Char} {put : Field → Draft → Draft}

/-- The fields are found by their names, and each is taken from its text into the draft. -/
structure RecordFormat.TakesFields (format : RecordFormat Field Draft Record)
    (text : Field → List Char) (put : Field → Draft → Draft) : Prop where
  found : ∀ field, format.field? (format.name field) = some field
  others : ∀ draft field other, other ≠ field →
    format.isGiven (put field draft) other = format.isGiven draft other
  takes : ∀ field draft, (format.read field draft).Takes (text field) (put field draft)

/-- The fields that are not given yet stay so, but for the one that is put into the draft. -/
theorem RecordFormat.TakesFields.fresh (takes : format.TakesFields text put) {field : Field}
    {fields : List Field} (new : field ∉ fields) {draft : Draft}
    (fresh : ∀ other ∈ field :: fields, format.isGiven draft other = false) :
    ∀ other ∈ fields, format.isGiven (put field draft) other = false := by
  intro other member
  have ne : other ≠ field := fun eq => new (eq ▸ member)
  rw [takes.others _ _ _ ne]
  exact fresh other (List.mem_cons_of_mem _ member)

/-- A member behind the opening mark of its key. -/
def memberTail (name : String) (space text : List Char) : List Char :=
  name.toList.flatMap escapedChar ++ '"' :: ':' :: (space ++ text)

theorem readMembers_end (fuel : Nat) (first : Bool) {space : List Char} (blank : AllSpace space)
    {draft : Draft} {record : Record} (done : format.finish draft = .ok record)
    (rest : List Char) :
    readMembers format (fuel + 1) first draft (space ++ '\x7d' :: rest) = .ok (record, rest) := by
  rw [readMembers, nextKey_end blank]
  dsimp only [bind, Except.bind]
  rw [done]

theorem readMembers_step (takes : format.TakesFields text put) {fuel : Nat} {first : Bool}
    {draft : Draft} {field : Field} {cs space rest : List Char} (blank : AllSpace space)
    (fresh : format.isGiven draft field = false) (ends : EndsNumber rest)
    (next : nextKey first cs
      = .ok (true, memberTail (format.name field) space (text field ++ rest))) :
    readMembers format (fuel + 1) first draft cs
      = readMembers format fuel false (put field draft) rest := by
  have colon : readColon (':' :: (space ++ (text field ++ rest)))
      = .ok (space ++ (text field ++ rest)) := by
    rw [readColon, skipSpace_cons rfl]
    rfl
  rw [readMembers, next]
  dsimp only [bind, Except.bind]
  rw [memberTail, readText_flatMap]
  dsimp only
  rw [String.ofList_toList, takes.found]
  dsimp only
  rw [fresh, if_neg Bool.false_ne_true, colon]
  dsimp only
  rw [(takes.takes field draft).run space rest blank ends]

/-- A member as it is written. -/
def memberText (style : Style) (name : String) (text : List Char) : List Char :=
  quoteText name ++ (style.colon ++ text)

theorem memberText_append {style : Style} {space : List Char} (colon : style.colon = ':' :: space)
    (name : String) (text rest : List Char) :
    memberText style name text ++ rest = '"' :: memberTail name space (text ++ rest) := by
  rw [memberText, memberTail, quoteText, colon]
  simp only [List.cons_append, List.append_assoc, List.nil_append]

variable {style : Style}

theorem readMembers_followers (takes : format.TakesFields text put) (spaced : style.IsSpaced)
    {between space : List Char} (blank : AllSpace between) (blankEnd : AllSpace space)
    {fields : List Field} (distinct : fields.Nodup) {draft : Draft}
    (fresh : ∀ field ∈ fields, format.isGiven draft field = false) {record : Record}
    (done : format.finish (fields.foldl (fun draft field => put field draft) draft) = .ok record)
    {fuel : Nat} (enough : fields.length < fuel) (rest : List Char) :
    readMembers format fuel false draft
        (followers between
            (fields.map fun field => memberText style (format.name field) (text field))
          ++ (space ++ '\x7d' :: rest)) = .ok (record, rest) := by
  obtain ⟨fuel, rfl⟩ : ∃ n, fuel = n + 1 := ⟨fuel - 1, by omega⟩
  induction fields generalizing fuel draft with
  | nil => exact readMembers_end fuel false blankEnd done rest
  | cons field fields ih =>
      rw [List.length_cons] at enough
      obtain ⟨fuel, rfl⟩ : ∃ n, fuel = n + 1 := ⟨fuel - 1, by omega⟩
      obtain ⟨colonSpace, colon, blankColon⟩ := spaced.colon
      obtain ⟨new, distinct⟩ := List.nodup_cons.mp distinct
      rw [List.map_cons, followers_cons, memberText_append colon]
      rw [readMembers_step takes blankColon (fresh field List.mem_cons_self)
        (followers_ends _ blankEnd (endsNumber_cons (c := '\x7d') (by decide)) rest)
        (nextKey_next blank _)]
      exact ih distinct (takes.fresh new fresh) done fuel (by omega)

/-- A record is taken from an object that gives every field once. -/
theorem takes_record [BEq Field] (takes : format.TakesFields text put) (spaced : style.IsSpaced)
    (depth : Nat) {fields : List Field} (distinct : fields.Nodup)
    (fresh : ∀ field ∈ fields, format.isGiven format.empty field = false) {record : Record}
    (done : format.finish (fields.foldl (fun draft field => put field draft) format.empty)
      = .ok record) :
    (Reader.record format).Takes
      (style.enclose depth '\x7b' '\x7d'
        (fields.map fun field => memberText style (format.name field) (text field))) record := by
  refine ⟨?_, fun space rest blank _ => ?_⟩
  · obtain ⟨inside, eq⟩ := exists_enclose style depth '\x7b' '\x7d'
      (fields.map fun field => memberText style (format.name field) (text field))
    exact ⟨'\x7b', inside, eq, rfl, by decide⟩
  cases fields with
  | nil =>
      rw [Reader.record, skipSpace_append blank, List.map_nil, enclose_nil, List.cons_append,
        skipSpace_cons rfl]
      exact readMembers_end _ true (show AllSpace [] from nofun) done rest
  | cons field fields =>
      obtain ⟨colonSpace, colon, blankColon⟩ := spaced.colon
      obtain ⟨new, distinct⟩ := List.nodup_cons.mp distinct
      have length := length_followers (style.lineBreak (depth + 1))
        (fields.map fun field => memberText style (format.name field) (text field))
      rw [List.length_map] at length
      rw [Reader.record, skipSpace_append blank, List.map_cons, enclose_cons, skipSpace_cons rfl,
        memberText_append colon]
      change readMembers format _ true format.empty _ = _
      rw [readMembers_step takes blankColon (fresh field List.mem_cons_self)
        (followers_ends _ (spaced.lineBreak _) (endsNumber_cons (c := '\x7d') (by decide)) rest)
        (nextKey_first (spaced.lineBreak _) _)]
      refine readMembers_followers takes spaced (spaced.lineBreak _) (spaced.lineBreak _) distinct
        (takes.fresh new fresh) done ?_ rest
      simp only [List.length_append, List.length_cons, memberTail]
      omega

end Records

/-! ## Documents -/

theorem Reader.Takes.document_spaced {read : Reader α} {text : List Char} {x : α}
    (h : read.Takes text x) {before after : List Char} (blankBefore : AllSpace before)
    (blankAfter : AllSpace after) :
    Reader.document read (String.ofList (before ++ (text ++ after))) = .ok x := by
  have ends : EndsNumber after := by
    have whole := endsNumber_append blankAfter endsNumber_nil
    rwa [List.append_nil] at whole
  have noRest : skipSpace after = [] := by
    have whole := skipSpace_append blankAfter []
    rwa [List.append_nil] at whole
  rw [Reader.document, String.toList_ofList, h.run before after blankBefore ends]
  dsimp only [bind, Except.bind]
  rw [noRest]
  rfl

theorem Reader.Takes.document {read : Reader α} {text : List Char} {x : α}
    (h : read.Takes text x) : Reader.document read (String.ofList text) = .ok x := by
  have alone := h.document_spaced allSpace_nil allSpace_nil
  rwa [List.nil_append, List.append_nil] at alone

end EvaluationBrowser.Json
