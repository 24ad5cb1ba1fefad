/-
# A written value is passed over

Whatever tree a text writes, passing over it ends right behind it: the steps from where a value
must begin to where one has just ended are at most as many as `skipValue` allows. The brackets that
are open all the while play no part, so the claim is made for every stack of them. It is an
induction on how the text is written, values, elements and members together.
-/
import EvaluationBrowser.Json.Skip
import EvaluationBrowser.Proofs.Json.Reader

namespace EvaluationBrowser.Json

/-! ## How a value begins -/

theorem startsNumber_ne {c d : Char} (h : startsNumber c = true) (other : startsNumber d = false) :
    c ≠ d := by
  rintro rfl
  rw [h] at other
  cases other

/-- A value begins with neither space nor what could follow a value. -/
theorem Writes.exists_cons {v : Value} {text : List Char} (h : Writes v text) :
    ∃ c cs, text = c :: cs ∧ isSpace c = false ∧ c ≠ ']' ∧ c ≠ ',' := by
  cases h with
  | null => exact ⟨_, _, rfl, rfl, by decide, by decide⟩
  | truth => exact ⟨_, _, rfl, rfl, by decide, by decide⟩
  | falsity => exact ⟨_, _, rfl, rfl, by decide, by decide⟩
  | number form =>
      obtain ⟨c, cs, eq, start⟩ := chars_eq_cons form
      obtain ⟨noSpace, noBracket, -⟩ := startsNumber_spec start
      exact ⟨c, cs, eq, noSpace, noBracket, startsNumber_ne start (by decide)⟩
  | text writes =>
      obtain ⟨body, rfl, -⟩ := writes.exists_body
      exact ⟨_, _, rfl, rfl, by decide, by decide⟩
  | list _ => exact ⟨_, _, rfl, rfl, by decide, by decide⟩
  | object _ => exact ⟨_, _, rfl, rfl, by decide, by decide⟩

theorem Writes.skipSpace_eq {v : Value} {text space : List Char} (h : Writes v text)
    (blank : AllSpace space) (rest : List Char) :
    skipSpace (space ++ (text ++ rest)) = text ++ rest := by
  obtain ⟨c, cs, rfl, noSpace, -⟩ := h.exists_cons
  rw [skipSpace_append blank, List.cons_append, skipSpace_cons noSpace]

/-! ## What follows an item -/

/-- Behind an item come space, a comma or the closing bracket, so no number goes on. -/
theorem Leads.endsNumber {lead : List Char} (h : Leads false lead) (rest : List Char) :
    EndsNumber (lead ++ rest) := by
  cases h with
  | next white _ =>
      rw [List.append_assoc]
      exact endsNumber_append white.allSpace (endsNumber_cons (by decide) _)

theorem WritesElements.endsNumber {vs : List Value} {others : List Char}
    (h : WritesElements false vs others) (rest : List Char) :
    EndsNumber (others ++ ']' :: rest) := by
  cases h with
  | none white => exact endsNumber_append white.allSpace (endsNumber_cons (by decide) _)
  | element leads _ _ =>
      rw [List.append_assoc]
      exact leads.endsNumber _

theorem WritesMembers.endsNumber {ms : List (String × Value)} {others : List Char}
    (h : WritesMembers false ms others) (rest : List Char) :
    EndsNumber (others ++ '\x7d' :: rest) := by
  cases h with
  | none white => exact endsNumber_append white.allSpace (endsNumber_cons (by decide) _)
  | member leads _ _ _ _ _ =>
      rw [List.append_assoc]
      exact leads.endsNumber _

/-! ## Steps -/

/-- That many steps pass over the text from where a value must begin. -/
def SkipsValue (steps : Nat) (text : List Char) : Prop :=
  ∀ fuel stack space rest, AllSpace space → EndsNumber rest →
    skipFrom (steps + fuel) stack .atValue (space ++ (text ++ rest))
      = skipFrom fuel stack .afterValue rest

def Stand.beforeItem (first : Bool) : Stand := if first then .afterOpening else .afterValue

/-- That many steps pass over the items up to their closing bracket, and over the bracket. -/
def SkipsItems (bracket : Bracket) (first : Bool) (steps : Nat) (inside : List Char) : Prop :=
  ∀ fuel stack rest,
    skipFrom (steps + fuel) (bracket :: stack) (.beforeItem first)
        (inside ++ bracket.closing :: rest) = skipFrom fuel stack .afterValue rest

theorem skipsValue_scalar {text : List Char}
    (opens : ∃ c cs, text = c :: cs ∧ isSpace c = false ∧ c ≠ '[' ∧ c ≠ '\x7b')
    (skips : ∀ rest, EndsNumber rest → skipScalar (text ++ rest) = .ok rest) :
    SkipsValue 1 text := by
  obtain ⟨c, cs, rfl, noSpace, noList, noObject⟩ := opens
  intro fuel stack space rest blank ends
  have scalar := skips rest ends
  rw [Nat.add_comm, skipFrom, skipSpace_append blank, List.cons_append, skipSpace_cons noSpace]
  split
  · next eq => cases eq
  · next eq => exact absurd (List.cons.inj eq).1 noList
  · next eq => exact absurd (List.cons.inj eq).1 noObject
  · rw [List.cons_append] at scalar
    rw [scalar]
    rfl

def Bracket.opening : Bracket → Char
  | .list => '['
  | .object => '\x7b'

theorem skipsValue_bracket (bracket : Bracket) {steps : Nat} {inside : List Char}
    (items : SkipsItems bracket true steps inside) :
    SkipsValue (steps + 1) (bracket.opening :: (inside ++ [bracket.closing])) := by
  intro fuel stack space rest blank _
  have inner := items fuel stack rest
  rw [Nat.add_right_comm, skipFrom, skipSpace_append blank, List.cons_append, List.append_assoc,
    List.singleton_append]
  cases bracket with
  | list =>
      rw [skipSpace_cons rfl]
      exact inner
  | object =>
      rw [skipSpace_cons rfl]
      exact inner

theorem Bracket.closing_spec (bracket : Bracket) :
    isSpace bracket.closing = false ∧ ',' ≠ bracket.closing := by
  cases bracket <;> decide

theorem skipsItems_none (bracket : Bracket) (first : Bool) {space : List Char}
    (white : IsWhite space) : SkipsItems bracket first 1 space := by
  intro fuel stack rest
  rw [Nat.add_comm]
  cases first with
  | true =>
      rw [Stand.beforeItem, if_pos rfl, skipFrom, skipSpace_append white.allSpace,
        skipSpace_cons bracket.closing_spec.1]
      exact if_pos rfl
  | false =>
      rw [Stand.beforeItem, if_neg Bool.false_ne_true, skipFrom, skipSpace_append white.allSpace,
        skipSpace_cons bracket.closing_spec.1]
      exact if_pos rfl

theorem skipScalar_number {l : Literal} (form : l.IsWellFormed) {rest : List Char}
    (ends : EndsNumber rest) : skipScalar (l.chars ++ rest) = .ok rest := by
  obtain ⟨c, cs, eq, start⟩ := chars_eq_cons form
  have ne : ∀ d, startsNumber d = false → c ≠ d := fun d => startsNumber_ne start
  have read := readLiteral_chars .invalidNumber form ends
  rw [eq, List.cons_append] at read ⊢
  rw [skipScalar, if_neg (ne 'n' (by decide)), if_neg (ne 't' (by decide)),
    if_neg (ne 'f' (by decide)), if_neg (ne '"' (by decide)), if_pos start, read]
  rfl

/-- The way to the value of a member goes over its key and the colon. -/
theorem WritesText.skipKey_eq {key : String} {keyText : List Char} (h : WritesText key keyText)
    {space before : List Char} (blank : AllSpace space) (white : IsWhite before)
    (after : List Char) :
    skipKey (space ++ (keyText ++ (before ++ ':' :: after))) = .ok after := by
  obtain ⟨body, rfl, reads⟩ := h.exists_body
  rw [skipKey, skipSpace_append blank, List.cons_append, skipSpace_cons rfl]
  change skipText (body ++ (before ++ ':' :: after)) >>= readColon = _
  rw [(reads _).2]
  change readColon _ = _
  rw [readColon, skipSpace_append white.allSpace, skipSpace_cons rfl]
  rfl

section Items

variable {bracket : Bracket} {first : Bool} {lead text others : List Char} {steps more : Nat}

/-- One step leads from before an item to where its value must begin. -/
theorem skipFrom_lead (leads : Leads first lead) {entry after : List Char}
    (opens : ∃ c cs, entry = c :: cs ∧ isSpace c = false ∧ c ≠ bracket.closing)
    (enters : ∀ space, AllSpace space →
      ∃ before, AllSpace before ∧ skipToValue bracket (space ++ entry) = .ok (before ++ after))
    (fuel : Nat) (stack : List Bracket) :
    ∃ before, AllSpace before ∧
      skipFrom (fuel + 1) (bracket :: stack) (.beforeItem first) (lead ++ entry)
        = skipFrom fuel (bracket :: stack) .atValue (before ++ after) := by
  cases leads with
  | first white =>
      obtain ⟨c, cs, rfl, noSpace, noClosing⟩ := opens
      obtain ⟨before, blank, enter⟩ := enters [] allSpace_nil
      refine ⟨before, blank, ?_⟩
      rw [List.nil_append] at enter
      rw [Stand.beforeItem, if_pos rfl, skipFrom, skipSpace_append white.allSpace,
        skipSpace_cons noSpace]
      dsimp only
      rw [if_neg noClosing, enter]
      rfl
  | next white whiteAfter =>
      obtain ⟨before, blank, enter⟩ := enters _ whiteAfter.allSpace
      refine ⟨before, blank, ?_⟩
      rw [Stand.beforeItem, if_neg Bool.false_ne_true, skipFrom, List.append_assoc,
        skipSpace_append white.allSpace, List.cons_append, skipSpace_cons rfl]
      dsimp only
      rw [if_neg bracket.closing_spec.2, if_pos rfl, enter]
      rfl

/-- `entry` is an item as it stands before the rest of the text, and `text` is its value. -/
theorem skipsItems_item (bracket : Bracket) (entry : List Char → List Char)
    (leads : Leads first lead)
    (opens : ∀ rest, ∃ c cs, entry rest = c :: cs ∧ isSpace c = false ∧ c ≠ bracket.closing)
    (enters : ∀ space rest, AllSpace space → ∃ before, AllSpace before ∧
      skipToValue bracket (space ++ entry rest) = .ok (before ++ (text ++ rest)))
    (ends : ∀ rest, EndsNumber (others ++ bracket.closing :: rest))
    (value : SkipsValue steps text) (items : SkipsItems bracket false more others)
    {inside : List Char} (spelt : ∀ rest, inside ++ rest = lead ++ entry (others ++ rest)) :
    SkipsItems bracket first (steps + more + 1) inside := by
  intro fuel stack rest
  obtain ⟨before, blank, lead⟩ := skipFrom_lead leads (opens (others ++ bracket.closing :: rest))
    (fun space => enters space _) (steps + (more + fuel)) stack
  calc skipFrom (steps + more + 1 + fuel) (bracket :: stack) (.beforeItem first)
        (inside ++ bracket.closing :: rest)
      = skipFrom (steps + (more + fuel)) (bracket :: stack) .atValue
          (before ++ (text ++ (others ++ bracket.closing :: rest))) := by
        rw [spelt, ← lead, show steps + more + 1 + fuel = steps + (more + fuel) + 1 by omega]
    _ = skipFrom (more + fuel) (bracket :: stack) .afterValue (others ++ bracket.closing :: rest) :=
        value _ _ _ _ blank (ends rest)
    _ = skipFrom fuel stack .afterValue rest := items fuel stack rest

theorem skipsItems_element (leads : Leads first lead) {v : Value} (writes : Writes v text)
    (value : SkipsValue steps text) (ends : ∀ rest, EndsNumber (others ++ ']' :: rest))
    (items : SkipsItems .list false more others) :
    SkipsItems .list first (steps + more + 1) (lead ++ (text ++ others)) := by
  obtain ⟨c, cs, eq, noSpace, noClosing, -⟩ := writes.exists_cons
  refine skipsItems_item .list (text ++ ·) leads (fun rest => ?_)
    (fun space rest blank => ⟨space, blank, rfl⟩) ends value items fun rest => ?_
  · exact ⟨c, cs ++ rest, by rw [eq, List.cons_append], noSpace, noClosing⟩
  · simp only [List.append_assoc]

theorem skipsItems_member (leads : Leads first lead) {key : String}
    {keyText before after : List Char} (writesKey : WritesText key keyText)
    (white : IsWhite before) (whiteAfter : IsWhite after) (value : SkipsValue steps text)
    (ends : ∀ rest, EndsNumber (others ++ '\x7d' :: rest))
    (items : SkipsItems .object false more others) :
    SkipsItems .object first (steps + more + 1)
      (lead ++ (keyText ++ (before ++ ':' :: (after ++ (text ++ others))))) := by
  refine skipsItems_item .object
    (fun rest => keyText ++ (before ++ ':' :: (after ++ (text ++ rest)))) leads (fun rest => ?_)
    (fun space rest blank => ?_) ends value items fun rest => ?_
  · obtain ⟨body, rfl, -⟩ := writesKey.exists_body
    exact ⟨'"', _, rfl, rfl, by decide⟩
  · exact ⟨after, whiteAfter.allSpace, writesKey.skipKey_eq blank white _⟩
  · simp only [List.append_assoc, List.cons_append]

end Items

/-! ## The induction -/

mutual

theorem Writes.skips : ∀ {v : Value} {text : List Char}, Writes v text →
    ∃ steps, steps + 1 ≤ 2 * text.length ∧ SkipsValue steps text
  | _, _, .null => by
      refine ⟨1, by decide, skipsValue_scalar ⟨_, _, rfl, rfl, by decide, by decide⟩ ?_⟩
      exact fun rest _ => rfl
  | _, _, .truth => by
      refine ⟨1, by decide, skipsValue_scalar ⟨_, _, rfl, rfl, by decide, by decide⟩ ?_⟩
      exact fun rest _ => rfl
  | _, _, .falsity => by
      refine ⟨1, by decide, skipsValue_scalar ⟨_, _, rfl, rfl, by decide, by decide⟩ ?_⟩
      exact fun rest _ => rfl
  | _, _, .number form => by
      obtain ⟨c, cs, eq, start⟩ := chars_eq_cons form
      refine ⟨1, ?_, skipsValue_scalar ⟨c, cs, eq, (startsNumber_spec start).1,
        startsNumber_ne start (by decide), startsNumber_ne start (by decide)⟩ fun rest ends =>
          skipScalar_number form ends⟩
      rw [eq, List.length_cons]
      omega
  | _, _, .text writes => by
      obtain ⟨body, rfl, reads⟩ := writes.exists_body
      refine ⟨1, ?_, skipsValue_scalar ⟨_, _, rfl, rfl, by decide, by decide⟩ fun rest _ =>
        (reads rest).2⟩
      rw [List.length_cons]
      omega
  | _, _, .list elements => by
      obtain ⟨steps, few, skips⟩ := elements.skips
      refine ⟨steps + 1, ?_, skipsValue_bracket .list skips⟩
      simp only [List.length_cons, List.length_append, List.length_nil]
      omega
  | _, _, .object members => by
      obtain ⟨steps, few, skips⟩ := members.skips
      refine ⟨steps + 1, ?_, skipsValue_bracket .object skips⟩
      simp only [List.length_cons, List.length_append, List.length_nil]
      omega

theorem WritesElements.skips : ∀ {first : Bool} {vs : List Value} {inside : List Char},
    WritesElements first vs inside →
      ∃ steps, steps ≤ 2 * inside.length + 2 ∧ SkipsItems .list first steps inside
  | _, _, _, .none white => ⟨1, by omega, skipsItems_none .list _ white⟩
  | _, _, _, .element leads writes next => by
      obtain ⟨steps, few, value⟩ := writes.skips
      obtain ⟨more, fewMore, items⟩ := next.skips
      refine ⟨steps + more + 1, ?_,
        skipsItems_element leads writes value next.endsNumber items⟩
      simp only [List.length_append]
      omega

theorem WritesMembers.skips : ∀ {first : Bool} {ms : List (String × Value)} {inside : List Char},
    WritesMembers first ms inside →
      ∃ steps, steps ≤ 2 * inside.length + 2 ∧ SkipsItems .object first steps inside
  | _, _, _, .none white => ⟨1, by omega, skipsItems_none .object _ white⟩
  | _, _, _, .member leads writesKey white whiteAfter writes next => by
      obtain ⟨steps, few, value⟩ := writes.skips
      obtain ⟨more, fewMore, items⟩ := next.skips
      refine ⟨steps + more + 1, ?_,
        skipsItems_member leads writesKey white whiteAfter value next.endsNumber items⟩
      simp only [List.length_append, List.length_cons]
      omega

end

/-- A value that is passed over may be any tree, however it is written. -/
theorem Writes.skipValue_eq {v : Value} {text space rest : List Char} (h : Writes v text)
    (blank : AllSpace space) (ends : EndsNumber rest) :
    skipValue (space ++ (text ++ rest)) = .ok rest := by
  obtain ⟨steps, few, skips⟩ := h.skips
  have enough : ∃ fuel, 2 * (space ++ (text ++ rest)).length + 2 = steps + (fuel + 1) := by
    refine ⟨2 * (space ++ (text ++ rest)).length + 1 - steps, ?_⟩
    simp only [List.length_append]
    omega
  obtain ⟨fuel, enough⟩ := enough
  rw [skipValue, enough, skips (fuel + 1) [] space rest blank ends]
  rfl

end EvaluationBrowser.Json
