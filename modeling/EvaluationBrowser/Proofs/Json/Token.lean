/-
# Numbers read back, and steps of a text

Each reader takes what was written for its piece and leaves the text behind it as it was. A text has
a closing mark that says where it ends, so behind one step of it anything may stand. A number has no
such mark: behind it no character may stand that could go on with it.
-/
import EvaluationBrowser.Json.Token
import EvaluationBrowser.Proofs.Json.Literal

namespace EvaluationBrowser.Json

open Text (AllDigits NoDigitNext noDigitNext_cons takeWhile_digits dropWhile_digits ne_of_isDigit)

/-! ## Spaces -/

def AllSpace (cs : List Char) : Prop := ∀ c ∈ cs, isSpace c = true

theorem allSpace_nil : AllSpace [] := nofun

theorem skipSpace_append {space : List Char} (h : AllSpace space) (text : List Char) :
    skipSpace (space ++ text) = skipSpace text :=
  List.dropWhile_append_of_pos h

theorem skipSpace_cons {c : Char} (h : isSpace c = false) (text : List Char) :
    skipSpace (c :: text) = c :: text :=
  List.dropWhile_cons_of_neg (by rw [h]; exact Bool.false_ne_true)

/-! ## Numbers -/

/-- Nothing comes next that could go on with a number. -/
def EndsNumber (rest : List Char) : Prop :=
  ∀ c ∈ rest.head?, c.isDigit = false ∧ c ≠ '.' ∧ c ≠ 'e' ∧ c ≠ 'E'

theorem endsNumber_nil : EndsNumber [] := nofun

theorem EndsNumber.noDigitNext {rest : List Char} (h : EndsNumber rest) : NoDigitNext rest :=
  fun c hc => (h c hc).1

section ReadLiteral

variable (atEnd : Cause) {rest : List Char}

theorem readWhole_digits {d : Char} {ds : List Char} (zero : d = '0' → ds = [])
    (all : AllDigits (d :: ds)) (next : NoDigitNext rest) :
    readWhole atEnd (d :: ds ++ rest) = .ok (d :: ds, rest) := by
  have digit : d.isDigit = true := all d List.mem_cons_self
  have others : AllDigits ds := all.sublist (List.sublist_cons_self _ _)
  rw [List.cons_append, readWhole.eq_def]
  dsimp only
  by_cases eq : d = '0'
  · rw [if_pos eq, eq, zero eq, List.nil_append]
    cases rest with
    | nil => rfl
    | cons c rest =>
        dsimp only
        rw [next c rfl]
        rfl
  · rw [if_neg eq, if_pos digit, takeWhile_digits others next, dropWhile_digits others next]

theorem readFraction_none (noPoint : '.' ∉ rest.head?) :
    readFraction atEnd rest = .ok (none, rest) := by
  unfold readFraction
  split
  · exact absurd rfl noPoint
  · rfl

theorem readFraction_some {ds : List Char} (some : ds ≠ []) (all : AllDigits ds)
    (next : NoDigitNext rest) :
    readFraction atEnd ('.' :: (ds ++ rest)) = .ok (Option.some ds, rest) := by
  rw [readFraction, takeWhile_digits all next, dropWhile_digits all next,
    if_neg (by rwa [List.isEmpty_iff])]

theorem readExponentSign_digits {ds : List Char} (some : ds ≠ []) (all : AllDigits ds) :
    readExponentSign (ds ++ rest) = (.absent, ds ++ rest) := by
  obtain ⟨d, others, rfl⟩ := List.exists_cons_of_ne_nil some
  have digit : d.isDigit = true := all d List.mem_cons_self
  rw [List.cons_append]
  unfold readExponentSign
  split
  · next h => exact absurd (List.cons.inj h).1 (ne_of_isDigit digit (by decide))
  · next h => exact absurd (List.cons.inj h).1 (ne_of_isDigit digit (by decide))
  · rfl

theorem readExponent_none (ends : EndsNumber rest) :
    readExponent atEnd rest = .ok (none, rest) := by
  cases rest with
  | nil => rfl
  | cons c rest =>
      obtain ⟨_, _, small, capital⟩ := ends c rfl
      rw [readExponent, if_neg (not_or.mpr ⟨small, capital⟩)]

/-- Behind the letter of an exponent stand its sign and its digits. -/
theorem exists_signed {e : Exponent} (some : e.digits ≠ []) (all : AllDigits e.digits)
    (rest : List Char) :
    ∃ signed, e.chars = (if e.capital then 'E' else 'e') :: signed ∧
      readExponentSign (signed ++ rest) = (e.sign, e.digits ++ rest) := by
  obtain ⟨capital, sign, ds⟩ := e
  refine ⟨_, rfl, ?_⟩
  cases sign with
  | absent => exact readExponentSign_digits some all
  | plus => rfl
  | minus => rfl

theorem readExponent_some {e : Exponent} (some : e.digits ≠ []) (all : AllDigits e.digits)
    (next : NoDigitNext rest) :
    readExponent atEnd (e.chars ++ rest) = .ok (Option.some e, rest) := by
  obtain ⟨signed, eq, sign⟩ := exists_signed some all rest
  have letter :
      (if e.capital then 'E' else 'e') = 'e' ∨ (if e.capital then 'E' else 'e') = 'E' := by
    cases e.capital
    · exact .inl rfl
    · exact .inr rfl
  have isCapital : decide ((if e.capital then 'E' else 'e') = 'E') = e.capital := by
    cases e.capital <;> rfl
  rw [eq, List.cons_append, readExponent, if_pos letter, sign]
  dsimp only
  rw [takeWhile_digits all next, dropWhile_digits all next, isCapital,
    if_neg (by rwa [List.isEmpty_iff])]

/-- Neither a digit nor a point follows where an exponent may stand. -/
theorem exponent_next {e : Option Exponent} (ends : EndsNumber rest) :
    NoDigitNext (e.elim [] Exponent.chars ++ rest) ∧
      '.' ∉ (e.elim [] Exponent.chars ++ rest).head? := by
  cases e with
  | none => exact ⟨ends.noDigitNext, fun h => (ends '.' h).2.1 rfl⟩
  | some e =>
      have letter : (if e.capital then 'E' else 'e').isDigit = false ∧
          (if e.capital then 'E' else 'e') ≠ '.' := by
        cases e.capital <;> decide
      exact ⟨noDigitNext_cons letter.1 _, fun h => letter.2 (Option.some.inj h)⟩

theorem readExponent_chars {e : Option Exponent}
    (form : ∀ x, e = some x → x.digits ≠ [] ∧ AllDigits x.digits) (ends : EndsNumber rest) :
    readExponent atEnd (e.elim [] Exponent.chars ++ rest) = .ok (e, rest) := by
  cases e with
  | none => exact readExponent_none atEnd ends
  | some x =>
      obtain ⟨some, all⟩ := form x rfl
      exact readExponent_some atEnd some all ends.noDigitNext

/-- No digit follows where a fraction may stand, and the fraction is read as it was spelt. -/
theorem readFraction_chars {f : Option (List Char)}
    (form : ∀ ds, f = some ds → ds ≠ [] ∧ AllDigits ds) (next : NoDigitNext rest)
    (noPoint : '.' ∉ rest.head?) :
    NoDigitNext (f.elim [] ('.' :: ·) ++ rest) ∧
      readFraction atEnd (f.elim [] ('.' :: ·) ++ rest) = .ok (f, rest) := by
  cases f with
  | none => exact ⟨next, readFraction_none atEnd noPoint⟩
  | some ds =>
      obtain ⟨some, all⟩ := form ds rfl
      exact ⟨noDigitNext_cons (by decide) _, readFraction_some atEnd some all next⟩

/-- The sign is seen, and what stands behind it begins with a digit. -/
theorem signed_spec (negative : Bool) {d : Char} (digit : d.isDigit = true) (text : List Char) :
    ((Binary64.signed negative (d :: text)).head? == some '-') = negative ∧
      (if negative then (Binary64.signed negative (d :: text)).drop 1
        else Binary64.signed negative (d :: text)) = d :: text := by
  cases negative with
  | false =>
      have other : (some d == some '-') = false :=
        beq_eq_false_iff_ne.mpr fun h => ne_of_isDigit digit (by decide) (Option.some.inj h)
      exact ⟨other, rfl⟩
  | true => exact ⟨rfl, rfl⟩

/-- The literal is read as it was spelt. -/
theorem readLiteral_chars {l : Literal} (form : l.IsWellFormed) (ends : EndsNumber rest) :
    readLiteral atEnd (l.chars ++ rest) = .ok (l, rest) := by
  obtain ⟨negative, whole, fraction, exponent⟩ := l
  obtain ⟨⟨d, ds, rfl, zero⟩, all, fractionForm, exponentForm⟩ := form
  have readLast := readExponent_chars atEnd exponentForm ends
  obtain ⟨next, noPoint⟩ := exponent_next (e := exponent) ends
  obtain ⟨wholeNext, readMiddle⟩ := readFraction_chars atEnd fractionForm next noPoint
  have readFirst := readWhole_digits atEnd zero all wholeNext
  have spelt : Literal.chars ⟨negative, d :: ds, fraction, exponent⟩ ++ rest
      = Binary64.signed negative (d :: (ds ++ (fraction.elim [] ('.' :: ·) ++
          (exponent.elim [] Exponent.chars ++ rest)))) := by
    rw [Literal.chars, Binary64.signed, Binary64.signed]
    cases negative <;> simp
  obtain ⟨sign, unsigned⟩ := signed_spec negative (all d List.mem_cons_self)
    (ds ++ (fraction.elim [] ('.' :: ·) ++ (exponent.elim [] Exponent.chars ++ rest)))
  rw [List.cons_append] at readFirst
  rw [spelt, readLiteral]
  dsimp only
  rw [sign, unsigned, readFirst]
  dsimp only [bind, Except.bind]
  rw [readMiddle]
  dsimp only
  rw [readLast]

end ReadLiteral

theorem readNumber_chars {l : Literal} {n : Number} (form : l.IsWellFormed)
    (number : l.number = .ok n) {rest : List Char} (ends : EndsNumber rest) :
    readNumber (l.chars ++ rest) = .ok (n, rest) := by
  rw [readNumber, readLiteral_chars .endInValue form ends]
  dsimp only [bind, Except.bind]
  rw [number]

/-- A literal begins like a number. -/
theorem chars_eq_cons {l : Literal} (form : l.IsWellFormed) :
    ∃ c cs, l.chars = c :: cs ∧ startsNumber c = true := by
  obtain ⟨d, ds, eq, _⟩ := form.whole
  have digit : d.isDigit = true := form.digits d (eq ▸ List.mem_cons_self)
  rw [Literal.chars, Binary64.signed, eq]
  cases l.negative with
  | false => exact ⟨d, _, rfl, by rw [startsNumber, digit, Bool.or_true]⟩
  | true => exact ⟨'-', _, rfl, rfl⟩

/-! ## Texts -/

theorem readEscape_letter {letter c : Char} (h : letterEscape? letter = some c)
    (other : letter ≠ 'u') (rest : List Char) : readEscape (letter :: rest) = .ok (c, rest) := by
  rw [readEscape, if_neg other, h]

theorem readText_escape {text rest : List Char} {c : Char} (h : readEscape text = .ok (c, rest)) :
    readText ('\\' :: text) = (readText rest).map fun r => (c :: r.1, r.2) := by
  rw [readText.eq_def]
  dsimp only
  rw [if_neg (by decide), if_pos rfl]
  split
  · next eq =>
    rw [h] at eq
    cases eq
  · next eq =>
    rw [h] at eq
    cases eq
    rfl

theorem readText_plain {c : Char} (noMark : c ≠ '"') (noEscape : c ≠ '\\')
    (noControl : ¬ c.toNat < 0x20) (rest : List Char) :
    readText (c :: rest) = (readText rest).map fun r => (c :: r.1, r.2) := by
  rw [readText.eq_def]
  dsimp only
  rw [if_neg noMark, if_neg noEscape, if_neg noControl]

end EvaluationBrowser.Json
