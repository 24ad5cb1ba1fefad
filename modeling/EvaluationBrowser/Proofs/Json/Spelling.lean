/-
# Texts are read however they are written

Whichever way the characters of a text are written, reading it gives the characters and skipping it
gives the same rest. The two disagree about what they refuse: skipping never asks whether two
surrogates pair up. A written text has no surrogate without the other, so here they go together.
-/
import EvaluationBrowser.Proofs.Json.Grammar
import EvaluationBrowser.Proofs.Json.Token

namespace EvaluationBrowser.Json

theorem IsWhite.allSpace {cs : List Char} (h : IsWhite cs) : AllSpace cs := by
  intro c member
  have cases : c = ' ' ∨ c = '\t' ∨ c = '\n' ∨ c = '\r' := by simpa using h c member
  rcases cases with rfl | rfl | rfl | rfl <;> rfl

/-! ## Escapes -/

theorem IsHexDigit.hexDigit? {n : Nat} {c : Char} (h : IsHexDigit n c) :
    Text.hexDigit? c = some n := by
  have value : ∀ n < 16, Text.hexDigit? (Nat.digitChar n) = some n ∧
      Text.hexDigit? (Nat.digitChar n).toUpper = some n := by decide
  obtain ⟨few, rfl | rfl⟩ := h
  · exact (value n few).1
  · exact (value n few).2

theorem IsHexQuad.readHex {n : Nat} {ds : List Char} (h : IsHexQuad n ds) (rest : List Char) :
    readHex (ds ++ rest) = .ok (n, rest) := by
  cases h with
  | digits first second third fourth =>
      simp [Json.readHex, first.hexDigit?, second.hexDigit?, third.hexDigit?, fourth.hexDigit?]

/-- No character is half of a surrogate pair. -/
theorem toNat_not_surrogate (c : Char) :
    isTrailingSurrogate c.toNat = false ∧ isLeadingSurrogate c.toNat = false := by
  have valid : c.toNat < 0xd800 ∨ 0xdfff < c.toNat ∧ c.toNat < 0x110000 := c.valid
  rw [isTrailingSurrogate, isLeadingSurrogate, ← Bool.decide_and, ← Bool.decide_and]
  exact ⟨decide_eq_false (by omega), decide_eq_false (by omega)⟩

theorem readEscape_unit {c : Char} {text rest : List Char}
    (quad : readHex text = .ok (c.toNat, rest)) : readEscape ('u' :: text) = .ok (c, rest) := by
  obtain ⟨trailing, leading⟩ := toNat_not_surrogate c
  rw [readEscape, if_pos rfl, readCodeUnits, quad]
  dsimp only [bind, Except.bind]
  rw [trailing, leading, if_neg Bool.false_ne_true, if_neg Bool.false_ne_true, Char.ofNat_toNat]

theorem readEscape_pair {c : Char} {high low : Nat} {text more rest : List Char}
    (highFew : high < 0x400) (lowFew : low < 0x400)
    (value : c.toNat = 0x10000 + high * 0x400 + low)
    (leading : readHex text = .ok (0xd800 + high, '\\' :: 'u' :: more))
    (trailing : readHex more = .ok (0xdc00 + low, rest)) :
    readEscape ('u' :: text) = .ok (c, rest) := by
  have notTrailing : isTrailingSurrogate (0xd800 + high) = false := by
    rw [isTrailingSurrogate, decide_eq_false (by omega), Bool.false_and]
  have isLeading : isLeadingSurrogate (0xd800 + high) = true := by
    rw [isLeadingSurrogate, decide_eq_true (by omega), decide_eq_true (by omega), Bool.and_true]
  have isTrailing : isTrailingSurrogate (0xdc00 + low) = true := by
    rw [isTrailingSurrogate, decide_eq_true (by omega), decide_eq_true (by omega), Bool.and_true]
  have together :
      0x10000 + (0xd800 + high - 0xd800) * 0x400 + (0xdc00 + low - 0xdc00) = c.toNat := by
    omega
  rw [readEscape, if_pos rfl, readCodeUnits, leading]
  dsimp only [bind, Except.bind]
  rw [notTrailing, isLeading, if_neg Bool.false_ne_true, if_pos rfl]
  dsimp only [readPairMark]
  rw [if_pos rfl]
  dsimp only
  rw [if_pos rfl]
  dsimp only
  rw [trailing]
  dsimp only
  rw [isTrailing, if_pos rfl, together, Char.ofNat_toNat]

theorem letterEscape?_of_mem {l c : Char} (h : (l, c) ∈ letterEscapes) :
    letterEscape? l = some c ∧ l ≠ 'u' := by
  have table : ∀ e ∈ letterEscapes, letterEscape? e.1 = some e.2 ∧ e.1 ≠ 'u' := by decide
  exact table (l, c) h

theorem skipEscape_letter {letter c : Char} (h : letterEscape? letter = some c)
    (other : letter ≠ 'u') (rest : List Char) : skipEscape (letter :: rest) = .ok rest := by
  rw [skipEscape, if_neg other, h]
  rfl

theorem skipText_escape {text rest : List Char} (h : skipEscape text = .ok rest) :
    skipText ('\\' :: text) = skipText rest := by
  rw [skipText.eq_def]
  dsimp only
  rw [if_neg (by decide), if_pos rfl]
  split
  · next eq =>
    rw [h] at eq
    cases eq
  · next eq =>
    rw [h] at eq
    cases eq
    rfl

theorem skipText_plain {c : Char} (noMark : c ≠ '"') (noEscape : c ≠ '\\')
    (noControl : ¬ c.toNat < 0x20) (rest : List Char) : skipText (c :: rest) = skipText rest := by
  rw [skipText.eq_def]
  dsimp only
  rw [if_neg noMark, if_neg noEscape, if_neg noControl]

theorem skipText_quad {n : Nat} {ds : List Char} (quad : IsHexQuad n ds) (rest : List Char) :
    skipText ('\\' :: 'u' :: (ds ++ rest)) = skipText rest := by
  refine skipText_escape ?_
  rw [skipEscape, if_pos rfl, quad.readHex]
  rfl

/-! ## Characters and texts -/

theorem WritesChar.readText {c : Char} {piece : List Char} (h : WritesChar c piece)
    (rest : List Char) :
    readText (piece ++ rest) = (readText rest).map fun r => (c :: r.1, r.2) := by
  cases h with
  | plain noMark noBackslash noControl =>
      exact readText_plain noMark noBackslash (Nat.not_lt.mpr noControl) rest
  | letter escape =>
      obtain ⟨letter, noUnit⟩ := letterEscape?_of_mem escape
      exact readText_escape (readEscape_letter letter noUnit rest)
  | unit quad => exact readText_escape (readEscape_unit (quad.readHex rest))
  | pair highFew lowFew value leading trailing =>
      rw [List.cons_append, List.cons_append, List.append_assoc]
      exact readText_escape (readEscape_pair highFew lowFew value (leading.readHex _)
        (trailing.readHex rest))

theorem WritesChar.skipText {c : Char} {piece : List Char} (h : WritesChar c piece)
    (rest : List Char) : skipText (piece ++ rest) = skipText rest := by
  cases h with
  | plain noMark noBackslash noControl =>
      exact skipText_plain noMark noBackslash (Nat.not_lt.mpr noControl) rest
  | letter escape =>
      obtain ⟨letter, noUnit⟩ := letterEscape?_of_mem escape
      exact skipText_escape (skipEscape_letter letter noUnit rest)
  | unit quad => exact skipText_quad quad rest
  | pair _ _ _ leading trailing =>
      rw [List.cons_append, List.cons_append, List.append_assoc, skipText_quad leading]
      exact skipText_quad trailing rest

theorem readText_flatten {cs : List Char} {pieces : List (List Char)}
    (h : List.Forall₂ WritesChar cs pieces) (rest : List Char) :
    readText (pieces.flatten ++ '"' :: rest) = .ok (cs, rest) := by
  induction h with
  | nil => simp [readText]
  | cons first _ ih =>
      rw [List.flatten_cons, List.append_assoc, first.readText, ih]
      rfl

theorem skipText_flatten {cs : List Char} {pieces : List (List Char)}
    (h : List.Forall₂ WritesChar cs pieces) (rest : List Char) :
    skipText (pieces.flatten ++ '"' :: rest) = .ok rest := by
  induction h with
  | nil => simp [skipText]
  | cons first _ ih => rw [List.flatten_cons, List.append_assoc, first.skipText, ih]

/-- Behind the opening mark of a written text stands what both readings take. -/
theorem WritesText.exists_body {s : String} {text : List Char} (h : WritesText s text) :
    ∃ body, text = '"' :: body ∧ ∀ rest, readText (body ++ rest) = .ok (s.toList, rest) ∧
      skipText (body ++ rest) = .ok rest := by
  cases h with
  | quoted chars =>
      refine ⟨_, rfl, fun rest => ?_⟩
      rw [List.append_assoc, List.singleton_append]
      exact ⟨readText_flatten chars rest, skipText_flatten chars rest⟩

/-! ## What is written -/

theorem isHexQuad_hexQuad {n : Nat} (few : n < 32) : IsHexQuad n (hexQuad n) := by
  have spelt : ∀ n < 32,
      hexQuad n = ['0', '0', Nat.digitChar (n / 16), Nat.digitChar (n % 16)] := by decide
  have value : ((0 * 16 + 0) * 16 + n / 16) * 16 + n % 16 = n := by omega
  have quad := IsHexQuad.digits (show IsHexDigit 0 '0' by decide) (show IsHexDigit 0 '0' by decide)
    (show IsHexDigit (n / 16) _ from ⟨by omega, .inl rfl⟩)
    (show IsHexDigit (n % 16) _ from ⟨by omega, .inl rfl⟩)
  rw [value] at quad
  rw [spelt n few]
  exact quad

theorem writesChar_escapedChar (c : Char) : WritesChar c (escapedChar c) := by
  have letter : ∀ l d, c = d → (l, d) ∈ letterEscapes → WritesChar c ['\\', l] :=
    fun l d eq member => .letter (eq ▸ member)
  unfold escapedChar
  split
  · next eq => exact letter '"' _ eq (by decide)
  split
  · next eq => exact letter '\\' _ eq (by decide)
  split
  · next eq => exact letter 'b' _ eq (by decide)
  split
  · next eq => exact letter 'f' _ eq (by decide)
  split
  · next eq => exact letter 'n' _ eq (by decide)
  split
  · next eq => exact letter 'r' _ eq (by decide)
  split
  · next eq => exact letter 't' _ eq (by decide)
  split
  · next few => exact .unit (isHexQuad_hexQuad few)
  · next noMark noBackslash _ _ _ _ _ noControl =>
    exact .plain noMark noBackslash (Nat.not_lt.mp noControl)

theorem writesChars_escaped (cs : List Char) :
    List.Forall₂ WritesChar cs (cs.map escapedChar) :=
  List.forall₂_map_right_iff.mpr (List.forall₂_same.mpr fun c _ => writesChar_escapedChar c)

theorem writesText_quoteText (s : String) : WritesText s (quoteText s) :=
  .quoted (writesChars_escaped s.toList)

/-- Characters are read back from what they were written as. -/
theorem readText_flatMap (cs rest : List Char) :
    readText (cs.flatMap escapedChar ++ '"' :: rest) = .ok (cs, rest) :=
  readText_flatten (writesChars_escaped cs) rest

end EvaluationBrowser.Json
