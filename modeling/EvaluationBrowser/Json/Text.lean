/-
# Texts between quotation marks

Reading starts after the opening mark and takes the closing one. A character stands for itself or
is written as an escape: a backslash and a letter, or `\u` and four hexadecimal digits. A character
beyond U+FFFF takes two such escapes, a leading and a trailing surrogate. Characters below U+0020
must be escaped.

A text whose value is not wanted is *skipped*: its escapes must be well formed, but whether
surrogates pair up is not asked, and a character that must be escaped is not taken before it is
found wanting.

Writing escapes the quotation mark, the backslash and the characters below U+0020, and nothing else.
-/
import EvaluationBrowser.Json.Fault

namespace EvaluationBrowser.Json

/-! ## Escapes -/

/-- Four bytes that must be hexadecimal digits. They are taken before they are looked at. -/
def readHex (text : List Char) : Except Fault (Nat × List Char) :=
  match (text.take 4).mapM Text.hexDigit? with
  | some [a, b, c, d] => .ok (((a * 16 + b) * 16 + c) * 16 + d, text.drop 4)
  | _ =>
    if bytes text < 4 then .error (.before .endInText [])
    else .error ⟨.invalidEscape, bytes text - 4⟩

def isLeadingSurrogate (n : Nat) : Bool := decide (0xd800 ≤ n) && decide (n < 0xdc00)

def isTrailingSurrogate (n : Nat) : Bool := decide (0xdc00 ≤ n) && decide (n < 0xe000)

/-- One character that the second escape of a pair must begin with. -/
def readPairMark (mark : Char) : List Char → Except Fault (List Char)
  | [] => .error (.before .endInText [])
  | c :: rest => if c = mark then .ok rest else .error (.on .unfinishedPair (c :: rest))

/-- The character of one or two code units, after the first `\u`. -/
def readCodeUnits (text : List Char) : Except Fault (Char × List Char) := do
  let (n, rest) ← readHex text
  if isTrailingSurrogate n then .error (.before .loneSurrogate rest)
  else if isLeadingSurrogate n then
    let rest ← readPairMark '\\' rest
    let rest ← readPairMark 'u' rest
    let (m, rest) ← readHex rest
    if isTrailingSurrogate m then
      .ok (Char.ofNat (0x10000 + (n - 0xd800) * 0x400 + (m - 0xdc00)), rest)
    else .error (.before .loneSurrogate rest)
  else .ok (Char.ofNat n, rest)

/-- The character that a letter stands for after a backslash. -/
def letterEscape? : Char → Option Char
  | '"' => some '"'
  | '\\' => some '\\'
  | '/' => some '/'
  | 'b' => some '\x08'
  | 'f' => some '\x0c'
  | 'n' => some '\n'
  | 'r' => some '\r'
  | 't' => some '\t'
  | _ => none

/-- The character of an escape, after the backslash. -/
def readEscape : List Char → Except Fault (Char × List Char)
  | [] => .error (.before .endInText [])
  | c :: rest =>
    if c = 'u' then readCodeUnits rest
    else
      match letterEscape? c with
      | some d => .ok (d, rest)
      | none => .error (.on .invalidEscape (c :: rest))

def skipEscape : List Char → Except Fault (List Char)
  | [] => .error (.before .endInText [])
  | c :: rest =>
    if c = 'u' then (readHex rest).map Prod.snd
    else if (letterEscape? c).isSome then .ok rest
    else .error (.on .invalidEscape (c :: rest))

/-! ### Escapes take something

The loops over a text end because every step takes at least one character of it. -/

theorem length_of_readHex {text rest : List Char} {n : Nat}
    (h : readHex text = .ok (n, rest)) : rest.length ≤ text.length := by
  unfold readHex at h
  split at h
  · simp only [Except.ok.injEq, Prod.mk.injEq] at h
    simp [← h.2]
  · split at h <;> cases h

theorem length_of_readPairMark {mark : Char} {text rest : List Char}
    (h : readPairMark mark text = .ok rest) : rest.length ≤ text.length := by
  unfold readPairMark at h
  split at h
  · cases h
  · split at h
    · cases h; simp
    · cases h

theorem length_of_readCodeUnits {text rest : List Char} {c : Char}
    (h : readCodeUnits text = .ok (c, rest)) : rest.length ≤ text.length := by
  unfold readCodeUnits at h
  cases h₁ : readHex text with
  | error => simp [h₁, bind, Except.bind] at h
  | ok r =>
    obtain ⟨n, rest₁⟩ := r
    have l₁ := length_of_readHex h₁
    simp only [h₁, bind, Except.bind] at h
    split at h
    · simp at h
    split at h
    · cases h₂ : readPairMark '\\' rest₁ with
      | error => simp [h₂] at h
      | ok rest₂ =>
        have l₂ := length_of_readPairMark h₂
        simp only [h₂] at h
        cases h₃ : readPairMark 'u' rest₂ with
        | error => simp [h₃] at h
        | ok rest₃ =>
          have l₃ := length_of_readPairMark h₃
          simp only [h₃] at h
          cases h₄ : readHex rest₃ with
          | error => simp [h₄] at h
          | ok r =>
            obtain ⟨m, rest₄⟩ := r
            have l₄ := length_of_readHex h₄
            simp only [h₄] at h
            split at h
            · simp only [Except.ok.injEq, Prod.mk.injEq] at h
              rw [← h.2]; omega
            · simp at h
    · simp only [Except.ok.injEq, Prod.mk.injEq] at h
      rw [← h.2]; exact l₁

theorem length_of_readEscape {text rest : List Char} {c : Char}
    (h : readEscape text = .ok (c, rest)) : rest.length < text.length := by
  unfold readEscape at h
  split at h
  · cases h
  · split at h
    · have := length_of_readCodeUnits h
      simp only [List.length_cons]; omega
    · split at h
      · cases h; simp
      · cases h

theorem length_of_skipEscape {text rest : List Char}
    (h : skipEscape text = .ok rest) : rest.length < text.length := by
  unfold skipEscape at h
  split at h
  · cases h
  · rename_i c tail
    split at h
    · cases h₁ : readHex tail with
      | error => simp [h₁, Except.map] at h
      | ok r =>
        obtain ⟨n, rest₁⟩ := r
        have := length_of_readHex h₁
        simp only [h₁, Except.map, Except.ok.injEq] at h
        subst h
        simp only [List.length_cons]; omega
    · split at h
      · cases h; simp
      · cases h

/-! ## Whole texts -/

/-- The characters up to the closing mark, and what is left after it. -/
def readText (text : List Char) : Except Fault (List Char × List Char) :=
  match text with
  | [] => .error (.before .endInText [])
  | c :: rest =>
    if c = '"' then .ok ([], rest)
    else if c = '\\' then
      match _h : readEscape rest with
      | .error fault => .error fault
      | .ok (d, rest') => (readText rest').map fun r => (d :: r.1, r.2)
    else if c.toNat < 0x20 then .error (.on .controlCharacter (c :: rest))
    else (readText rest).map fun r => (c :: r.1, r.2)
termination_by text.length
decreasing_by
  · have := length_of_readEscape _h
    simp only [List.length_cons]; omega
  · simp

/-- What is left after the closing mark. -/
def skipText (text : List Char) : Except Fault (List Char) :=
  match text with
  | [] => .error (.before .endInText [])
  | c :: rest =>
    if c = '"' then .ok rest
    else if c = '\\' then
      match _h : skipEscape rest with
      | .error fault => .error fault
      | .ok rest' => skipText rest'
    else if c.toNat < 0x20 then .error (.before .controlCharacter (c :: rest))
    else skipText rest
termination_by text.length
decreasing_by
  · have := length_of_skipEscape _h
    simp only [List.length_cons]; omega
  · simp

/-! ## Writing -/

def hexQuad (n : Nat) : List Char :=
  let digits := Nat.toDigits 16 n
  List.replicate (4 - digits.length) '0' ++ digits

def escapedChar (c : Char) : List Char :=
  if c = '"' then ['\\', '"']
  else if c = '\\' then ['\\', '\\']
  else if c = '\x08' then ['\\', 'b']
  else if c = '\x0c' then ['\\', 'f']
  else if c = '\n' then ['\\', 'n']
  else if c = '\r' then ['\\', 'r']
  else if c = '\t' then ['\\', 't']
  else if c.toNat < 0x20 then '\\' :: 'u' :: hexQuad c.toNat
  else [c]

def quoteText (s : String) : List Char :=
  '"' :: (s.toList.flatMap escapedChar ++ ['"'])

end EvaluationBrowser.Json
