/-
# When an accepted address names a host

An address is accepted for the scheme it begins with, and only later do the slashes go that it ends
in. They stop at the first other character from the end, so all turns on what follows the scheme.
If it is nothing but slashes they go, and the two of the scheme with them: of `http://` is left
`http:`, which is no address of the web any more, nor is `http:/health`. Otherwise the scheme stays
whole, and what follows it in the address given is what follows it in every address built on that.

So what is accepted does *not* always name a host: it does iff the text given does, between the
blanks around it.
-/
import EvaluationBrowser.Backend.Client
import EvaluationBrowser.Proofs.Checks
import EvaluationBrowser.Proofs.Text.Ends

namespace EvaluationBrowser.Backend

open Text (dropTrailing)

def schemes : List (List Char) := [httpScheme, httpsScheme]

/-- One of the schemes and behind it something other than a slash: a host begins there. -/
def NamesHost (url : String) : Prop :=
  ∃ scheme ∈ schemes, ∃ c, c ≠ '/' ∧ scheme ++ [c] <+: url.toList

/-! ## The parts of an accepted address -/

/-- An address is accepted iff it begins with a scheme once it is trimmed. -/
theorem ofString_eq_ok_iff {given : String} {b : Backend} :
    ofString given = .ok b ↔
      (∃ scheme ∈ schemes, scheme <+: (Text.trim given).toList) ∧ b = ⟨Text.trim given⟩ := by
  have isAddress : (httpScheme.isPrefixOf (Text.trimChars given.toList)
        || httpsScheme.isPrefixOf (Text.trimChars given.toList)) = true ↔
      ∃ scheme ∈ schemes, scheme <+: Text.trimChars given.toList := by
    simp [schemes]
  rw [Text.trim, String.toList_ofList, ← isAddress]
  simp only [ofString]
  split
  · next empty =>
    -- Nothing begins with a scheme if it is empty.
    rw [List.isEmpty_iff.mp empty]
    refine iff_of_false ?_ fun h => absurd h.1 (by decide)
    rintro ⟨⟩
  · exact ite_eq_ok_iff

theorem ofString_eq_ok {given : String} {b : Backend} (accepted : ofString given = .ok b) :
    b.stored = Text.trim given ∧
      ∃ scheme ∈ schemes, ∃ rest, (Text.trim given).toList = scheme ++ rest := by
  obtain ⟨⟨scheme, isScheme, rest, split⟩, rfl⟩ := ofString_eq_ok_iff.mp accepted
  exact ⟨rfl, scheme, isScheme, rest, split.symm⟩

/-- The scheme without its slashes. -/
def bare (scheme : List Char) : List Char := dropTrailing (· == '/') scheme

/-- Dropping slashes reaches the scheme iff there is nothing else behind it. -/
theorem dropTrailing_scheme (scheme rest : List Char) :
    dropTrailing (· == '/') (scheme ++ rest)
      = if rest.all (· == '/') then bare scheme else scheme ++ dropTrailing (· == '/') rest :=
  Text.dropTrailing_append _ _ _

/-- The first of some characters stays, unless all are slashes. -/
theorem dropTrailing_cons {c : Char} {cs : List Char} (some : (c :: cs).all (· == '/') = false) :
    ∃ kept, dropTrailing (· == '/') (c :: cs) = c :: kept := by
  have split := Text.dropTrailing_append (· == '/') [c] cs
  rw [List.singleton_append] at split
  rw [split]
  cases gone : cs.all (· == '/') with
  | true =>
      have other : (c == '/') = false := by
        cases same : c == '/' with
        | false => rfl
        | true =>
            rw [List.all_cons, same, gone] at some
            cases some
      rw [if_pos rfl]
      exact ⟨[], Text.dropTrailing_append_of_not [] other⟩
  | false => exact ⟨dropTrailing (· == '/') cs, rfl⟩

theorem exists_other_iff {cs : List Char} :
    (∃ c ∈ cs, c ≠ '/') ↔ cs.all (· == '/') = false := by
  simp only [List.all_eq_false, beq_iff_eq, ne_eq]

/-! ## What follows a scheme -/

/-- Neither scheme can be taken for the other one. -/
theorem scheme_eq_of_prefix {scheme scheme' tail : List Char} (isScheme : scheme ∈ schemes)
    (isScheme' : scheme' ∈ schemes) (pre : scheme' <+: scheme ++ tail) : scheme' = scheme := by
  simp only [schemes, List.mem_cons, List.not_mem_nil, or_false] at isScheme isScheme'
  rcases isScheme with rfl | rfl <;> rcases isScheme' with rfl | rfl
  · rfl
  · simp [httpScheme, httpsScheme] at pre
  · simp [httpScheme, httpsScheme] at pre
  · rfl

theorem namesHost_iff {url : String} {scheme tail : List Char} (isScheme : scheme ∈ schemes)
    (split : url.toList = scheme ++ tail) : NamesHost url ↔ ∃ c, c ≠ '/' ∧ tail.head? = some c := by
  constructor
  · rintro ⟨scheme', isScheme', c, other, rest, eq⟩
    rw [split, List.append_assoc] at eq
    cases scheme_eq_of_prefix isScheme isScheme' ⟨_, eq⟩
    rw [← List.append_cancel_left eq]
    exact ⟨c, other, rfl⟩
  · rintro ⟨c, other, first⟩
    obtain ⟨rest, rfl⟩ := List.head?_eq_some_iff.mp first
    refine ⟨scheme, isScheme, c, other, rest, ?_⟩
    rw [split, List.append_assoc, List.singleton_append]

/-- A path that is put behind an address: nothing, or a slash and then something else. -/
def IsPath (path : List Char) : Prop := path = [] ∨ ∃ c rest, path = '/' :: c :: rest ∧ c ≠ '/'

/-- A scheme without its slashes does not get them back from a path. -/
theorem not_prefix_bare {scheme scheme' path : List Char} (isScheme : scheme ∈ schemes)
    (isScheme' : scheme' ∈ schemes) (isPath : IsPath path) : ¬ scheme' <+: bare scheme ++ path := by
  intro whole
  have http : bare httpScheme = ['h', 't', 't', 'p', ':'] := rfl
  have https : bare httpsScheme = ['h', 't', 't', 'p', 's', ':'] := rfl
  simp only [schemes, List.mem_cons, List.not_mem_nil, or_false] at isScheme isScheme'
  -- The first slash of a scheme may come from the path, but then the second one does not.
  rcases isPath with rfl | ⟨d, rest, rfl, other⟩
  · rcases isScheme with rfl | rfl <;> rcases isScheme' with rfl | rfl <;>
      simp only [http, https] at whole <;> simp [httpScheme, httpsScheme] at whole
  · rcases isScheme with rfl | rfl <;> rcases isScheme' with rfl | rfl <;>
      simp only [http, https] at whole <;>
      simp [httpScheme, httpsScheme, other.symm] at whole

/-! ## Addresses built on an accepted one -/

theorem toList_base {given : String} {b : Backend} {scheme rest : List Char}
    (stored : b.stored = Text.trim given) (split : (Text.trim given).toList = scheme ++ rest) :
    b.base.toList
      = if rest.all (· == '/') then bare scheme else scheme ++ dropTrailing (· == '/') rest := by
  rw [base, Text.dropTrailingSlashes, String.toList_ofList, stored, split, dropTrailing_scheme]

/-- An address built on an accepted one names a host iff that does as it was given. -/
theorem namesHost_base_append {given url : String} {b : Backend} {path : List Char}
    (accepted : ofString given = .ok b) (isPath : IsPath path)
    (built : url.toList = b.base.toList ++ path) :
    NamesHost url ↔ NamesHost (Text.trim given) := by
  obtain ⟨stored, scheme, isScheme, rest, split⟩ := ofString_eq_ok accepted
  rw [toList_base stored split] at built
  rw [namesHost_iff isScheme split]
  cases gone : rest.all (· == '/') with
  | true =>
      -- Slashes only: the scheme goes with them, and no path brings it back.
      rw [if_pos gone] at built
      refine iff_of_false ?_ ?_
      · rintro ⟨scheme', isScheme', c, -, pre⟩
        exact not_prefix_bare isScheme isScheme' isPath
          ((List.prefix_append scheme' [c]).trans (built ▸ pre))
      · rintro ⟨c, other, first⟩
        exact other (eq_of_beq (List.all_eq_true.mp gone c (List.mem_of_head? first)))
  | false =>
      -- The scheme stays, and with it the character behind it, be it a slash or not.
      rw [if_neg (Bool.eq_false_iff.mp gone), List.append_assoc] at built
      rw [namesHost_iff isScheme built]
      cases rest with
      | nil => cases gone
      | cons c rest =>
          obtain ⟨kept, eq⟩ := dropTrailing_cons gone
          rw [eq]
          rfl

theorem toList_settingsUrl_base (b : Backend) (name : ModelName) :
    (settingsUrl b.base name).toList
      = b.base.toList
        ++ '/' :: 'm' :: ("odels/" ++ name.text ++ "/evaluation-settings").toList := by
  rw [settingsUrl, base, Text.dropTrailingSlashes_idem]
  simp

theorem toList_healthUrl_base (b : Backend) :
    (healthUrl b.base).toList = b.base.toList ++ '/' :: 'h' :: "ealth".toList := by
  rw [healthUrl, base, Text.dropTrailingSlashes_idem]
  simp

/-! ## The theorem -/

/-- What is left of an address that was accepted. -/
structure KeepsAsGiven (given : String) (b : Backend) : Prop where
  /-- The scheme stays iff something other than slashes follows it in what was given. -/
  scheme : (∃ scheme ∈ schemes, scheme <+: b.base.toList) ↔
    ∃ scheme ∈ schemes, ∃ rest, (Text.trim given).toList = scheme ++ rest ∧ ∃ c ∈ rest, c ≠ '/'
  /-- Where it does not stay nothing else does. -/
  bare : (¬ ∃ scheme ∈ schemes, scheme <+: b.base.toList) → b.base = "http:" ∨ b.base = "https:"
  base : NamesHost b.base ↔ NamesHost (Text.trim given)
  settingsUrl : ∀ name, NamesHost (settingsUrl b.base name) ↔ NamesHost (Text.trim given)
  healthUrl : NamesHost (healthUrl b.base) ↔ NamesHost (Text.trim given)
  /-- The addresses that a client of the backend asks are these. -/
  asked : ∀ transport name,
    ((Client.ofBackend b).settings transport name).requests = [Backend.settingsUrl b.base name] ∧
      ((Client.ofBackend b).health transport).requests = [Backend.healthUrl b.base]

/-- An accepted address keeps its scheme and its host iff it names a host where it was given. -/
theorem keepsAsGiven_of_accepted {given : String} {b : Backend}
    (accepted : ofString given = .ok b) : KeepsAsGiven given b := by
  obtain ⟨stored, scheme, isScheme, rest, split⟩ := ofString_eq_ok accepted
  have base := toList_base stored split
  have whole : (∃ scheme ∈ schemes, scheme <+: b.base.toList) ↔ ∃ c ∈ rest, c ≠ '/' := by
    rw [exists_other_iff]
    cases gone : rest.all (· == '/') with
    | true =>
        rw [base, if_pos gone]
        refine iff_of_false ?_ Bool.noConfusion
        rintro ⟨scheme', isScheme', pre⟩
        refine not_prefix_bare isScheme isScheme' (.inl rfl) ?_
        rwa [List.append_nil]
    | false =>
        rw [base, if_neg (Bool.eq_false_iff.mp gone)]
        exact iff_of_true ⟨scheme, isScheme, List.prefix_append _ _⟩ rfl
  refine ⟨?_, ?_, ?_, fun name => ?_, ?_, fun transport name => ?_⟩
  · rw [whole]
    constructor
    · exact fun other => ⟨scheme, isScheme, rest, split, other⟩
    · rintro ⟨scheme', isScheme', rest', split', other⟩
      cases scheme_eq_of_prefix isScheme isScheme' ⟨rest', split' ▸ split⟩
      rwa [List.append_cancel_left (split.symm.trans split')]
  · intro lost
    rw [whole, exists_other_iff, Bool.not_eq_false] at lost
    rw [if_pos lost] at base
    simp only [schemes, List.mem_cons, List.not_mem_nil, or_false] at isScheme
    rcases isScheme with rfl | rfl
    · exact .inl (String.toList_inj.mp base)
    · exact .inr (String.toList_inj.mp base)
  · exact namesHost_base_append accepted (.inl rfl) (List.append_nil _).symm
  · exact namesHost_base_append accepted (.inr ⟨_, _, rfl, by decide⟩)
      (toList_settingsUrl_base b name)
  · exact namesHost_base_append accepted (.inr ⟨_, _, rfl, by decide⟩) (toList_healthUrl_base b)
  · constructor
    · rw [Client.settings, Client.ofBackend, Client.ofBase, Backend.base,
        Text.dropTrailingSlashes_idem]
    · rw [Client.health, Client.ofBackend, Client.ofBase, Backend.base,
        Text.dropTrailingSlashes_idem]

theorem keepsAsGiven_of_slashes :
    ofString " https://a// " = .ok ⟨"https://a//"⟩ ∧
      KeepsAsGiven " https://a// " ⟨"https://a//"⟩ := by
  have accepted : ofString " https://a// " = .ok ⟨"https://a//"⟩ := by decide +kernel
  exact ⟨accepted, keepsAsGiven_of_accepted accepted⟩

/-- A scheme is accepted by itself, and what is built on it is no address with that scheme. -/
theorem not_namesHost_of_scheme :
    ofString "http://" = .ok ⟨"http://"⟩ ∧ base ⟨"http://"⟩ = "http:" ∧
      healthUrl (base ⟨"http://"⟩) = "http:/health" ∧ ¬ NamesHost (base ⟨"http://"⟩) ∧
      ¬ NamesHost (healthUrl (base ⟨"http://"⟩)) ∧
      ∀ name, ¬ NamesHost (settingsUrl (base ⟨"http://"⟩) name) := by
  have accepted : ofString "http://" = .ok ⟨"http://"⟩ := by decide +kernel
  have given : ¬ NamesHost (Text.trim "http://") := by
    have split : (Text.trim "http://").toList = httpScheme ++ [] := by decide +kernel
    rw [namesHost_iff (by decide) split]
    rintro ⟨c, -, first⟩
    cases first
  refine ⟨accepted, by decide +kernel, by decide +kernel, ?_, ?_, fun name => ?_⟩
  · rwa [namesHost_base_append accepted (.inl rfl) (List.append_nil _).symm]
  · rwa [namesHost_base_append accepted (.inr ⟨_, _, rfl, by decide⟩) (toList_healthUrl_base _)]
  · rwa [namesHost_base_append accepted (.inr ⟨_, _, rfl, by decide⟩)
      (toList_settingsUrl_base _ name)]

end EvaluationBrowser.Backend
