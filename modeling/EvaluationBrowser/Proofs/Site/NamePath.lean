/-
# Names in paths

A path of names is what it looks like: each name is one segment of it, as it is written. This holds
because of what the alphabet of names leaves out. Slashes of either kind would separate segments, a
question mark or a number sign would end the path, dots could be followed, a percent sign could
begin an escape, and blanks and line breaks would be cleaned away. A colon would announce a scheme,
but a path that begins with a slash announces none.
-/
import Mathlib.Data.List.DropRight
import EvaluationBrowser.ModelName
import EvaluationBrowser.Site.Route

namespace EvaluationBrowser

/-! ## The alphabet -/

theorem ne_of_isNameChar {c d : Char} (name : isNameChar c = true) (other : isNameChar d = false) :
    c ≠ d := by
  rintro rfl
  rw [name] at other
  cases other

/-- A name and every character of it. -/
def IsName (cs : List Char) : Prop := cs ≠ [] ∧ ∀ c ∈ cs, isNameChar c = true

theorem isName_of_isModelName {s : String} (isName : isModelName s = true) : IsName s.toList := by
  simp only [isModelName, Bool.and_eq_true, Bool.not_eq_true', List.isEmpty_eq_false_iff,
    List.all_eq_true] at isName
  exact isName

theorem ModelName.isName_toList (name : ModelName) : IsName name.text.toList :=
  isName_of_isModelName name.isName

namespace Site

variable {c : Char}

theorem isSlash_of_isNameChar (name : isNameChar c = true) : isSlash c = false := by
  simp [isSlash, ne_of_isNameChar name (show isNameChar '/' = false from rfl),
    ne_of_isNameChar name (show isNameChar '\\' = false from rfl)]

theorem endsPath_of_isNameChar (name : isNameChar c = true) : endsPath c = false := by
  simp [endsPath, ne_of_isNameChar name (show isNameChar '?' = false from rfl),
    ne_of_isNameChar name (show isNameChar '#' = false from rfl)]

/-- No character of a name is a blank or a control character. -/
theorem lt_toNat_of_isNameChar (name : isNameChar c = true) : 0x20 < c.toNat := by
  by_contra edge
  have small : ∀ n : Fin 0x21, isNameChar (Char.ofNat n) = false := by decide
  have other := small ⟨c.toNat, by omega⟩
  rw [Char.ofNat_toNat, name] at other
  cases other

/-! ## Segments -/

/-- The path of some segments. -/
def joined (names : List (List Char)) : List Char := names.flatMap ('/' :: ·)

variable {names : List (List Char)}

/-- Every character of a path of names is a slash or stands in a name. -/
theorem of_mem_joined (all : ∀ name ∈ names, IsName name) (mem : c ∈ joined names) :
    c = '/' ∨ isNameChar c = true := by
  obtain ⟨name, inNames, inName⟩ := List.mem_flatMap.mp mem
  rcases List.mem_cons.mp inName with slash | inName
  · exact .inl slash
  · exact .inr ((all name inNames).2 c inName)

/-- Cut at its slashes, a path of names falls into the names. -/
theorem splitOnP_joined (slash : Char → Bool) (separates : slash '/' = true)
    (others : ∀ c, isNameChar c = true → slash c = false) {first : List Char}
    (all : ∀ name ∈ first :: names, ∀ c ∈ name, isNameChar c = true) :
    (first ++ joined names).splitOnP slash = first :: names := by
  induction names generalizing first with
  | nil =>
      rw [joined, List.flatMap_nil, List.append_nil]
      exact List.splitOnP_eq_singleton fun c mem => others c (all first List.mem_cons_self c mem)
  | cons second names ih =>
      rw [joined, List.flatMap_cons, List.cons_append, ← joined,
        List.splitOnP_append_cons_of_forall_mem
          (fun c mem => others c (all first List.mem_cons_self c mem)) '/' separates,
        ih fun name mem => all name (List.mem_cons_of_mem _ mem)]

/-- Names hold no dots, escaped or not. -/
theorem dots_of_isName {cs : List Char} (name : ∀ c ∈ cs, isNameChar c = true) : dots cs = cs := by
  have noPercent : ∀ c ∈ cs, c ≠ '%' := fun c mem => ne_of_isNameChar (name c mem) rfl
  fun_induction dots cs with
  | case1 => exact absurd rfl (noPercent '%' (by simp))
  | case2 => exact absurd rfl (noPercent '%' (by simp))
  | case3 c rest _ _ ih =>
      rw [ih (fun c mem => name c (List.mem_cons_of_mem _ mem))
        (fun c mem => noPercent c (List.mem_cons_of_mem _ mem))]
  | case4 => rfl

/-- Among names nothing is to be followed. -/
theorem followDots_names (before : List (List Char)) (all : ∀ name ∈ names, IsName name) :
    followDots before names = before.reverse ++ names := by
  induction names generalizing before with
  | nil => rw [followDots, List.append_nil]
  | cons name names ih =>
      obtain ⟨isName, rest⟩ := List.forall_mem_cons.mp all
      have other : ∀ more, name ≠ '.' :: more := by
        rintro more rfl
        exact absurd (isName.2 '.' List.mem_cons_self) (by decide)
      rw [followDots]
      simp only [dots_of_isName isName.2, if_neg (other _)]
      rw [ih _ rest, List.reverse_cons, List.append_assoc, List.singleton_append]

/-! ## Addresses -/

/-- Where there are no blanks and no control characters nothing is cleaned away. -/
theorem cleaned_of_forall_lt {cs : List Char} (plain : ∀ c ∈ cs, 0x20 < c.toNat) :
    cleaned cs = cs := by
  have near : cs.dropWhile (fun c => decide (c.toNat ≤ 0x20)) = cs := by
    refine List.dropWhile_eq_self_iff.mpr fun some => ?_
    have first := plain _ (List.getElem_mem some)
    simpa using first
  have far : Text.dropTrailing (fun c => decide (c.toNat ≤ 0x20)) cs = cs := by
    refine List.rdropWhile_eq_self_iff.mpr fun some => ?_
    have last := plain _ (List.getLast_mem some)
    simpa using last
  simp only [cleaned]
  rw [near, far, List.filter_eq_self]
  intro c mem
  have plain := plain c mem
  have other : ∀ d : Char, d.toNat ≤ 0x20 → c ≠ d := by
    rintro d small rfl
    omega
  exact decide_eq_true ⟨other _ (by decide), other _ (by decide), other _ (by decide)⟩

/-- An address that is a path of names has exactly these as its segments. -/
theorem ofAddress_joined (some : names ≠ []) (all : ∀ name ∈ names, IsName name) :
    Path.ofAddress (String.ofList (joined names)) = [] :: names := by
  have plain : ∀ c ∈ joined names, 0x20 < c.toNat := by
    intro c mem
    rcases of_mem_joined all mem with rfl | name
    · decide
    · exact lt_toNat_of_isNameChar name
  obtain ⟨first, names, rfl⟩ := List.exists_cons_of_ne_nil some
  obtain ⟨isName, rest⟩ := List.forall_mem_cons.mp all
  obtain ⟨c, cs, rfl⟩ := List.exists_cons_of_ne_nil isName.1
  have noSlash : isSlash c = false := isSlash_of_isNameChar (isName.2 c List.mem_cons_self)
  -- One slash stands in front, and no second one, so no host is announced.
  have behind : (joined ((c :: cs) :: names)).dropWhile isSlash = c :: cs ++ joined names := by
    have slash : isSlash '/' = true := rfl
    rw [joined, List.flatMap_cons, List.cons_append, List.dropWhile_cons_of_pos slash, ← joined,
      List.cons_append, List.dropWhile_cons_of_neg (by rw [noSlash]; exact Bool.false_ne_true)]
  have whole : (c :: cs ++ joined names).takeWhile (!endsPath ·) = c :: cs ++ joined names := by
    refine List.takeWhile_eq_self_iff.mpr fun d mem => ?_
    have inPath : d ∈ joined ((c :: cs) :: names) := List.mem_cons_of_mem '/' mem
    rcases of_mem_joined all inPath with rfl | name
    · rfl
    · rw [endsPath_of_isNameChar name]
      rfl
  have scheme : splitScheme? (joined ((c :: cs) :: names)) = none := rfl
  simp only [Path.ofAddress, String.toList_ofList]
  rw [cleaned_of_forall_lt plain, scheme]
  simp only [sitePath]
  rw [behind, if_neg (by simp [joined]), rooted, segments, whole,
    splitOnP_joined isSlash rfl (fun _ => isSlash_of_isNameChar) fun name mem => (all name mem).2,
    followDots_names [] all]
  rfl

/-! ## Escapes -/

/-- A text without percent signs stands for itself. -/
theorem decoded_of_no_percent {s : String} (none : '%' ∉ s.toList) : decoded s = s := by
  have bytes : (⟨(unescape s.toList).toArray⟩ : ByteArray) = s.toByteArray := by
    rw [unescape_of_no_percent none]
    refine ByteArray.ext ?_
    rw [← String.ofList_toList (s := s), String.toByteArray_ofList, List.utf8Encode,
      List.data_toByteArray, String.toList_ofList]
  rw [decoded, bytes, String.fromUTF8?, dif_pos s.isValidUTF8]
  rfl

theorem decoded_name (name : ModelName) : decoded name.text = name.text := by
  refine decoded_of_no_percent fun percent => ?_
  have inName := name.isName_toList.2 '%' percent
  cases inName

end Site
end EvaluationBrowser
