/-
# When checks in a row pass

A run of checks passes iff each passes on what the ones before it made. A check of one condition
passes iff the condition holds, and fails in one way only. Wording a failure in another way changes
neither when it arises nor what passes. Asked of one element after another, a check fails at the
first that does not pass, and so does a run of steps that are refused for what they are asked alone.
-/

namespace EvaluationBrowser

variable {ε ε' α β : Type}

theorem bind_eq_ok_iff {x : Except ε α} {f : α → Except ε β} {b : β} :
    (x >>= f) = .ok b ↔ ∃ a, x = .ok a ∧ f a = .ok b := by
  constructor
  · intro passed
    cases x with
    | ok a => exact ⟨a, rfl, passed⟩
    | error e => cases passed
  · rintro ⟨a, rfl, rest⟩
    exact rest

theorem bind_eq_error_iff {x : Except ε α} {f : α → Except ε β} {e : ε} :
    (x >>= f) = .error e ↔ x = .error e ∨ ∃ a, x = .ok a ∧ f a = .error e := by
  constructor
  · intro failed
    cases x with
    | ok a => exact .inr ⟨a, rfl, failed⟩
    | error e' =>
        cases failed
        exact .inl rfl
  · rintro (rfl | ⟨a, rfl, rest⟩)
    · rfl
    · exact rest

theorem ite_eq_ok_iff {condition : Bool} {e : ε} {a b : α} :
    (if condition then .ok a else .error e) = Except.ok b ↔ condition = true ∧ b = a := by
  cases condition with
  | true => exact ⟨fun h => ⟨rfl, (Except.ok.inj h).symm⟩, fun h => congrArg Except.ok h.2.symm⟩
  | false => exact ⟨fun h => (nomatch h), fun h => (nomatch h.1)⟩

theorem ite_eq_error_iff {condition : Bool} {e e' : ε} {a : α} :
    (if condition then .ok a else .error e) = Except.error e' ↔ condition = false ∧ e' = e := by
  cases condition with
  | true => exact ⟨fun h => (nomatch h), fun h => (nomatch h.1)⟩
  | false =>
      exact ⟨fun h => ⟨rfl, (Except.error.inj h).symm⟩, fun h => congrArg Except.error h.2.symm⟩

theorem mapError_eq_ok_iff {x : Except ε α} {f : ε → ε'} {a : α} :
    x.mapError f = .ok a ↔ x = .ok a := by
  constructor
  · intro passed
    cases x with
    | ok b =>
        cases passed
        rfl
    | error e => cases passed
  · rintro rfl
    rfl

theorem mapError_eq_error_iff {x : Except ε α} {f : ε → ε'} {e' : ε'} :
    x.mapError f = .error e' ↔ ∃ e, x = .error e ∧ f e = e' := by
  constructor
  · intro failed
    cases x with
    | ok b => cases failed
    | error e => exact ⟨e, rfl, Except.error.inj failed⟩
  · rintro ⟨e, rfl, rfl⟩
    rfl

/-- Steps that fail for what they are asked and not for what the ones before them have made. -/
theorem foldlM_eq_error_iff {step : α → β → Except ε α} (Kept : α → Prop) (Fails : β → ε → Prop)
    (fails_iff : ∀ {a}, Kept a → ∀ x e, step a x = .error e ↔ Fails x e)
    (kept : ∀ {a x a'}, Kept a → step a x = .ok a' → Kept a') {a : α} (start : Kept a)
    {xs : List β} {e : ε} :
    xs.foldlM step a = .error e ↔
      ∃ before x after, xs = before ++ x :: after ∧ (∀ y ∈ before, ∀ e', ¬ Fails y e') ∧
        Fails x e := by
  induction xs generalizing a with
  | nil =>
      constructor
      · intro failed
        cases failed
      · rintro ⟨before, x, after, eq, -, -⟩
        exact absurd eq.symm (List.append_ne_nil_of_right_ne_nil before (List.cons_ne_nil x after))
  | cons first xs ih =>
      rw [List.foldlM_cons]
      cases result : step a first with
      | error e' =>
          have fails := (fails_iff start first e').mp result
          constructor
          · intro failed
            cases failed
            exact ⟨[], first, xs, rfl, nofun, fails⟩
          · rintro ⟨before, x, after, eq, passed, failed⟩
            cases before with
            | nil =>
                obtain ⟨rfl, rfl⟩ := List.cons.inj eq
                exact result.symm.trans ((fails_iff start first e).mpr failed)
            | cons y before =>
                obtain ⟨rfl, rfl⟩ := List.cons.inj eq
                exact absurd fails (passed first List.mem_cons_self e')
      | ok a' =>
          have passes : ∀ e', ¬ Fails first e' := by
            intro e' fails
            cases result.symm.trans ((fails_iff start first e').mpr fails)
          refine Iff.trans (ih (kept start result)) ?_
          constructor
          · rintro ⟨before, x, after, rfl, passed, failed⟩
            exact ⟨first :: before, x, after, rfl, List.forall_mem_cons.mpr ⟨passes, passed⟩,
              failed⟩
          · rintro ⟨before, x, after, eq, passed, failed⟩
            cases before with
            | nil =>
                obtain ⟨rfl, rfl⟩ := List.cons.inj eq
                exact absurd failed (passes e)
            | cons y before =>
                obtain ⟨rfl, rfl⟩ := List.cons.inj eq
                exact ⟨before, x, after, rfl, fun y mem => passed y (List.mem_cons_of_mem _ mem),
                  failed⟩

theorem eq_ok_of_forall_ne {x : Except ε Unit} (never : ∀ e, x ≠ .error e) : x = .ok () := by
  cases x with
  | ok _ => rfl
  | error e => exact absurd rfl (never e)

theorem forM_eq_error_iff {check : α → Except ε Unit} {xs : List α} {e : ε} :
    xs.forM check = .error e ↔
      ∃ before x after, xs = before ++ x :: after ∧ (∀ y ∈ before, check y = .ok ()) ∧
        check x = .error e := by
  have run : xs.forM check = xs.foldlM (fun _ x => check x) () := by
    induction xs with
    | nil => rfl
    | cons x xs ih =>
        change (check x >>= fun _ => xs.forM check) = _
        rw [ih]
        rfl
  have first : xs.foldlM (fun _ x => check x) () = .error e ↔
      ∃ before x after, xs = before ++ x :: after ∧ (∀ y ∈ before, ∀ e', ¬ check y = .error e') ∧
        check x = .error e :=
    foldlM_eq_error_iff (fun _ => True) (fun x e => check x = .error e) (fun _ _ _ => .rfl)
      (fun _ _ => trivial) trivial
  rw [run, first]
  constructor
  · rintro ⟨before, x, after, eq, passed, failed⟩
    exact ⟨before, x, after, eq, fun y mem => eq_ok_of_forall_ne (passed y mem), failed⟩
  · rintro ⟨before, x, after, eq, passed, failed⟩
    refine ⟨before, x, after, eq, fun y mem e' refused => ?_, failed⟩
    cases (passed y mem).symm.trans refused

end EvaluationBrowser
