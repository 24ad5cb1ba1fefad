/-
# What a reader does is what is seen

The state of a live grid is where the reader's actions lead a fresh grid, whatever settings come in
between: an event reads the settings to find out which action it is, and nothing else of them stays.
The actions are not arbitrary. Each was done to an element that was there, and an element is there
only for a column that has the ability, so none of them is refused; and there is no element that
sets a sort or takes a filter away at once.

For such actions each of the three histories is followed from its last entry, the state before it
being what the entries before it say.
-/
import EvaluationBrowser.Site.LiveGrid
import EvaluationBrowser.Proofs.Grid.Reachable

namespace EvaluationBrowser

namespace Grid

/-- The actions that elements of a grid stand for. -/
inductive Action.IsGesture : Action → Prop
  | click {c : Column} : c.isSortable = true → IsGesture (.toggleSort c)
  | type {c : Column} {text : String} : c.isFilterable = true → IsGesture (.setFilter c text)
  | tick {c : Column} : c.isHideable = true → IsGesture (.toggleHidden c)
  | next {count : Nat} : IsGesture (.nextPage count)
  | previous {count : Nat} : IsGesture (.previousPage count)

namespace Action.IsGesture

variable {action : Action}

theorem of_clicked (gesture : action.IsGesture) {c : Column} (clicked : action.clicked? = some c) :
    action = .toggleSort c ∧ c.isSortable = true := by
  cases gesture with
  | click able => cases clicked; exact ⟨rfl, able⟩
  | type able => cases clicked
  | tick able => cases clicked
  | next => cases clicked
  | previous => cases clicked

theorem of_typed (gesture : action.IsGesture) {filter : Filter}
    (typed : action.typed? = some filter) :
    action = .setFilter filter.column filter.text ∧ filter.column.isFilterable = true := by
  cases gesture with
  | type able => cases typed; exact ⟨rfl, able⟩
  | click able => cases typed
  | tick able => cases typed
  | next => cases typed
  | previous => cases typed

theorem of_ticked (gesture : action.IsGesture) {c : Column} (ticked : action.ticked? = some c) :
    action = .toggleHidden c ∧ c.isHideable = true := by
  cases gesture with
  | tick able => cases ticked; exact ⟨rfl, able⟩
  | click able => cases ticked
  | type able => cases ticked
  | next => cases ticked
  | previous => cases ticked

theorem sort_after (gesture : action.IsGesture) (other : action.clicked? = none) (s : State) :
    (s.after action).sort = s.sort := by
  cases gesture with
  | click able => cases other
  | type able => rw [State.after_setFilter, if_pos able]
  | tick able => rw [State.after_toggleHidden, if_pos able]
  | next => rfl
  | previous => rfl

theorem filter_after (gesture : action.IsGesture) (other : action.typed? = none) (s : State) :
    (s.after action).filter = s.filter := by
  cases gesture with
  | type able => cases other
  | click able => rw [State.after_toggleSort, if_pos able]
  | tick able => rw [State.after_toggleHidden, if_pos able]
  | next => rfl
  | previous => rfl

end Action.IsGesture

namespace State

theorem ofActions_concat (actions : List Action) (action : Action) :
    ofActions (actions ++ [action]) = (ofActions actions).after action := by
  simp [ofActions]

/-! ## The sort -/

theorem directionOfRun_succ (n : Nat) :
    directionOfRun (n + 1) =
      match directionOfRun n with
      | none => some .ascending
      | some .ascending => some .descending
      | some .descending => none := by
  fun_induction directionOfRun n with
  | case1 => rfl
  | case2 => rfl
  | case3 => rfl
  | case4 n ih => exact ih

theorem directionOfClicks_concat (clicked : List Column) (b c : Column) :
    directionOfClicks (clicked ++ [b]) c =
      if b = c then
        match directionOfClicks clicked c with
        | none => some .ascending
        | some .ascending => some .descending
        | some .descending => none
      else none := by
  unfold directionOfClicks
  rw [List.reverse_concat]
  by_cases same : b = c
  · rw [if_pos same, List.takeWhile_cons_of_pos (by simpa using same), List.length_cons,
      directionOfRun_succ]
  · rw [if_neg same, List.takeWhile_cons_of_neg (by simpa using same)]
    rfl

/-- A click elsewhere begins the row anew. -/
example : directionOfClicks [.minArea, .minArea, .maxArea, .minArea] .minArea = some .ascending :=
  rfl

theorem direction?_after_toggleSort (s : State) {b : Column} (able : b.isSortable = true)
    (c : Column) :
    (s.after (.toggleSort b)).direction? c =
      if b = c then
        match s.direction? c with
        | none => some .ascending
        | some .ascending => some .descending
        | some .descending => none
      else none := by
  rw [after_toggleSort, if_pos able]
  by_cases same : b = c
  · subst same
    rw [if_pos rfl]
    cases s.direction? b with
    | none => simp [direction?]
    | some d => cases d <;> simp [direction?]
  · rw [if_neg same]
    cases s.direction? b with
    | none => simp [direction?, same]
    | some d => cases d <;> simp [direction?, same]

theorem direction?_ofActions {actions : List Action} (gestures : ∀ a ∈ actions, a.IsGesture)
    (c : Column) :
    (ofActions actions).direction? c
      = directionOfClicks (actions.filterMap Action.clicked?) c := by
  induction actions using List.reverseRecOn with
  | nil => rfl
  | append_singleton actions action ih =>
      have ih := ih fun a mem => gestures a (List.mem_append_left _ mem)
      have last : action.IsGesture := gestures action (by simp)
      rw [ofActions_concat, List.filterMap_append]
      cases clicked : action.clicked? with
      | none =>
          rw [List.filterMap_cons_none clicked, List.filterMap_nil, List.append_nil, ← ih]
          simp only [direction?, last.sort_after clicked]
      | some b =>
          obtain ⟨rfl, able⟩ := last.of_clicked clicked
          rw [direction?_after_toggleSort _ able, ih, List.filterMap_cons_some clicked]
          exact (directionOfClicks_concat ..).symm

/-! ## The filter -/

theorem filter_ofActions {actions : List Action} (gestures : ∀ a ∈ actions, a.IsGesture) :
    (ofActions actions).filter = filterOfTexts (actions.filterMap Action.typed?) := by
  induction actions using List.reverseRecOn with
  | nil => rfl
  | append_singleton actions action ih =>
      have ih := ih fun a mem => gestures a (List.mem_append_left _ mem)
      have last : action.IsGesture := gestures action (by simp)
      rw [ofActions_concat, List.filterMap_append]
      cases typed : action.typed? with
      | none =>
          rw [List.filterMap_cons_none typed, List.filterMap_nil, List.append_nil, ← ih]
          exact last.filter_after typed _
      | some filter =>
          obtain ⟨rfl, able⟩ := last.of_typed typed
          rw [after_setFilter, if_pos able, List.filterMap_cons_some typed, List.filterMap_nil,
            filterOfTexts, List.getLast?_concat, Option.filter_some]
          cases Text.isBlankText filter.text <;> rfl

/-! ## The columns -/

theorem toggleCount_of_gestures {actions : List Action} (gestures : ∀ a ∈ actions, a.IsGesture)
    (c : Column) (s : State) :
    toggleCount c s actions = (actions.filterMap Action.ticked?).count c := by
  induction actions generalizing s with
  | nil => rfl
  | cons action actions ih =>
      have ih := ih (fun a mem => gestures a (List.mem_cons_of_mem _ mem)) (s.after action)
      have first : action.IsGesture := gestures action (List.mem_cons_self ..)
      rw [toggleCount, ih]
      cases ticked : action.ticked? with
      | none =>
          have other : action ≠ .toggleHidden c := by
            rintro rfl
            cases ticked
          rw [List.filterMap_cons_none ticked, if_neg fun both => other both.1, Nat.zero_add]
      | some d =>
          obtain ⟨rfl, able⟩ := first.of_ticked ticked
          have done : (s.apply (.toggleHidden d)).isOk = true := by
            simp [apply, toggleHidden, able, Except.isOk, Except.toBool]
          rw [List.filterMap_cons_some ticked, List.count_cons, Nat.add_comm]
          simp [done]

theorem visibleColumns_of_gestures {actions : List Action}
    (gestures : ∀ a ∈ actions, a.IsGesture) :
    (ofActions actions).visibleColumns = columnsOfTicks (actions.filterMap Action.ticked?) := by
  refine List.filter_congr fun c _ => ?_
  have hidden := isHidden_ofActions_iff actions c
  rw [toggleCount_of_gestures gestures, Nat.odd_iff] at hidden
  have parity := Nat.mod_two_eq_zero_or_one ((actions.filterMap Action.ticked?).count c)
  cases side : (ofActions actions).isHidden c with
  | true => simp [hidden.mp side]
  | false =>
      have even : (actions.filterMap Action.ticked?).count c % 2 = 0 := by
        rcases parity with even | odd
        · exact even
        · rw [hidden.mpr odd] at side
          cases side
      simp [even]

end State

end Grid

namespace Site

open Grid (Action State)

/-- An element is there only for a column that has the ability. -/
theorem GridEvent.isGesture_of_action? {event : GridEvent} {s : State} {settings : List Setting}
    {action : Action} (done : event.action? s settings = some action) : action.IsGesture := by
  cases event with
  | checkbox index =>
      obtain ⟨c, there, rfl⟩ := Option.map_eq_some_iff.mp done
      exact .tick (List.mem_filter.mp (List.mem_of_getElem? there)).2
  | heading index =>
      obtain ⟨c, there, rfl⟩ := Option.map_eq_some_iff.mp done
      exact .click (List.mem_filter.mp (List.mem_of_getElem? there)).2
  | filter index text =>
      obtain ⟨c, there, rfl⟩ := Option.map_eq_some_iff.mp done
      exact .type (List.mem_filter.mp (List.mem_of_getElem? there)).2
  | button index =>
      simp only [action?] at done
      split at done
      · have there := List.mem_of_getElem? done
        simp only [List.mem_cons, List.not_mem_nil, or_false] at there
        rcases there with rfl | rfl
        · exact .previous
        · exact .next
      · cases done

namespace LiveGrid

theorem isGesture_of_mem_actions {g : LiveGrid} {events : List Event} :
    ∀ action ∈ g.actions events, action.IsGesture := by
  induction events generalizing g with
  | nil =>
      intro action mem
      cases mem
  | cons event events ih =>
      intro action mem
      rcases List.mem_append.mp mem with now | later
      · cases event with
        | reader event => exact GridEvent.isGesture_of_action? (Option.mem_toList.mp now)
        | give settings => cases now
      · exact ih action later

theorem state_after (g : LiveGrid) (event : Event) :
    (g.after event).state = (g.action? event).toList.foldl State.after g.state := by
  cases event with
  | reader event =>
      simp only [after, action?, GridEvent.after?]
      cases event.action? g.state g.settings <;> rfl
  | give settings => rfl

theorem state_afterAll (g : LiveGrid) (events : List Event) :
    (g.afterAll events).state = (g.actions events).foldl State.after g.state := by
  induction events generalizing g with
  | nil => rfl
  | cons event events ih =>
      rw [actions, List.foldl_append, ← state_after]
      exact ih (g.after event)

/-- Settings that come in between do not count. -/
theorem state_fresh_afterAll (settings : List Setting) (events : List Event) :
    ((fresh settings).afterAll events).state
      = State.ofActions ((fresh settings).actions events) :=
  state_afterAll ..

end LiveGrid

end Site

end EvaluationBrowser
