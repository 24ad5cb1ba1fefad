/-
# From the home page to the page of a model

A name is checked twice on this way, by the home page after trimming and by the page of the model
as it comes, and in between it is written into a path, read back as a segment, and decoded two
times. For a name all of that changes nothing, so the second check passes whenever the first did,
and the page asks for the very model whose name was typed.

The second check is made again at every look at the route. As long as the route stays the name stays
active, so no look asks again and none rejects the name; what the page can tell of failures then
comes from the one reply, or from there being no address to ask.
-/
import EvaluationBrowser.Proofs.Setting.Verdict
import EvaluationBrowser.Proofs.Site.NamePath
import EvaluationBrowser.Proofs.Site.Requests
import EvaluationBrowser.Proofs.Site.Session
import EvaluationBrowser.Proofs.Wording

namespace EvaluationBrowser.Site

open Fetch (Ticket Tracker)

variable {built : Option String} {name : ModelName}

/-! ## The error line -/

/-- The text of an error line can be read off it, unless it is empty or a space. -/
theorem Html.eq_of_errorPanel_eq {reason reason' : String} (some : reason ≠ "")
    (other : reason ≠ " ") (same : errorPanel reason = errorPanel reason') : reason' = reason := by
  simp only [errorPanel, ofClass, shown, if_neg some, Html.element.injEq, List.cons.injEq,
    Html.text.injEq, true_and, and_true] at same
  split at same
  · exact absurd same other
  · exact same.symm

theorem Home.errorPanel_mem_html {h : Home} {reason : String} :
    Html.errorPanel reason ∈ h.html.children ↔
      ∃ shown, h.error = some shown ∧ Html.errorPanel reason = Html.errorPanel shown := by
  unfold html
  cases h.error <;> simp [Html.children, Html.ofClass, Html.plain, Html.errorPanel]

theorem ModelPage.errorPanel_mem_html {p : ModelPage} {reason : String} :
    Html.errorPanel reason ∈ p.html.children ↔ ∃ shown,
      p.tracker.state = .failed shown ∧ Html.errorPanel reason = Html.errorPanel shown := by
  unfold html
  cases p.tracker.state <;>
    simp [Html.children, Html.ofClass, Html.plain, Html.errorPanel, loadingLine, GridView.html,
      Fetch.State.isLoading, Fetch.State.failed?]

/-! ## Pressing the button -/

theorem Home.press_of_name {h : Home} (isName : isModelName (Text.trim h.typed) = true) :
    h.press = { h with
      error := none, navigated := h.navigated ++ [modelPath (Text.trim h.typed)] } := by
  unfold press
  rw [ModelName.ofString_eq_ok isName]

theorem Home.press_of_other {h : Home} (other : isModelName (Text.trim h.typed) = false) :
    h.press = { h with error := some (Failure.invalidModelName (Text.trim h.typed)).message } := by
  unfold press
  rw [ModelName.ofString_eq_error other]

/-! ## The page that is reached -/

theorem ofAddress_modelPath (name : ModelName) :
    Route.ofAddress (modelPath name.text) = .model name.text := by
  have path : modelPath name.text
      = String.ofList (joined ["models".toList, name.text.toList]) := by
    rw [← String.toList_inj]
    simp [modelPath, joined]
  have names : ∀ segment ∈ ["models".toList, name.text.toList], IsName segment := by
    intro segment mem
    simp only [List.mem_cons, List.not_mem_nil, or_false] at mem
    rcases mem with rfl | rfl
    · exact isName_of_isModelName rfl
    · exact name.isName_toList
  have route : Route.ofPath ([] :: ["models".toList, name.text.toList])
      = Route.ofPieces ["models".toList, name.text.toList] := rfl
  rw [Route.ofAddress, path, ofAddress_joined (List.cons_ne_nil _ _) names, route, Route.ofPieces,
    if_pos ⟨rfl, name.isName_toList.1⟩, String.ofList_toList, decoded_name]

theorem onRouteName_initial (name : ModelName) :
    (Tracker.initial : Tracker (List Setting)).onRouteName name.text
      = (some ⟨1, name⟩, ⟨1, some name, .loading⟩) := by
  rw [Tracker.onRouteName, ModelName.ofString_eq_ok name.isName]
  rfl

/-- The request of the page that was just opened. -/
theorem opened_of_url {url : String} (address : requestUrl built name = .ok url) :
    ModelPage.opened built name.text
      = ⟨name.text, ⟨1, some name, .loading⟩, [⟨⟨1, name⟩, url, false⟩], .initial⟩ := by
  simp [ModelPage.opened, ModelPage.mounted, ModelPage.lookAtRoute, decoded_name,
    onRouteName_initial, address]

/-- Where there is no address to ask, the request fails before it is sent. -/
theorem opened_of_no_url {reason : String} (none : requestUrl built name = .error reason) :
    ModelPage.opened built name.text
      = ⟨name.text, ⟨1, some name, .failed reason⟩, [], .initial⟩ := by
  simp [ModelPage.opened, ModelPage.mounted, ModelPage.lookAtRoute, decoded_name,
    onRouteName_initial, none, Tracker.complete]

/-! ## While the route stays -/

namespace ModelPage

/-- What holds of a page as long as its route names the same model. -/
structure StaysOn (name : ModelName) (asked : List (Ticket × String)) (Told : String → Prop)
    (p : ModelPage) : Prop where
  routeName : p.routeName = name.text
  active : p.tracker.active = some name
  generation : p.tracker.generation = 1
  sent : p.sent = asked
  /-- Whatever failed was told by something else than the page. -/
  told : ∀ reason, p.tracker.state = .failed reason → Told reason

variable {p : ModelPage} {asked : List (Ticket × String)} {Told : String → Prop}

/-- A name that is active is not asked for again. -/
theorem lookAtRoute_of_active (built : Option String) (routeName : p.routeName = name.text)
    (active : p.tracker.active = some name) : p.lookAtRoute built = p := by
  have unchanged : p.tracker.onRouteName p.routeName = (none, p.tracker) := by
    simp [Tracker.onRouteName, routeName, ModelName.ofString, Tracker.beginIfChanged, active]
  rw [lookAtRoute, unchanged]

theorem StaysOn.after (h : p.StaysOn name asked Told) (event : Event)
    (route : ∀ parameter, event = .route parameter → decoded parameter = name.text)
    (replies : ∀ request reply, event = .respond request reply →
      ∀ reason, outcomeOf reply = .error reason → Told reason) :
    (p.after built event).StaysOn name asked Told := by
  cases event with
  | grid event =>
      obtain ⟨tracker, sent⟩ := p.sent_grid built event
      have routeName : (p.after built (.grid event)).routeName = p.routeName := by
        simp only [ModelPage.after, after?]
        cases event.after? p.grid p.rows <;> rfl
      exact ⟨routeName.trans h.routeName, tracker ▸ h.active, tracker ▸ h.generation,
        sent.trans h.sent, tracker ▸ h.told⟩
  | route parameter =>
      have same := route parameter rfl
      have unchanged :=
        @lookAtRoute_of_active name { p with routeName := decoded parameter } built same h.active
      rw [after_route, unchanged]
      exact ⟨same, h.active, h.generation, h.sent, h.told⟩
  | respond request reply =>
      have sent := (p.sent_respond built request reply).2.trans h.sent
      rcases p.after_respond_cases built request reply with none | ⟨q, found, waits⟩
      · rwa [none]
      · rw [after_respond built p found waits] at sent ⊢
        refine ⟨h.routeName, (Tracker.complete_active _ _ _).trans h.active,
          (Tracker.complete_generation _ _ _).trans h.generation, sent, ?_⟩
        intro reason failed
        by_cases present : q.ticket.generation = p.tracker.generation
        · rw [Tracker.complete_of_present present] at failed
          have outcome := Fetch.State.ofResult_eq_failed.mp failed
          exact replies request reply rfl reason (Option.some.inj outcome)
        · rw [Tracker.complete_of_stale present] at failed
          exact h.told reason failed

theorem StaysOn.afterAll (h : p.StaysOn name asked Told) (events : List Event)
    (routes : ∀ parameter, .route parameter ∈ events → decoded parameter = name.text)
    (replies : ∀ request reply, .respond request reply ∈ events →
      ∀ reason, outcomeOf reply = .error reason → Told reason) :
    (p.afterAll built events).StaysOn name asked Told := by
  induction events generalizing p with
  | nil => exact h
  | cons event events ih =>
      have first : (p.after built event).StaysOn name asked Told := by
        refine h.after event ?_ ?_
        · rintro parameter rfl
          exact routes parameter List.mem_cons_self
        · rintro request reply rfl
          exact replies request reply List.mem_cons_self
      exact ih first (fun parameter mem => routes parameter (List.mem_cons_of_mem _ mem))
        fun request reply mem => replies request reply (List.mem_cons_of_mem _ mem)

theorem staysOn_opened (told : ∀ reason, requestUrl built name = .error reason → Told reason) :
    (opened built name.text).StaysOn name
      ((requestUrl built name).toOption.map fun url => (⟨1, name⟩, url)).toList Told := by
  cases address : requestUrl built name with
  | ok url =>
      rw [opened_of_url address]
      exact ⟨rfl, rfl, rfl, rfl, nofun⟩
  | error reason =>
      rw [opened_of_no_url address]
      refine ⟨rfl, rfl, rfl, rfl, ?_⟩
      rintro _ ⟨⟩
      exact told reason address

end ModelPage

/-! ## What is told of a reply -/

/-- The browser gives this text as the reason why it could not send or read. -/
def ToldByBrowser (reason : String) (reply : Reply) : Prop :=
  reply = .unsent reason ∨ ∃ status, reply = .answered status (.error reason)

theorem toldByBrowser_of_outcomeOf {reply : Reply} {reason raw : String}
    (failed : outcomeOf reply = .error reason)
    (malformed : reason = (Failure.invalidModelName raw).message) : ToldByBrowser reason reply := by
  cases reply with
  | unsent told => exact .inl (congrArg Reply.unsent (Except.error.inj failed))
  | answered code body =>
      simp only [outcomeOf] at failed
      split at failed
      · cases body with
        | error told =>
            obtain rfl := Except.error.inj failed
            exact .inr ⟨code, rfl⟩
        | ok text =>
            -- A body that was read fails as JSON or as a setting, and names no model.
            obtain ⟨failure, refused, worded⟩ := mapError_eq_error_iff.mp failed
            rcases Setting.parseAll_eq_error_iff.mp refused with
              ⟨e, -, rfl⟩ | ⟨before, s, after, v, -, -, -, rfl⟩
            · exact absurd (worded.trans malformed) (Failure.message_ne_invalidModelName (by simp))
            · exact absurd (worded.trans malformed) (Failure.message_ne_invalidModelName (by simp))
      · exact absurd ((Except.error.inj failed).trans malformed)
          (Failure.message_ne_invalidModelName (by simp))

theorem requestUrl_ne_invalidModelName (raw : String) :
    requestUrl built name ≠ .error (Failure.invalidModelName raw).message := by
  intro failed
  rw [requestUrl] at failed
  split at failed
  · exact absurd failed nofun
  · exact absurd (Except.error.inj failed) (Failure.message_ne_invalidModelName (by simp))

/-! ## The theorem -/

/-- There is no address to ask, or a reply among the events failed, and this is what it says. -/
def FetchFails (built : Option String) (name : ModelName) (events : List ModelPage.Event)
    (reason : String) : Prop :=
  requestUrl built name = .error reason ∨
    ∃ request reply, .respond request reply ∈ events ∧ outcomeOf reply = .error reason

/-- What the page of a model has done and shows after some events. -/
structure AsksFor (built : Option String) (name : ModelName) (events : List ModelPage.Event)
    (p : ModelPage) : Prop where
  routeName : p.routeName = name.text
  active : p.tracker.active = some name
  /-- One ticket was given out. -/
  generation : p.tracker.generation = 1
  /-- One request was sent, if there is an address to ask, and it bears the ticket for the name. -/
  sent : p.sent = ((requestUrl built name).toOption.map fun url => (⟨1, name⟩, url)).toList
  /-- An error line tells of the reply, or that there is no address. -/
  error : ∀ reason, p.tracker.state = .failed reason → FetchFails built name events reason
  /-- It never tells of a name that is none, unless the browser says so word for word. -/
  not_malformed : ∀ raw,
    Html.errorPanel (Failure.invalidModelName raw).message ∈ p.html.children →
      ∃ request reply, .respond request reply ∈ events ∧
        ToldByBrowser (Failure.invalidModelName raw).message reply

/-- What a navigation to the path of a model reaches. -/
structure Reaches (built : Option String) (path : String) (name : ModelName) : Prop where
  route : Route.ofAddress path = .model name.text
  /-- From the home page a new page is opened; when it has looked at its route, one request was
  begun. -/
  opens : ∀ s : Session, s.screen = .home →
    (s.navigate (Route.ofAddress path)).look built
      = ⟨.model (.opened built name.text) (some name.text), s.visit + 1,
          s.asked ++ [⟨s.visit + 1, 0, name, requestUrl built name, none⟩]⟩
  /-- Whatever happens on it, as long as its route stays. -/
  asksFor : ∀ events : List ModelPage.Event,
    (∀ parameter, .route parameter ∈ events → decoded parameter = name.text) →
      AsksFor built name events ((ModelPage.opened built name.text).afterAll built events)

/-- What pressing the button does with a text that was typed. -/
structure OpensTyped (built : Option String) (h : Home) (text : String) (pressed : Home) :
    Prop where
  trimmed : Text.IsTrimmed text (Text.trim text)
  refused_iff : (∃ reason, Html.errorPanel reason ∈ pressed.html.children) ↔
    isModelName (Text.trim text) = false
  stays_iff : pressed.navigated = h.navigated ↔ isModelName (Text.trim text) = false
  error : isModelName (Text.trim text) = false →
    Html.errorPanel (Failure.invalidModelName (Text.trim text)).message ∈ pressed.html.children
  reaches : ∀ name : ModelName, name.text = Text.trim text →
    pressed.navigated = h.navigated ++ ["/models/" ++ Text.trim text] ∧
      Reaches built ("/models/" ++ Text.trim text) name

theorem reaches_modelPath (built : Option String) (name : ModelName) :
    Reaches built (modelPath name.text) name where
  route := ofAddress_modelPath name
  opens s home := by
    have routeName : (ModelPage.mounted name.text).routeName = name.text := decoded_name name
    have begun : Session.begun? built (s.visit + 1) (.mounted name.text)
        = some ⟨s.visit + 1, 0, name, requestUrl built name, none⟩ := by
      rw [Session.begun?, routeName, ModelPage.mounted, onRouteName_initial]
      rfl
    have opened : s.navigate (.model name.text)
        = { s with screen := .model (.mounted name.text) none, visit := s.visit + 1 } := by
      rw [Session.navigate, home]
    rw [ofAddress_modelPath, opened, Session.look]
    dsimp only
    rw [begun, routeName]
    rfl
  asksFor events routes := by
    have stays : ((ModelPage.opened built name.text).afterAll built events).StaysOn name
        ((requestUrl built name).toOption.map fun url => (⟨1, name⟩, url)).toList
        (FetchFails built name events) :=
      (ModelPage.staysOn_opened fun _ => Or.inl).afterAll events routes
        fun request reply mem reason outcome => Or.inr ⟨request, reply, mem, outcome⟩
    refine ⟨stays.routeName, stays.active, stays.generation, stays.sent, stays.told, ?_⟩
    intro raw shows
    obtain ⟨reason, failed, same⟩ := ModelPage.errorPanel_mem_html.mp shows
    have malformed : reason = (Failure.invalidModelName raw).message :=
      Html.eq_of_errorPanel_eq (Failure.message_invalidModelName_ne (by decide) raw)
        (Failure.message_invalidModelName_ne (by decide) raw) same
    rcases stays.told reason failed with none | ⟨request, reply, mem, outcome⟩
    · exact absurd (malformed ▸ none) (requestUrl_ne_invalidModelName raw)
    · exact ⟨request, reply, mem, malformed ▸ toldByBrowser_of_outcomeOf outcome malformed⟩

/-- Pressing the button shows the error line and goes nowhere when the trimmed text is no model
name, and otherwise shows none and goes to the page of that model, which asks for it. -/
theorem Home.opensTyped_press (built : Option String) (h : Home) (text : String) :
    OpensTyped built h text (h.type text).press := by
  cases valid : isModelName (Text.trim text) with
  | false =>
      have pressed : (h.type text).press = { h.type text with
          error := some (Failure.invalidModelName (Text.trim text)).message } :=
        press_of_other valid
      have shown : Html.errorPanel (Failure.invalidModelName (Text.trim text)).message
          ∈ (h.type text).press.html.children :=
        errorPanel_mem_html.mpr ⟨_, congrArg Home.error pressed, rfl⟩
      have stays : (h.type text).press.navigated = h.navigated := by rw [pressed, type]
      refine ⟨Text.isTrimmed_trim text, ⟨fun _ => valid, fun _ => ⟨_, shown⟩⟩,
        ⟨fun _ => valid, fun _ => stays⟩, fun _ => shown, ?_⟩
      intro name typed
      have isName := name.isName
      rw [typed, valid] at isName
      exact absurd isName Bool.false_ne_true
  | true =>
      have pressed : (h.type text).press = { h.type text with
          error := none, navigated := h.navigated ++ [modelPath (Text.trim text)] } :=
        press_of_name valid
      have goes : (h.type text).press.navigated = h.navigated ++ [modelPath (Text.trim text)] :=
        congrArg Home.navigated pressed
      have clear : (h.type text).press.error = none := congrArg Home.error pressed
      have no : isModelName (Text.trim text) ≠ false := by simp [valid]
      refine ⟨Text.isTrimmed_trim text, ⟨?_, fun other => absurd other no⟩,
        ⟨?_, fun other => absurd other no⟩, fun other => absurd other no, ?_⟩
      · rintro ⟨reason, mem⟩
        obtain ⟨shown, some, -⟩ := errorPanel_mem_html.mp mem
        exact absurd (clear.symm.trans some) nofun
      · intro stays
        exact absurd (goes.symm.trans stays) (by simp)
      · intro name typed
        exact ⟨goes, typed ▸ reaches_modelPath built name⟩

end EvaluationBrowser.Site
