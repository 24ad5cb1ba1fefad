/-
# A run shows one whole page or nothing

A run of the settings command stops at the first thing that is wrong, and there are eight of these:
the address, the name, the sort, the filter, a column to hide, sending the request, the status of
the reply, and its body. It can end in four ways only, since the first five come before the request
and the rest after it, and it is in the two ways after it that something was asked. What is printed
is made in the last of the four, where nothing can go wrong any more.
-/
import EvaluationBrowser.Proofs.Backend.Host
import EvaluationBrowser.Proofs.Backend.Reply
import EvaluationBrowser.Proofs.CommandLine.Query

namespace EvaluationBrowser

namespace CommandLine

variable {given environment : Option String} {query : Query} {transport : Transport} {o : Outcome}

/-! ## The address in effect -/

/-- An address on the command line wins over one in the environment, and that over the default. -/
def addressInEffect (given environment : Option String) : String :=
  (given.or environment).getD Backend.default.stored

/-- Once it is trimmed the address begins with a scheme. -/
def IsAddress (address : String) : Prop :=
  ∃ scheme ∈ Backend.schemes, scheme <+: (Text.trim address).toList

theorem backendOf_eq_ok_iff {b : Backend} :
    backendOf given environment = .ok b ↔
      IsAddress (addressInEffect given environment) ∧
        b = ⟨Text.trim (addressInEffect given environment)⟩ := by
  cases given with
  | some url => exact Backend.ofString_eq_ok_iff
  | none =>
      cases environment with
      | some url => exact Backend.ofString_eq_ok_iff
      | none =>
          have same : Backend.ofString Backend.default.stored = .ok Backend.default := by
            decide +kernel
          have default : backendOf none none = Backend.ofString Backend.default.stored := same.symm
          rw [default]
          exact Backend.ofString_eq_ok_iff

/-- Where the settings are that are asked for. -/
def settingsAddress (given environment : Option String) (query : Query) : String :=
  Text.dropTrailingSlashes (Text.trim (addressInEffect given environment)) ++ "/models/" ++
    query.model ++ "/evaluation-settings"

theorem requests_settings {b : Backend} {name : ModelName}
    (address : backendOf given environment = .ok b) (named : query.model = name.text) :
    (Client.ofBackend b).settings transport name
      = ⟨[settingsAddress given environment query],
          (transport (settingsAddress given environment query)).settings⟩ := by
  obtain ⟨-, rfl⟩ := backendOf_eq_ok_iff.mp address
  have url : Backend.settingsUrl
      (Client.ofBackend ⟨Text.trim (addressInEffect given environment)⟩).base name
        = settingsAddress given environment query := by
    simp [Backend.settingsUrl, Client.ofBackend, Client.ofBase, Backend.base, settingsAddress,
      named]
  rw [Client.settings, url]

/-! ## How a run ends -/

/-- The ways in which a run of the settings command ends. -/
inductive Ends (given environment : Option String) (query : Query) (transport : Transport) :
    Outcome → Prop
  | noAddress {fault : AddressFault} : backendOf given environment = .error fault →
      Ends given environment query transport (.failure (.failed (.address fault)) [])
  | refused {b : Backend} {fault : RunFault} : backendOf given environment = .ok b →
      query.prepare = .error fault → Ends given environment query transport (.failure fault [])
  | notFetched {b : Backend} {name : ModelName} {s : Grid.State} {failure : Failure} :
      backendOf given environment = .ok b → query.prepare = .ok (name, s) →
      (transport (settingsAddress given environment query)).settings = .error failure →
      Ends given environment query transport
        (.failure (.notFetched name failure) [settingsAddress given environment query])
  | shown {b : Backend} {name : ModelName} {s : Grid.State} {settings : List Setting} :
      backendOf given environment = .ok b → query.prepare = .ok (name, s) →
      (transport (settingsAddress given environment query)).settings = .ok settings →
      Ends given environment query transport
        (.success (CommandLine.shown query name s settings)
          [settingsAddress given environment query])

theorem ends_run (given environment : Option String) (query : Query) (transport : Transport) :
    Ends given environment query transport
      (Invocation.run ⟨given, .settings query⟩ environment transport) := by
  rw [Invocation.run]
  cases address : backendOf given environment with
  | error fault => exact .noAddress address
  | ok b =>
      dsimp only
      rw [runSettings]
      cases prepared : query.prepare with
      | error fault => exact .refused address prepared
      | ok result =>
          obtain ⟨name, s⟩ := result
          dsimp only
          rw [requests_settings address (prepare_eq_ok_iff.mp prepared).1]
          dsimp only
          cases reply : (transport (settingsAddress given environment query)).settings with
          | error failure => exact .notFetched address prepared reply
          | ok settings => exact .shown address prepared reply

theorem Ends.asks_iff (ends : Ends given environment query transport o) :
    o.requests ≠ [] ↔ IsAddress (addressInEffect given environment) ∧ query.IsAccepted := by
  cases ends with
  | noAddress refused =>
      refine iff_of_false (by simp [Outcome.failure]) ?_
      rintro ⟨isAddress, -⟩
      rw [backendOf_eq_ok_iff.mpr ⟨isAddress, rfl⟩] at refused
      cases refused
  | refused _ refused =>
      refine iff_of_false (by simp [Outcome.failure]) ?_
      rintro ⟨-, accepted⟩
      obtain ⟨name, s, prepared⟩ := exists_prepare_iff.mpr accepted
      rw [prepared] at refused
      cases refused
  | notFetched address prepared _ =>
      refine iff_of_true (by simp [Outcome.failure]) ⟨(backendOf_eq_ok_iff.mp address).1, ?_⟩
      exact exists_prepare_iff.mp ⟨_, _, prepared⟩
  | shown address prepared _ =>
      refine iff_of_true (by simp [Outcome.success]) ⟨(backendOf_eq_ok_iff.mp address).1, ?_⟩
      exact exists_prepare_iff.mp ⟨_, _, prepared⟩

theorem Ends.asks_once (ends : Ends given environment query transport o) (asks : o.requests ≠ []) :
    o.requests = [settingsAddress given environment query] := by
  cases ends with
  | noAddress => exact absurd rfl asks
  | refused => exact absurd rfl asks
  | notFetched => rfl
  | shown => rfl

theorem Ends.success_iff (ends : Ends given environment query transport o) :
    o.exitCode = 0 ↔ o.requests ≠ [] ∧
      ∃ settings, (transport (settingsAddress given environment query)).Brings settings := by
  simp only [← Reply.settings_eq_ok_iff]
  cases ends with
  | noAddress => simp [Outcome.failure]
  | refused => simp [Outcome.failure]
  | notFetched _ _ failed => simp [Outcome.failure, failed]
  | shown _ _ read => simp [Outcome.success, read]

theorem Ends.page (ends : Ends given environment query transport o) (asks : o.requests ≠ [])
    {settings : List Setting}
    (brings : (transport (settingsAddress given environment query)).Brings settings) :
    ∃ name s, query.model = name.text ∧
      gridState query.sort query.isDescending query.filter query.hidden = .ok s ∧
      o.errors = "" ∧ o.output = CommandLine.shown query name s settings := by
  rw [← Reply.settings_eq_ok_iff] at brings
  cases ends with
  | noAddress => exact absurd rfl asks
  | refused => exact absurd rfl asks
  | notFetched _ _ failed =>
      rw [failed] at brings
      cases brings
  | @shown _ name s _ _ prepared read =>
      rw [read] at brings
      cases brings
      obtain ⟨named, set⟩ := prepare_eq_ok_iff.mp prepared
      exact ⟨name, s, named, set, rfl, rfl⟩

theorem Ends.nothing (ends : Ends given environment query transport o) (failed : o.exitCode ≠ 0) :
    o.exitCode = 1 ∧ o.output = "" ∧ ∃ fault : RunFault, o.errors = fault.report := by
  cases ends with
  | noAddress => exact ⟨rfl, rfl, _, rfl⟩
  | refused => exact ⟨rfl, rfl, _, rfl⟩
  | notFetched => exact ⟨rfl, rfl, _, rfl⟩
  | shown => exact absurd rfl failed

/-- A run asks its transport what it lists and nothing else. -/
theorem run_congr {other : Transport}
    (same : ∀ url ∈ (Invocation.run ⟨given, .settings query⟩ environment transport).requests,
      other url = transport url) :
    Invocation.run ⟨given, .settings query⟩ environment other
      = Invocation.run ⟨given, .settings query⟩ environment transport := by
  rw [Invocation.run] at same
  rw [Invocation.run, Invocation.run]
  cases address : backendOf given environment with
  | error fault => rfl
  | ok b =>
      rw [address] at same
      dsimp only at same ⊢
      rw [runSettings] at same
      rw [runSettings, runSettings]
      cases prepared : query.prepare with
      | error fault => rfl
      | ok result =>
          obtain ⟨name, s⟩ := result
          rw [prepared] at same
          dsimp only at same ⊢
          have named := (prepare_eq_ok_iff.mp prepared).1
          rw [requests_settings address named] at same
          rw [requests_settings address named, requests_settings address named]
          dsimp only at same ⊢
          have reply : other (settingsAddress given environment query)
              = transport (settingsAddress given environment query) := by
            refine same _ ?_
            cases (transport (settingsAddress given environment query)).settings with
            | error failure => exact List.mem_singleton_self _
            | ok settings => exact List.mem_singleton_self _
          rw [reply]

/-! ## The theorem -/

/-- A run asks once or never, and it shows one whole page or fails and shows nothing. -/
structure ShowsPageOrNothing (given environment : Option String) (query : Query)
    (run : Transport → Outcome) (transport : Transport) : Prop where
  /-- Something is asked iff all is accepted that can be checked before. -/
  asks_iff : (run transport).requests ≠ [] ↔
    IsAddress (addressInEffect given environment) ∧ query.IsAccepted
  asks_once : (run transport).requests ≠ [] →
    (run transport).requests = [settingsAddress given environment query]
  /-- What comes of the run depends on the replies to its requests and on no others. -/
  asks_all : ∀ other : Transport,
    (∀ url ∈ (run transport).requests, other url = transport url) → run other = run transport
  success_iff : (run transport).exitCode = 0 ↔ (run transport).requests ≠ [] ∧
    ∃ settings, (transport (settingsAddress given environment query)).Brings settings
  page : ∀ settings, (run transport).requests ≠ [] →
    (transport (settingsAddress given environment query)).Brings settings →
    (run transport).errors = "" ∧
      ∃ s, gridState query.sort query.isDescending query.filter query.hidden = .ok s ∧
        (run transport).output =
          match query.output with
          | .json => Report.json (pageOf s query.page settings) settings ++ "\n"
          | .csv => Report.csv (pageOf s query.page settings)
          | .table =>
            "\nEvaluation settings for " ++ query.model ++ ":\n"
              ++ Report.table (pageOf s query.page settings) ++ "\n"
  nothing : (run transport).exitCode ≠ 0 →
    (run transport).exitCode = 1 ∧ (run transport).output = "" ∧
      ∃ fault : RunFault, (run transport).errors = fault.report

/-- Whatever the settings command is properly asked for, and whatever comes back: a request is made
iff address, model and options are accepted, and then one; and the run ends with one whole page on
standard output, or with a failure and nothing there. -/
theorem showsPageOrNothing_run {arguments : List String} {given : Option String} {query : Query}
    (read : Invocation.ofArguments arguments = .ok ⟨given, .settings query⟩)
    (environment : Option String) (transport : Transport) :
    ShowsPageOrNothing given environment query (run arguments environment) transport := by
  have invoked :
      run arguments environment = Invocation.run ⟨given, .settings query⟩ environment := by
    funext transport
    rw [run, read]
  have ends := ends_run given environment query transport
  rw [invoked]
  refine { asks_iff := ends.asks_iff, asks_once := ends.asks_once, success_iff := ends.success_iff,
           nothing := ends.nothing, asks_all := fun other same => run_congr same, page := ?_ }
  intro settings asks brings
  obtain ⟨name, s, named, set, errors, output⟩ := ends.page asks brings
  refine ⟨errors, s, set, ?_⟩
  rw [output, named]
  rfl

/-- An address with blanks and slashes around it, a filter that holds a second equals sign, and a
column that is hidden twice. -/
theorem showsPageOrNothing_run_of_repeats :
    let arguments := ["--backend-url", " https://a// ", "settings", "m", "-s", "min_area", "--desc",
      "-f=dataset_name=a=b", "--hide", "max_area", "--hide=max_area", "-p", "0", "-o", "csv"]
    let query : Query := ⟨"m", 0, some "min_area", true, some "dataset_name=a=b",
      ["max_area", "max_area"], .csv⟩
    let transport : Transport := fun _ => .answered 200 (.ok "[[7, null, \"a=b\", \"\", \"\"]]")
    Invocation.ofArguments arguments = .ok ⟨some " https://a// ", .settings query⟩ ∧
      ShowsPageOrNothing (some " https://a// ") none query (run arguments none) transport := by
  intro arguments query transport
  have read : Invocation.ofArguments arguments = .ok ⟨some " https://a// ", .settings query⟩ := by
    decide +kernel
  exact ⟨read, showsPageOrNothing_run read none transport⟩

end CommandLine
end EvaluationBrowser
