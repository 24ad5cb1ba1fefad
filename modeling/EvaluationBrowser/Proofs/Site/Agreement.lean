/-
# The browser and the client ask alike

Both make an address of the same text and read a reply by the same rules, but neither calls the
other. The client drops the slashes at the end of the address three times, once when it takes the
base of the backend, once when it keeps that base and once when it builds on it; the browser does
not keep it and drops them twice. That makes no difference, since dropping them again drops nothing.

As to failures, the browser has texts where the client has causes. The texts are the messages of the
causes, but for a request that could not be sent or a body that could not be read: there the browser
says what it was told as it stands, and the client puts a word in front. So they agree on every
reply that is delivered.
-/
import EvaluationBrowser.Proofs.Checks
import EvaluationBrowser.Proofs.Text.Ends
import EvaluationBrowser.Site.Request

namespace EvaluationBrowser

/-- What a client gets from the backend at an address, which may not be given. -/
def Client.ask (given : Option String) (transport : Transport) (name : ModelName) :
    Exchange (List Setting) :=
  match Backend.ofOption given with
  | .error fault => ⟨[], .error (.address fault)⟩
  | .ok backend => (ofBackend backend).settings transport name

/-- Whatever is asked, a status and a text come back. -/
def Transport.delivering (reply : String → Nat × String) : Transport :=
  fun url => .answered (reply url).1 (.ok (reply url).2)

namespace Site

/-- A fetch of the browser and an exchange of the client come to the same. -/
structure Agree (fetch : List String × Except String (List Setting))
    (exchange : Exchange (List Setting)) : Prop where
  requests : fetch.1 = exchange.requests
  settings : ∀ settings, fetch.2 = .ok settings ↔ exchange.outcome = .ok settings
  failures : ∀ reason, fetch.2 = .error reason ↔
    ∃ failure, exchange.outcome = .error failure ∧ failure.message = reason

theorem agree_of_mapError {fetch : List String × Except String (List Setting)}
    {exchange : Exchange (List Setting)} (requests : fetch.1 = exchange.requests)
    (outcome : fetch.2 = exchange.outcome.mapError Failure.message) : Agree fetch exchange := by
  refine ⟨requests, ?_, ?_⟩
  · intro settings
    rw [outcome]
    exact mapError_eq_ok_iff
  · intro reason
    rw [outcome]
    exact mapError_eq_error_iff

/-- The third time that slashes are dropped leaves the address as it is. -/
theorem settingsUrl_ofBackend (b : Backend) (name : ModelName) :
    Backend.settingsUrl (Client.ofBackend b).base name = Backend.settingsUrl b.base name := by
  have kept : (Client.ofBackend b).base = b.base := by
    simp [Client.ofBackend, Client.ofBase, Backend.base]
  rw [kept]

/-- A reply that is delivered fails with the message of the client's cause. -/
theorem outcomeOf_answered (status : Nat) (body : String) :
    outcomeOf (.answered status (.ok body))
      = (Reply.settings (.answered status (.ok body))).mapError Failure.message := by
  simp only [outcomeOf, Reply.settings]
  split
  · rfl
  · rfl

/-- Of a given address, or none, and of whatever is delivered from there, the browser and the client
make the same: a refused address is asked nothing, any other is asked once for what stands under it,
and the settings, or the text of the failure, are the same. -/
theorem agree_of_delivering (given : Option String) (reply : String → Nat × String)
    (name : ModelName) :
    Agree (fetchSettings given (.delivering reply) name)
        (Client.ask given (.delivering reply) name) ∧
      (Client.ask given (.delivering reply) name).requests
        = (Backend.ofOption given).toOption.toList.map (Backend.settingsUrl ·.base name) := by
  rw [Client.ask, fetchSettings, requestUrl]
  cases Backend.ofOption given with
  | error fault => exact ⟨agree_of_mapError rfl rfl, rfl⟩
  | ok backend =>
      have url := settingsUrl_ofBackend backend name
      dsimp only [Client.settings]
      rw [url]
      exact ⟨agree_of_mapError rfl (outcomeOf_answered _ _), rfl⟩

end Site

end EvaluationBrowser
