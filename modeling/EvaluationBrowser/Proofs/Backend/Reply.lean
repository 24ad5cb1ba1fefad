/-
# The settings that a reply brings

The client and the browser read replies each in its own way, and they word failures differently.
Both get settings from the same replies: those with a status of success and a body that decodes to
settings of which each keeps the rules.
-/
import EvaluationBrowser.Proofs.Checks
import EvaluationBrowser.Proofs.Setting.Verdict
import EvaluationBrowser.Site.Request

namespace EvaluationBrowser

/-- A reply that brings settings: it succeeds, and its body decodes to settings that are sound. -/
def Reply.Brings (reply : Reply) (settings : List Setting) : Prop :=
  ∃ status body, reply = .answered status (.ok body) ∧ 200 ≤ status ∧ status ≤ 299 ∧
    Setting.decodeAll body = .ok settings ∧ ∀ s ∈ settings, s.IsSound

variable {reply : Reply} {settings : List Setting}

theorem Reply.settings_eq_ok_iff : reply.settings = .ok settings ↔ reply.Brings settings := by
  constructor
  · intro read
    cases reply with
    | unsent reason => cases read
    | answered status body =>
        simp only [Reply.settings] at read
        split at read
        · next success =>
          cases body with
          | error reason => cases read
          | ok text =>
              simp only [isSuccess, Bool.and_eq_true, decide_eq_true_eq] at success
              obtain ⟨decoded, sound⟩ := Setting.parseAll_eq_ok_iff_isSound.mp read
              exact ⟨status, text, rfl, success.1, success.2, decoded, sound⟩
        · cases read
  · rintro ⟨status, body, rfl, least, most, decoded, sound⟩
    have success : isSuccess status = true := by simp [isSuccess, least, most]
    simp only [Reply.settings]
    rw [if_pos success]
    exact Setting.parseAll_eq_ok_iff_isSound.mpr ⟨decoded, sound⟩

theorem Site.outcomeOf_eq_ok_iff : outcomeOf reply = .ok settings ↔ reply.Brings settings := by
  rw [← Reply.settings_eq_ok_iff]
  cases reply with
  | unsent reason => simp [outcomeOf, Reply.settings]
  | answered status body =>
      simp only [outcomeOf, Reply.settings]
      split
      · cases body with
        | error reason => simp
        | ok text => exact mapError_eq_ok_iff
      · simp

/-- What does not bring settings is a failure. -/
theorem Site.exists_outcomeOf_eq_error_iff :
    (∃ reason, outcomeOf reply = .error reason) ↔ ∀ settings, ¬ reply.Brings settings := by
  simp only [← outcomeOf_eq_ok_iff]
  cases outcomeOf reply with
  | ok settings => simp
  | error reason => simp

end EvaluationBrowser
