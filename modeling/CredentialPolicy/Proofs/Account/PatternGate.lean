import CredentialPolicy.Proofs.Account.Gates
import Mathlib.Data.List.Basic

/-!
The pattern gate matches whole usernames.

Whether a verdict blames the pattern is told from the verdict alone, because no other gate reports
what the pattern gate reports (`eq_pattern_of_check`). So everything about the gate is a question of
what the wrapped pattern matches. Wrapping can go wrong in two ways, and either way a username is
refused that the pattern accepts: an optional part can be lost when it is a repetition itself, and
the wrapped pattern can be too deep or too big.
-/

set_option autoImplicit false

namespace CredentialPolicy

open Pattern (meaning? isWordChar)

variable {r : AccountRule} {user : UserSnapshot} {err : PolicyError} {p : String}

/-- A verdict does not blame a pattern. -/
def PassesPattern (pattern : String) (verdict : Except PolicyError Unit) : Prop :=
  verdict ≠ .error .malformedPattern ∧ verdict ≠ .error (.violation (.patternMismatch pattern))

namespace AccountEvaluator

/-- Once the gates in front are passed, what the pattern gate reports is the verdict. -/
theorem enforce_of_check_pattern (hbefore : ∀ g ∈ Gate.beforePattern, g.Holds r user)
    (h : Gate.pattern.check r user = some err) :
    (AccountEvaluator.mk (some r)).enforce user = .error err := by
  refine enforce_eq_error_iff_check.2
    ⟨Gate.beforePattern, .pattern, Gate.afterPattern, rfl, h, fun b hb => ?_⟩
  have hb' : b ≠ .pattern := by
    rintro rfl
    exact absurd hb (by decide)
  exact (Gate.check_eq_none_iff fun h => absurd h hb').2 (hbefore b hb)

/-- Only the pattern gate blames the pattern. -/
theorem eq_pattern_of_check {g : Gate} (h : g.check r user = some err)
    (herr : err = .malformedPattern ∨ err = .violation (.patternMismatch p)) : g = .pattern := by
  by_cases hg : g = .pattern
  · exact hg
  · have hrefuses := (Gate.check_eq_some_iff fun h => absurd h hg).1 h
    rcases herr with rfl | rfl
    · cases hrefuses
      rfl
    · cases hrefuses
      rfl

/-- If the pattern gate reports nothing, the verdict does not blame the pattern, whatever else it
says. -/
theorem passesPattern_of_check (h : Gate.pattern.check r user = none) :
    PassesPattern p ((AccountEvaluator.mk (some r)).enforce user) := by
  have hother : ∀ err, err = .malformedPattern ∨ err = .violation (.patternMismatch p) →
      (AccountEvaluator.mk (some r)).enforce user ≠ .error err := by
    intro err herr henforce
    obtain ⟨_, g, _, -, hcheck, -⟩ := enforce_eq_error_iff_check.1 henforce
    obtain rfl := eq_pattern_of_check hcheck herr
    cases h.symm.trans hcheck
  exact ⟨hother _ (.inl rfl), hother _ (.inr rfl)⟩

/-- Names of lowercase letters, with digits in pairs behind them. -/
def pairedDigits : AccountRule := { pattern := some "[a-z]+(?:[0-9]{2})*" }

end AccountEvaluator

end CredentialPolicy
