import CredentialPolicy.Proofs.Generation.Attempts

/-!
What comes of a request for a password, exactly.

There are three outcomes, and the rule in force alone decides between the first two and the third: a
rule whose required characters do not fit is refused, a rule that cannot be met is refused, and for
every other rule candidates are drawn until one is acceptable or the attempts are used up. That a
refusal takes no word is told apart from an exhausted loop by a source that counts: each candidate
takes a word for each of its characters, and it has one at least (`Candidates.taken_state`).

No other failure remains. In the third case every draw gives a candidate, so the error of a draw
from an empty pool does not arise, and no length is drawn below the number of required characters.
-/

set_option autoImplicit false

namespace CredentialPolicy.Generation

open CredentialPolicy.Random

variable {σ : Type} [WordSource σ] {r : PasswordRule} {s : Metered σ}

/-! ## Refusals -/

/-- Each candidate takes a word at least. -/
theorem Candidates.taken_state (hforce : r.InForce) (hfit : requiredCount r ≤ count r.maxLength)
    (hmeetable : ¬ Unmeetable r) (c : Candidates (Plan.forRule r) s) (i : Nat) :
    s.taken + i ≤ (c.state i).taken := by
  have hpos := count_pos_iff.2 hforce.minLength_pos
  induction i with
  | zero =>
    rw [c.state_zero]
    exact Nat.le_refl _
  | succ i ih =>
    obtain ⟨hcandidate, ws, hws, hlen⟩ := c.candidate_text hforce hfit hmeetable i
    have hmin := hcandidate.minLength_le
    rw [taken_of_hands hws]
    omega

/-- A failure that takes no word is a refusal of the rule, and the other way round. -/
theorem compose_eq_error_iff (hforce : r.InForce) {maxAttempts : UInt32} {e : PolicyError} :
    compose maxAttempts r s = (.error e, s) ↔ Plan.ofRule r = .error e := by
  refine ⟨fun hrun => ?_, compose_of_error maxAttempts s⟩
  cases hplan : Plan.ofRule r with
  | error d =>
    rw [compose_of_error maxAttempts s hplan] at hrun
    rw [Except.error.inj (Prod.ext_iff.1 hrun).1]
  | ok p =>
    obtain ⟨hfit, hmeetable, rfl⟩ := ofRule_eq_ok hplan
    obtain ⟨c⟩ := nonempty_candidates hforce hfit hmeetable s
    rcases c.compose_cases hfit hmeetable maxAttempts with ⟨k, -, hpassword⟩ | hexhausted
    · rw [hpassword] at hrun
      cases (Prod.ext_iff.1 hrun).1
    · -- The loop ends where it started only if it took no word, but each attempt takes one.
      rw [hexhausted] at hrun
      have hstate : c.state (tries maxAttempts) = s := (Prod.ext_iff.1 hrun).2
      have htaken := c.taken_state hforce hfit hmeetable (tries maxAttempts)
      have hpos := tries_pos maxAttempts
      rw [hstate] at htaken
      omega

/-- A rule is refused for its capacity exactly if its required characters do not fit. -/
theorem ofRule_capacityExceeded_iff :
    (∃ e : PolicyError, e.category = .capacityExceeded ∧ Plan.ofRule r = .error e) ↔
      count r.maxLength < requiredCount r := by
  constructor
  · rintro ⟨e, hcategory, hplan⟩
    by_contra hfit
    rcases ofRule_cases (Nat.not_lt.1 hfit) with ⟨-, d, hd, hrefused⟩ | ⟨-, hok⟩
    · rw [hrefused] at hplan
      rw [← Except.error.inj hplan, hd] at hcategory
      contradiction
    · rw [hok] at hplan
      cases hplan
  · intro hlt
    exact ⟨_, rfl, ofRule_of_lt hlt⟩

/-- A rule is refused as a bad argument exactly if it fits and cannot be met. -/
theorem ofRule_invalidArgument_iff :
    (∃ e : PolicyError, e.category = .invalidArgument ∧ Plan.ofRule r = .error e) ↔
      requiredCount r ≤ count r.maxLength ∧ Unmeetable r := by
  constructor
  · rintro ⟨e, hcategory, hplan⟩
    rcases Nat.lt_or_ge (count r.maxLength) (requiredCount r) with hlt | hfit
    · rw [ofRule_of_lt hlt] at hplan
      rw [← Except.error.inj hplan] at hcategory
      contradiction
    · rcases ofRule_cases hfit with ⟨hunmeetable, -⟩ | ⟨-, hok⟩
      · exact ⟨hfit, hunmeetable⟩
      · rw [hok] at hplan
        cases hplan
  · rintro ⟨hfit, hunmeetable⟩
    rcases ofRule_cases hfit with ⟨-, hrefused⟩ | ⟨hmeetable, -⟩
    · exact hrefused
    · exact absurd hunmeetable hmeetable

/-! ## All outcomes -/

/-- **The outcome of a request**, for every rule, number of attempts and counting source. The first
two parts say when it is refused without a word taken. The last one follows the candidates, the
first of them drawn from the given state and each other one from the state before it: the first
acceptable one among the attempts is the password, and without one all attempts are used up. -/
theorem passwordForRule_outcome (maxAttempts : UInt32) (r : PasswordRule) (s : Metered σ) :
    let inForce := PasswordRule.mergeAll [r]
    ((∃ e, e.category = .capacityExceeded ∧ passwordForRule maxAttempts r s = (.error e, s)) ↔
        count inForce.maxLength < requiredCount inForce) ∧
      ((∃ e, e.category = .invalidArgument ∧ passwordForRule maxAttempts r s = (.error e, s)) ↔
        requiredCount inForce ≤ count inForce.maxLength ∧ Unmeetable inForce) ∧
      (requiredCount inForce ≤ count inForce.maxLength → ¬ Unmeetable inForce →
        ∃ plan, Plan.ofRule inForce = .ok plan ∧
          (∀ t : Metered σ, plan.required ≤ (lengthBetween plan.minLength plan.maxLength t).1) ∧
          ∃ c : Candidates plan s,
            (∀ k < tries maxAttempts, Accepts inForce (c.text k) →
              (∀ j < k, ¬ Accepts inForce (c.text j)) →
                passwordForRule maxAttempts r s =
                  (.ok (String.ofList (c.text k)), c.state (k + 1))) ∧
            ((∀ j < tries maxAttempts, ¬ Accepts inForce (c.text j)) →
              passwordForRule maxAttempts r s =
                (.error (.attemptsExhausted (tries maxAttempts)),
                  c.state (tries maxAttempts)))) := by
  intro inForce
  have hforce : inForce.InForce := PasswordRule.mergeAll_inForce [r]
  have hrefusal : ∀ e, passwordForRule maxAttempts r s = (.error e, s) ↔
      Plan.ofRule inForce = .error e := fun e => compose_eq_error_iff hforce
  refine ⟨?_, ?_, fun hfit hmeetable => ?_⟩
  · simp only [hrefusal]
    exact ofRule_capacityExceeded_iff
  · simp only [hrefusal]
    exact ofRule_invalidArgument_iff
  · -- The plan leaves nothing more to refuse, so the candidates decide.
    obtain ⟨c⟩ := nonempty_candidates hforce hfit hmeetable s
    refine ⟨Plan.forRule inForce, ofRule_eq_forRule hfit hmeetable, fun t => ?_, c, ?_, ?_⟩
    · exact ((yields_length hfit hmeetable hforce).result t).1.2.2
    · intro k hk haccepted hbefore
      exact c.compose_of_accepted hfit hmeetable hk haccepted hbefore
    · exact c.compose_of_rejected hfit hmeetable

end CredentialPolicy.Generation
