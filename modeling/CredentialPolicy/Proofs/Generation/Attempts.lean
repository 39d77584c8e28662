import CredentialPolicy.Proofs.Generation.Draw
import Mathlib.Data.Nat.Find

/-!
The attempts at a password, one after the other.

A plan that exists draws without failure from every state (`draw_succeeds`), so from a given state
it draws a whole sequence of candidates, each from the state that the one before it left
(`Candidates`). The loop over the attempts walks along that sequence, and a run of it is settled by
which members are acceptable:

* it stops behind the first acceptable one (`Candidates.firstAcceptable_of_accepted`);
* without one among the attempts it stops behind the last
  (`Candidates.firstAcceptable_of_rejected`).

What a composed password is like follows: it is an acceptable candidate (`candidate_of_compose`).
-/

set_option autoImplicit false

namespace CredentialPolicy.Generation

open CredentialPolicy.Random

variable {σ : Type} [WordSource σ] {α β : Type}

/-! ## One step of a drawing program -/

omit [WordSource σ] in
/-- A part that gives a result leaves its state to what follows. -/
theorem bind_of_ok {m : Draw σ α} {f : α → Draw σ β} {s t : σ} {a : α} (h : m s = (.ok a, t)) :
    (m >>= f : Draw σ β) s = f a t := by
  show (ExceptT.bindCont f (m s).1 : StateM σ (Except PolicyError β)) (m s).2 = f a t
  rw [h]
  rfl

omit [WordSource σ] in
/-- A part that fails ends the program. -/
theorem bind_of_error {m : Draw σ α} {f : α → Draw σ β} {s t : σ} {e : PolicyError}
    (h : m s = (.error e, t)) : (m >>= f : Draw σ β) s = (.error e, t) := by
  show (ExceptT.bindCont f (m s).1 : StateM σ (Except PolicyError β)) (m s).2 = (.error e, t)
  rw [h]
  rfl

/-- An accepted candidate ends the loop. -/
theorem firstAcceptable_succ_of_accepted {p : Plan} {s t : σ} {text : List Char} (n : Nat)
    (hdraw : p.draw s = (.ok text, t)) (haccepted : p.rejection? text = none) :
    p.firstAcceptable (n + 1) s = (.ok (some text), t) := by
  rw [Plan.firstAcceptable, bind_of_ok hdraw, haccepted]
  rfl

/-- A rejected candidate uses up one attempt, and the loop goes on from the state behind it. -/
theorem firstAcceptable_succ_of_rejected {p : Plan} {s t : σ} {text : List Char} (n : Nat)
    (hdraw : p.draw s = (.ok text, t)) (hrejected : p.rejection? text ≠ none) :
    p.firstAcceptable (n + 1) s = p.firstAcceptable n t := by
  obtain ⟨reason, hreason⟩ := Option.ne_none_iff_exists'.1 hrejected
  rw [Plan.firstAcceptable, bind_of_ok hdraw, hreason]

/-! ## The sequence of candidates -/

/-- The candidates that a plan draws one after the other, from a given state on. -/
structure Candidates (p : Plan) (s : σ) where
  /-- The candidates. -/
  text : Nat → List Char
  /-- The state from which each of them is drawn. -/
  state : Nat → σ
  /-- The first one is drawn from the given state. -/
  state_zero : state 0 = s
  /-- The others are drawn from what the one before them left. -/
  draw_state : ∀ i, p.draw (state i) = (.ok (text i), state (i + 1))

namespace Candidates

variable {p : Plan} {s : σ}

/-- The loop in the middle of the sequence. The induction is on the attempts that are left, so that
the acceptable candidate is met either now or later. -/
theorem firstAcceptable_state_of_accepted (c : Candidates p s) {i k n : Nat} (hik : i ≤ k)
    (hkn : k < i + n) (haccepted : p.rejection? (c.text k) = none)
    (hbefore : ∀ j < k, p.rejection? (c.text j) ≠ none) :
    p.firstAcceptable n (c.state i) = (.ok (some (c.text k)), c.state (k + 1)) := by
  induction n generalizing i with
  | zero => omega
  | succ n ih =>
    rcases Nat.eq_or_lt_of_le hik with rfl | hlt
    · exact firstAcceptable_succ_of_accepted n (c.draw_state i) haccepted
    · rw [firstAcceptable_succ_of_rejected n (c.draw_state i) (hbefore i hlt)]
      exact ih hlt (by omega)

/-- The loop from the middle of the sequence on, where all candidates within the attempts are
rejected. -/
theorem firstAcceptable_state_of_rejected (c : Candidates p s) {i n : Nat}
    (hrejected : ∀ j < i + n, p.rejection? (c.text j) ≠ none) :
    p.firstAcceptable n (c.state i) = (.ok none, c.state (i + n)) := by
  induction n generalizing i with
  | zero => rfl
  | succ n ih =>
    rw [firstAcceptable_succ_of_rejected n (c.draw_state i) (hrejected i (by omega))]
    have hmove : i + 1 + n = i + (n + 1) := by omega
    rw [ih (by rwa [hmove]), hmove]

/-- The loop gives the first acceptable candidate and stops behind it. -/
theorem firstAcceptable_of_accepted (c : Candidates p s) {k n : Nat} (hkn : k < n)
    (haccepted : p.rejection? (c.text k) = none)
    (hbefore : ∀ j < k, p.rejection? (c.text j) ≠ none) :
    p.firstAcceptable n s = (.ok (some (c.text k)), c.state (k + 1)) := by
  have h := c.firstAcceptable_state_of_accepted (i := 0) (n := n) (Nat.zero_le k) (by omega)
    haccepted hbefore
  rw [c.state_zero] at h
  exact h

/-- Without an acceptable candidate the loop stops behind the last one. -/
theorem firstAcceptable_of_rejected (c : Candidates p s) {n : Nat}
    (hrejected : ∀ j < n, p.rejection? (c.text j) ≠ none) :
    p.firstAcceptable n s = (.ok none, c.state n) := by
  have h := c.firstAcceptable_state_of_rejected (i := 0) (n := n) (by rwa [Nat.zero_add])
  rw [c.state_zero, Nat.zero_add] at h
  exact h

end Candidates

/-- The state that some draws leave, whether or not they succeed. -/
def Plan.stateAfter (p : Plan) (s : σ) : Nat → σ
  | 0 => s
  | i + 1 => (p.draw (p.stateAfter s i)).2

/-- The plan of a rule that can be met draws candidates forever. -/
theorem nonempty_candidates {r : PasswordRule} (hforce : r.InForce)
    (hfit : requiredCount r ≤ count r.maxLength) (hmeetable : ¬ Unmeetable r) (s : σ) :
    Nonempty (Candidates (Plan.forRule r) s) := by
  have hdraw : ∀ t : σ, ∃ text, ((Plan.forRule r).draw t).1 = .ok text := by
    intro t
    obtain ⟨text, u, -, hrun, -⟩ := (draw_succeeds hfit hmeetable hforce).run t
    exact ⟨text, (Prod.ext_iff.1 hrun).1⟩
  choose text htext using hdraw
  let state := (Plan.forRule r).stateAfter s
  exact ⟨⟨fun i => text (state i), state, rfl, fun i => Prod.ext (htext (state i)) rfl⟩⟩

/-! ## Composing a password -/

/-- The number of attempts for a given maximum: one at least. -/
def tries (maxAttempts : UInt32) : Nat := max maxAttempts.toNat 1

/-- An attempt is made even if none is allowed. -/
theorem tries_pos (maxAttempts : UInt32) : 0 < tries maxAttempts := by
  unfold tries
  omega

omit [WordSource σ] in
/-- A result that needs no words leaves the state as it is. -/
theorem liftM_eq (x : Except PolicyError α) (s : σ) : (liftM x : Draw σ α) s = (x, s) := rfl

/-- A rule without a plan is refused before anything is drawn. -/
theorem compose_of_error {r : PasswordRule} {e : PolicyError} (maxAttempts : UInt32) (s : σ)
    (hplan : Plan.ofRule r = .error e) : compose maxAttempts r s = (.error e, s) := by
  have hlift := liftM_eq (Plan.ofRule r) s
  rw [hplan] at hlift
  unfold compose
  rw [hplan]
  exact bind_of_error hlift

/-- With a plan the result is that of the loop over the attempts. -/
theorem compose_of_ok {r : PasswordRule} {p : Plan} {found : Option (List Char)}
    {maxAttempts : UInt32} {s t : σ} (hplan : Plan.ofRule r = .ok p)
    (hloop : p.firstAcceptable (tries maxAttempts) s = (.ok found, t)) :
    compose maxAttempts r s =
      match found with
      | some text => (.ok (String.ofList text), t)
      | none => (.error (.attemptsExhausted (tries maxAttempts)), t) := by
  have hlift := liftM_eq (Plan.ofRule r) s
  rw [hplan] at hlift
  unfold compose
  rw [hplan, bind_of_ok hlift]
  refine (bind_of_ok hloop).trans ?_
  cases found with
  | none => rfl
  | some text => rfl

/-! ## What a composed password is -/

section

variable {r : PasswordRule} {s : σ} (hforce : r.InForce)
  (hfit : requiredCount r ≤ count r.maxLength) (hmeetable : ¬ Unmeetable r)

include hforce hfit hmeetable

/-- Each member of the sequence is a candidate, and drawing it takes a word for each of its
characters. -/
theorem Candidates.candidate_text (c : Candidates (Plan.forRule r) s) (i : Nat) :
    Candidate r (c.text i) ∧
      ∃ ws, Hands (c.state i) ws (c.state (i + 1)) ∧ (c.text i).length ≤ ws.length := by
  obtain ⟨text, t, ws, hrun, hws, hcandidate, hlen⟩ :=
    (draw_succeeds hfit hmeetable hforce).run (c.state i)
  rw [c.draw_state i] at hrun
  obtain ⟨htext, hstate⟩ := Prod.ext_iff.1 hrun
  obtain rfl : c.text i = text := Except.ok.inj htext
  obtain rfl : c.state (i + 1) = t := hstate
  exact ⟨hcandidate, ws, hws, hlen⟩

omit hforce in
/-- The first acceptable candidate is the password. -/
theorem Candidates.compose_of_accepted (c : Candidates (Plan.forRule r) s) {maxAttempts : UInt32}
    {k : Nat} (hk : k < tries maxAttempts) (haccepted : Accepts r (c.text k))
    (hbefore : ∀ j < k, ¬ Accepts r (c.text j)) :
    compose maxAttempts r s = (.ok (String.ofList (c.text k)), c.state (k + 1)) := by
  have hloop := c.firstAcceptable_of_accepted hk (rejection?_eq_none_iff.2 haccepted)
    fun j hj hnone => hbefore j hj (rejection?_eq_none_iff.1 hnone)
  exact compose_of_ok (ofRule_eq_forRule hfit hmeetable) hloop

omit hforce in
/-- Without an acceptable candidate the attempts are used up. -/
theorem Candidates.compose_of_rejected (c : Candidates (Plan.forRule r) s) {maxAttempts : UInt32}
    (hrejected : ∀ j < tries maxAttempts, ¬ Accepts r (c.text j)) :
    compose maxAttempts r s =
      (.error (.attemptsExhausted (tries maxAttempts)), c.state (tries maxAttempts)) := by
  have hloop := c.firstAcceptable_of_rejected (n := tries maxAttempts)
    fun j hj hnone => hrejected j hj (rejection?_eq_none_iff.1 hnone)
  exact compose_of_ok (ofRule_eq_forRule hfit hmeetable) hloop

omit hforce in
/-- One of the two happens. -/
theorem Candidates.compose_cases (c : Candidates (Plan.forRule r) s) (maxAttempts : UInt32) :
    (∃ k, Accepts r (c.text k) ∧
        compose maxAttempts r s = (.ok (String.ofList (c.text k)), c.state (k + 1))) ∨
      compose maxAttempts r s =
        (.error (.attemptsExhausted (tries maxAttempts)), c.state (tries maxAttempts)) := by
  classical
  by_cases hexists : ∃ k, k < tries maxAttempts ∧ Accepts r (c.text k)
  · obtain ⟨hk, haccepted⟩ := Nat.find_spec hexists
    refine Or.inl ⟨Nat.find hexists, haccepted, ?_⟩
    refine c.compose_of_accepted hfit hmeetable hk haccepted fun j hj hearlier => ?_
    -- An earlier acceptable candidate would be among the attempts as well.
    exact Nat.find_min hexists hj ⟨by omega, hearlier⟩
  · refine Or.inr (c.compose_of_rejected hfit hmeetable fun j hj haccepted => ?_)
    exact hexists ⟨j, hj, haccepted⟩

end

/-- **A password is an acceptable candidate.** -/
theorem candidate_of_compose {r : PasswordRule} {maxAttempts : UInt32} {s : σ} {p : String}
    (hforce : r.InForce) (h : (compose maxAttempts r s).1 = .ok p) :
    Candidate r p.toList ∧ Accepts r p.toList := by
  cases hplan : Plan.ofRule r with
  | error e =>
    rw [compose_of_error maxAttempts s hplan] at h
    cases h
  | ok plan =>
    -- With a plan there are candidates, and the run ends with one of them or without any.
    obtain ⟨hfit, hmeetable, -⟩ := ofRule_eq_ok hplan
    obtain ⟨c⟩ := nonempty_candidates hforce hfit hmeetable s
    rcases c.compose_cases hfit hmeetable maxAttempts with ⟨k, haccepted, hrun⟩ | hrun
    · rw [hrun] at h
      obtain rfl : String.ofList (c.text k) = p := Except.ok.inj h
      rw [String.toList_ofList]
      exact ⟨(c.candidate_text hforce hfit hmeetable k).1, haccepted⟩
    · rw [hrun] at h
      cases h

/-- **An acceptable candidate is a password.** For some words the first draw gives it, and then it
is the password of every number of attempts. -/
theorem exists_words_compose {r : PasswordRule} {text : List Char} (hcandidate : Candidate r text)
    (haccepts : Accepts r text) :
    ∃ ws, ∀ {σ : Type} [WordSource σ] (s t : σ), Hands s ws t →
      (Plan.forRule r).draw s = (.ok text, t) ∧
        ∀ maxAttempts, compose maxAttempts r s = (.ok (String.ofList text), t) := by
  obtain ⟨hfit, hmeetable⟩ := hcandidate.meetable
  obtain ⟨ws, hws⟩ := exists_answers_draw hcandidate
  refine ⟨ws, fun {σ} _ s t h => ?_⟩
  have hdraw : (Plan.forRule r).draw s = (.ok text, t) := hws s t h
  refine ⟨hdraw, fun maxAttempts => ?_⟩
  obtain ⟨n, hn⟩ := Nat.exists_eq_add_one_of_ne_zero (Nat.ne_of_gt (tries_pos maxAttempts))
  have hloop := firstAcceptable_succ_of_accepted n hdraw (rejection?_eq_none_iff.2 haccepts)
  rw [← hn] at hloop
  exact compose_of_ok (ofRule_eq_forRule hfit hmeetable) hloop

end CredentialPolicy.Generation
