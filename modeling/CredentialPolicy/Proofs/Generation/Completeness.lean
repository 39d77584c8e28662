import CredentialPolicy.Proofs.Generation.Attempts

/-!
Every password that honours a rule can be generated.

A text that can be split into what a rule in force requires is drawn for some words
(`exists_answers_draw`): the words that give its length, then those that give the characters of each
part, then those that shuffle the parts into the text. If it is also acceptable, the first attempt
ends with it. The words do not depend on the source: whatever hands them out draws that text.
-/

set_option autoImplicit false

namespace CredentialPolicy.Generation

open CredentialPolicy.Random

/-- **Every acceptable candidate is a password.** An acceptable text of an allowed length that can
be split shows that its rule has a plan, and there are words for which the first draw of that plan
gives the text, which is then the password of every number of attempts. A source that starts with
these words exists. -/
theorem exists_words_of_candidate {r : PasswordRule} {p : String}
    (hcandidate : Candidate (PasswordRule.mergeAll [r]) p.toList)
    (haccepts : Accepts (PasswordRule.mergeAll [r]) p.toList) :
    ∃ plan, Plan.ofRule (PasswordRule.mergeAll [r]) = .ok plan ∧
      ∃ ws : List UInt32,
        (∀ {σ : Type} [WordSource σ] (s t : σ), Hands s ws t →
          plan.draw s = (.ok p.toList, t) ∧
            ∀ maxAttempts, passwordForRule maxAttempts r s = (.ok p, t)) ∧
        ∀ maxAttempts, (passwordForRule maxAttempts r (CyclicWords.ofList ws)).1 = .ok p := by
  obtain ⟨hfit, hmeetable⟩ := hcandidate.meetable
  refine ⟨_, ofRule_eq_forRule hfit hmeetable, ?_⟩
  obtain ⟨ws, hws⟩ := exists_words_compose hcandidate haccepts
  rw [String.ofList_toList] at hws
  refine ⟨ws, hws, fun maxAttempts => ?_⟩
  obtain ⟨t, ht⟩ := exists_hands_cyclicWords ws
  have hrun : passwordForRule maxAttempts r (CyclicWords.ofList ws) = (.ok p, t) :=
    (hws _ t ht).2 maxAttempts
  rw [hrun]

/-- A rule whose special characters include letters and a digit, and that leaves few other
characters. -/
def narrowRule : PasswordRule where
  minLength := 3
  maxLength := 9
  letters := 1
  uppercase := 1
  lowercase := 1
  digits := 1
  specials := 2
  specialChars := .ofList "Σ!7aé".toList
  illegalChars := .ofList "bcdefXYZ!0123".toList
  repeatSame := 2
  forbiddenWords := .ofList ["éé", "Pass"]

/-- A text as long as the rule allows, with three characters to fill it. -/
def narrowSplit : Split (PasswordRule.mergeAll [narrowRule]) "aQ7éaaΣKq".toList where
  part := partsOf ['K'] ['q'] ['a'] ['7'] ['é', 'Σ'] ['Q', 'a', 'a']
  perm := by decide +kernel
  admitted i := by
    have hall : (partsOf ['K'] ['q'] ['a'] ['7'] ['é', 'Σ'] ['Q', 'a', 'a'] i).all
        (fun c => Admits (PasswordRule.mergeAll [narrowRule]) i c) = true := by
      cases i <;> decide +kernel
    simpa only [List.all_eq_true, decide_eq_true_eq] using hall
  length_part i hi := by cases i <;> first | exact absurd rfl hi | decide +kernel

theorem exists_words_narrowRule :
    Candidate (PasswordRule.mergeAll [narrowRule]) "aQ7éaaΣKq".toList ∧
      Accepts (PasswordRule.mergeAll [narrowRule]) "aQ7éaaΣKq".toList ∧
      ∃ ws : List UInt32, ∀ maxAttempts,
        (passwordForRule maxAttempts narrowRule (CyclicWords.ofList ws)).1 = .ok "aQ7éaaΣKq" := by
  have hcandidate : Candidate (PasswordRule.mergeAll [narrowRule]) "aQ7éaaΣKq".toList :=
    ⟨⟨narrowSplit⟩, by decide +kernel, by decide +kernel⟩
  have haccepts : Accepts (PasswordRule.mergeAll [narrowRule]) "aQ7éaaΣKq".toList :=
    rejection?_eq_none_iff.1 (by decide +kernel)
  obtain ⟨_, -, ws, -, hws⟩ := exists_words_of_candidate hcandidate haccepts
  exact ⟨hcandidate, haccepts, ws, hws⟩

end CredentialPolicy.Generation
