import CredentialPolicy.Proofs.Generation.Attempts

/-!
A generated password honours its rule.

A password is a candidate (`candidate_of_compose`), so its characters can be dealt out to the
ingredients of the rule in force. Counting a class of characters is then counting it part by part
(`Split.countP_eq`): a part whose ingredient lies within the class counts in full, and one whose
ingredient avoids it counts nothing. What the rule requires of a class is a lower bound for this
reason, and the digits alone are exact: no other ingredient admits one.
-/

set_option autoImplicit false

namespace CredentialPolicy.Generation

open CredentialPolicy.Random

variable {σ : Type} [WordSource σ]

/-! ## Counting part by part -/

section

variable {r : PasswordRule} {text : List Char}

/-- Characters of any sort are counted part by part. -/
theorem Split.countP_eq (s : Split r text) (q : Char → Bool) :
    text.countP q = (s.part .uppercase).countP q + (s.part .lowercase).countP q +
      (s.part .letter).countP q + (s.part .digit).countP q + (s.part .special).countP q +
      (s.part .filler).countP q := by
  rw [s.perm.countP_eq]
  simp only [List.countP_append]

/-- An ingredient within a class counts in full. -/
theorem Split.countP_part_of_all (s : Split r text) {q : Char → Bool} {i : Ingredient}
    (hi : i ≠ .filler) (hall : ∀ c, Admits r i c → q c = true) :
    (s.part i).countP q = demand r i := by
  rw [← s.length_part i hi, List.countP_eq_length]
  intro c hc
  exact hall c (s.admitted i c hc)

/-- An ingredient that avoids a class counts nothing. -/
theorem Split.countP_part_of_none (s : Split r text) {q : Char → Bool} {i : Ingredient}
    (hnone : ∀ c, Admits r i c → ¬ q c = true) : (s.part i).countP q = 0 := by
  rw [List.countP_eq_zero]
  intro c hc
  exact hnone c (s.admitted i c hc)

/-- So a class has at least as many characters as are required of an ingredient within it. -/
theorem Split.demand_le_countP (s : Split r text) {q : Char → Bool} {i : Ingredient}
    (hi : i ≠ .filler) (hall : ∀ c, Admits r i c → q c = true) : demand r i ≤ text.countP q := by
  rw [s.countP_eq, ← s.countP_part_of_all hi hall]
  cases i <;> omega

/-- No letter is a digit. -/
theorem not_digit_of_isLetter {c : Char} (h : IsLetter c) :
    ¬ CharClass.digit.contains c = true := by
  intro hdigit
  rcases h with hletter | hletter
  · have := CharClass.eq_of_contains hdigit hletter
    contradiction
  · have := CharClass.eq_of_contains hdigit hletter
    contradiction

/-- The digits of a text with a split are those required, no more and no less. -/
theorem Split.countIn_digit (s : Split r text) :
    CharClass.digit.countIn text = demand r .digit := by
  have hletter : ∀ i, (∀ c, Admits r i c → IsLetter c) →
      (s.part i).countP CharClass.digit.contains = 0 :=
    fun i hi => s.countP_part_of_none fun c hc => not_digit_of_isLetter (hi c hc)
  -- Letters are no digits, and special characters were kept from being digits.
  rw [CharClass.countIn, s.countP_eq, hletter .uppercase fun c hc => Or.inr hc.1,
    hletter .lowercase fun c hc => Or.inl hc.1, hletter .letter fun c hc => hc.1,
    hletter .filler fun c hc => hc.1,
    s.countP_part_of_none (i := .special) fun c hc => hc.2.2,
    s.countP_part_of_all (i := .digit) (by decide) fun c hc => hc.1]
  omega

end

/-! ## Honouring a rule -/

/-- What a rule in force promises of a text, each promise in terms of the text alone. -/
structure Honours (r : PasswordRule) (text : List Char) : Prop extends Accepts r text where
  minLength_le : max (count r.minLength) (requiredCount r) ≤ text.length
  length_le : text.length ≤ count r.maxLength
  digits : CharClass.digit.countIn text = count r.digits
  uppercase : count r.uppercase ≤ CharClass.uppercase.countIn text
  lowercase : count r.lowercase ≤ CharClass.lowercase.countIn text
  letters : count r.letters + count r.uppercase + count r.lowercase ≤ text.countP (IsLetter ·)
  specials : count r.specials ≤ text.countP (· ∈ r.specialChars)
  drawn : ∀ c ∈ text, IsLetter c ∨ CharClass.digit.contains c = true ∨ c ∈ r.specialChars
  legal : ∀ c ∈ text, ¬ c ∈ r.illegalChars

/-- Each character of a text with a split serves as some ingredient. -/
theorem Split.exists_admits {r : PasswordRule} {text : List Char} (s : Split r text) {c : Char}
    (hc : c ∈ text) : ∃ i, Admits r i c := by
  have hparts := s.perm.mem_iff.1 hc
  simp only [List.mem_append] at hparts
  rcases hparts with ((((h | h) | h) | h) | h) | h
  all_goals exact ⟨_, s.admitted _ c h⟩

/-- An acceptable candidate honours the rule. -/
theorem Candidate.honours {r : PasswordRule} {text : List Char} (h : Candidate r text)
    (haccepts : Accepts r text) : Honours r text := by
  obtain ⟨⟨split⟩, hmin, hmax⟩ := h
  have hlen := split.length_eq
  refine ⟨haccepts, by omega, hmax, split.countIn_digit, ?_, ?_, ?_, ?_, ?_, ?_⟩
  · exact split.demand_le_countP (i := .uppercase) (by decide) fun c hc => hc.1
  · exact split.demand_le_countP (i := .lowercase) (by decide) fun c hc => hc.1
  · -- Letters are counted part by part, and those among the filler come on top.
    have hpart : ∀ i, i ≠ .filler → (∀ c, Admits r i c → IsLetter c) →
        (split.part i).countP (IsLetter ·) = demand r i :=
      fun i hi hletter => split.countP_part_of_all hi fun c hc => decide_eq_true (hletter c hc)
    rw [split.countP_eq, hpart .uppercase (by decide) fun c hc => Or.inr hc.1,
      hpart .lowercase (by decide) fun c hc => Or.inl hc.1,
      hpart .letter (by decide) fun c hc => hc.1]
    show demand r .letter + demand r .uppercase + demand r .lowercase ≤ _
    omega
  · exact split.demand_le_countP (i := .special) (by decide) fun c hc => decide_eq_true hc.1
  · -- What a character was drawn for says of which sort it is.
    intro c hc
    obtain ⟨i, hi⟩ := split.exists_admits hc
    cases i with
    | uppercase => exact Or.inl (Or.inr hi.1)
    | lowercase => exact Or.inl (Or.inl hi.1)
    | letter => exact Or.inl hi.1
    | filler => exact Or.inl hi.1
    | digit => exact Or.inr (Or.inl hi.1)
    | special => exact Or.inr (Or.inr hi.1)
  · intro c hc
    obtain ⟨i, hi⟩ := split.exists_admits hc
    exact admits_of_illegal hi

/-- **A generated password honours its rule**, whatever the rule, the number of attempts and the
words that the source hands out. -/
theorem honours_of_passwordForRule {maxAttempts : UInt32} {r : PasswordRule} {s : σ} {p : String}
    (h : (passwordForRule maxAttempts r s).1 = .ok p) :
    Honours (PasswordRule.mergeAll [r]) p.toList := by
  obtain ⟨hcandidate, haccepts⟩ := candidate_of_compose (PasswordRule.mergeAll_inForce [r]) h
  exact hcandidate.honours haccepts

/-- A rule that asks for something of everything: special characters among which are a digit and
letters of either kind, illegal characters of three classes, no repetition, and words to avoid. -/
def crowdedRule : PasswordRule where
  minLength := 10
  maxLength := 12
  letters := 1
  uppercase := 2
  lowercase := 1
  digits := 2
  specials := 2
  specialChars := .ofList "Σ!7aé".toList
  illegalChars := .ofList "abcXY1".toList
  repeatSame := 1
  forbiddenWords := .ofList ["Σ", "pass"]

/-- Words for which the first candidate is rejected. -/
def crowdedWords : CyclicWords :=
  .ofList [1901534750, 1329086811, 3524036468, 602335547, 3449765985]

theorem honours_crowdedRule :
    (passwordForRule 1 crowdedRule crowdedWords).1 = .error (.attemptsExhausted 1) ∧
    (passwordForRule 3 crowdedRule crowdedWords).1 = .ok "G!rKkT2é8r" ∧
    Honours (PasswordRule.mergeAll [crowdedRule]) "G!rKkT2é8r".toList := by
  have hrun : (passwordForRule 3 crowdedRule crowdedWords).1 = .ok "G!rKkT2é8r" := by
    decide +kernel
  exact ⟨by decide +kernel, hrun, honours_of_passwordForRule hrun⟩

end CredentialPolicy.Generation
