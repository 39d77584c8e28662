import CredentialPolicy.Proofs.Generation.Soundness

/-!
When the number of special characters is exact.

Letters fill a password up, so where a letter is special what is required of the special characters
is a lower bound. Where none is, the number should be exact. It is exact as long as only those are
counted that are no digits, because a digit is never drawn as a special character
(`Split.countP_isSpecialNotDigit`). But digits are drawn for their own sake, and nothing keeps those
out that are special: with one of them a password has more special characters than are required, as
the one that is drawn for `markAndOne`. So the number is exceeded by the special digits of the
password (`countP_specials`), and it is exact on the condition that there are none.
-/

set_option autoImplicit false

namespace CredentialPolicy.Generation

open CredentialPolicy.Random

/-! ## Counting in a split -/

section

variable {r : PasswordRule} {text : List Char}

/-- Whether a character is special and no digit. -/
def isSpecialNotDigit (specials : Ascending Char) (c : Char) : Bool :=
  c ∈ specials && ! CharClass.digit.contains c

/-- Whether a character is special and a digit. -/
def isSpecialDigit (specials : Ascending Char) (c : Char) : Bool :=
  c ∈ specials && CharClass.digit.contains c

/-- The special characters of a text are those that are no digits and those that are. -/
theorem countP_specials (specials : Ascending Char) (text : List Char) :
    text.countP (· ∈ specials) =
      text.countP (isSpecialNotDigit specials) + text.countP (isSpecialDigit specials) := by
  rw [List.countP_eq_countP_filter_add text _ fun c => ! CharClass.digit.contains c,
    List.countP_filter, List.countP_filter]
  simp only [Bool.not_not]
  rfl

/-- What is drawn as a special character is special and no digit, and if no letter is special then
nothing else that is drawn is both. -/
theorem Split.countP_isSpecialNotDigit (s : Split r text)
    (hletters : ∀ c ∈ r.specialChars, ¬ IsLetter c) :
    text.countP (isSpecialNotDigit r.specialChars) = demand r .special := by
  -- A part of letters has no special character at all.
  have hletter : ∀ i, (∀ c, Admits r i c → IsLetter c) →
      (s.part i).countP (isSpecialNotDigit r.specialChars) = 0 := by
    refine fun i hi => s.countP_part_of_none fun c hc hspecial => ?_
    rw [isSpecialNotDigit, Bool.and_eq_true, decide_eq_true_eq] at hspecial
    exact hletters c hspecial.1 (hi c hc)
  have hdigit : (s.part .digit).countP (isSpecialNotDigit r.specialChars) = 0 :=
    s.countP_part_of_none fun c hc => by simp [isSpecialNotDigit, hc.1]
  have hspecial : (s.part .special).countP (isSpecialNotDigit r.specialChars) = demand r .special :=
    s.countP_part_of_all (by decide) fun c hc => by simp [isSpecialNotDigit, hc.1, hc.2.2]
  rw [s.countP_eq, hletter .uppercase fun c hc => Or.inr hc.1,
    hletter .lowercase fun c hc => Or.inl hc.1, hletter .letter fun c hc => hc.1,
    hletter .filler fun c hc => hc.1, hdigit, hspecial]
  omega

/-- No special character that is drawn is a digit, so a digit among them is required as a digit and
legal. -/
theorem Split.countP_isSpecialDigit_eq_zero (s : Split r text)
    (hdigits : count r.digits = 0 ∨
      ∀ c ∈ r.specialChars, CharClass.digit.contains c = true → c ∈ r.illegalChars) :
    text.countP (isSpecialDigit r.specialChars) = 0 := by
  rw [List.countP_eq_zero]
  intro c hc hspecial
  rw [isSpecialDigit, Bool.and_eq_true, decide_eq_true_eq] at hspecial
  rcases hdigits with hnone | hillegal
  · -- A digit in the text was required, since no other ingredient brings one in.
    have hcount : 0 < CharClass.digit.countIn text := List.countP_pos_iff.2 ⟨c, hc, hspecial.2⟩
    rw [s.countIn_digit] at hcount
    exact absurd hnone (Nat.ne_of_gt hcount)
  · obtain ⟨i, hi⟩ := s.exists_admits hc
    exact admits_of_illegal hi (hillegal c hspecial.1 hspecial.2)

end

/-! ## Passwords -/

/-- A negative number counts as zero, so raising it to zero changes no count. -/
theorem count_max_zero (i : Int32) : count (max i 0) = count i := by
  rcases Int32.le_total i 0 with hle | hle
  · rw [PasswordRule.max_eq_right hle]
    have hcount := count_le_count hle
    have hzero : count 0 = 0 := by decide
    omega
  · rw [PasswordRule.max_eq_left hle]

/-- What a rule counts as special or illegal is the same when the rule is in force alone. -/
theorem mergeAll_singleton_specials (r : PasswordRule) :
    (PasswordRule.mergeAll [r]).specialChars = r.specialChars ∧
      (PasswordRule.mergeAll [r]).illegalChars = r.illegalChars ∧
      count (PasswordRule.mergeAll [r]).specials = count r.specials ∧
      count (PasswordRule.mergeAll [r]).digits = count r.digits := by
  have hmerge := PasswordRule.isMergeOf_mergeAll (List.cons_ne_nil r [])
  have hmem : ∀ r', r' ∈ {r' | r' ∈ [r]} ↔ r' = r := fun r' => List.mem_singleton
  have hcount : ∀ f ∈ PasswordRule.countFields,
      count (f (PasswordRule.mergeAll [r])) = count (f r) := by
    intro f hf
    -- The rule is the only one, so it has the greatest value itself.
    obtain ⟨r', hr', heq⟩ := (hmerge.counts f hf).1
    obtain rfl := (hmem r').1 hr'
    rw [← heq]
    exact count_max_zero (f r')
  obtain ⟨-, -, -, hdigits, hspecials, -⟩ := PasswordRule.forall_mem_countFields.1 hcount
  refine ⟨Ascending.ext_mem fun c => ?_, Ascending.ext_mem fun c => ?_, hspecials, hdigits⟩
  · simp [hmerge.specialChars]
  · simp [hmerge.illegalChars]

variable {σ : Type} [WordSource σ]

/-- **The number of special characters is exact but for special digits.** If no letter is special,
the special characters that are no digits are as many as are required, and there are more of them
all by the special digits of the password. So the number is exact on the condition that the password
has no special digit, and it has none if no digit is required or no special digit is legal. -/
theorem countP_specials_of_passwordForRule {maxAttempts : UInt32} {r : PasswordRule} {s : σ}
    {p : String} (hletters : ∀ c ∈ r.specialChars, ¬ IsLetter c)
    (h : (passwordForRule maxAttempts r s).1 = .ok p) :
    p.toList.countP (isSpecialNotDigit r.specialChars) = count r.specials ∧
    p.toList.countP (· ∈ r.specialChars) =
      count r.specials + p.toList.countP (isSpecialDigit r.specialChars) ∧
    ((count r.digits = 0 ∨
        ∀ c ∈ r.specialChars, CharClass.digit.contains c = true → c ∈ r.illegalChars) →
      p.toList.countP (· ∈ r.specialChars) = count r.specials) := by
  obtain ⟨⟨⟨split⟩, -, -⟩, -⟩ := candidate_of_compose (PasswordRule.mergeAll_inForce [r]) h
  obtain ⟨hspecialChars, hillegalChars, hspecials, hdigits⟩ := mergeAll_singleton_specials r
  have hexact := split.countP_isSpecialNotDigit (by rwa [hspecialChars])
  have hnone := split.countP_isSpecialDigit_eq_zero
  rw [hspecialChars] at hexact hnone
  rw [hillegalChars, hdigits] at hnone
  have hrequired : p.toList.countP (isSpecialNotDigit r.specialChars) = count r.specials :=
    hexact.trans hspecials
  refine ⟨hrequired, ?_, fun hdigit => ?_⟩
  · rw [countP_specials, hrequired]
  · rw [countP_specials, hrequired, hnone hdigit, Nat.add_zero]

theorem forall_mem_of_all {s : Ascending Char} {P : Char → Prop} [DecidablePred P]
    (h : (s.toList.all fun c => decide (P c)) = true) : ∀ c ∈ s, P c :=
  fun c hc => of_decide_eq_true (List.all_eq_true.1 h c hc)

/-- A rule with a digit among its special characters. -/
def sevenRule : PasswordRule where
  minLength := 8
  maxLength := 8
  digits := 3
  specials := 2
  specialChars := .ofList "!7%".toList

/-- The same rule, with that digit among the illegal characters. -/
def noSevenRule : PasswordRule := { sevenRule with illegalChars := .ofList ['7'] }

/-- Words for which the digit is drawn twice where it is legal. -/
def sevenWords : CyclicWords :=
  .ofList [3100000000, 1329086811, 3024536468, 602335547, 3449765985]

theorem countP_specials_sevenRule :
    "kl37Q!%7".toList.countP (· ∈ sevenRule.specialChars) =
      count sevenRule.specials +
        "kl37Q!%7".toList.countP (isSpecialDigit sevenRule.specialChars) ∧
    "kl26Q!%6".toList.countP (· ∈ noSevenRule.specialChars) = count noSevenRule.specials := by
  have hletters : ∀ c ∈ sevenRule.specialChars, ¬ IsLetter c :=
    forall_mem_of_all (by decide +kernel)
  have hnoLetters : ∀ c ∈ noSevenRule.specialChars, ¬ IsLetter c :=
    forall_mem_of_all (by decide +kernel)
  have hillegal : ∀ c ∈ noSevenRule.specialChars, CharClass.digit.contains c = true →
      c ∈ noSevenRule.illegalChars :=
    forall_mem_of_all (by decide +kernel)
  have hseven : (passwordForRule 3 sevenRule sevenWords).1 = .ok "kl37Q!%7" := by decide +kernel
  have hnoSeven : (passwordForRule 3 noSevenRule sevenWords).1 = .ok "kl26Q!%6" := by
    decide +kernel
  have hsurplus := (countP_specials_of_passwordForRule hletters hseven).2.1
  have hexact := (countP_specials_of_passwordForRule hnoLetters hnoSeven).2.2 (Or.inr hillegal)
  exact ⟨hsurplus, hexact⟩

/-- A rule for a punctuation mark and the one digit that is left, which is special as well. -/
def markAndOne : PasswordRule where
  minLength := 2
  maxLength := 2
  digits := 1
  specials := 1
  specialChars := .ofList ['!', '1']
  illegalChars := .ofList "023456789".toList

/-- Without the condition the number is exceeded: one special character is required, and the digit
that is drawn beside it is a second one. -/
theorem specials_exceed_markAndOne :
    (∀ c ∈ markAndOne.specialChars, ¬ IsLetter c) ∧ count markAndOne.specials = 1 ∧
    (passwordForRule 1 markAndOne (CyclicWords.ofList [0])).1 = .ok "!1" ∧
    "!1".toList.countP (· ∈ markAndOne.specialChars) = 2 := by
  have hletters : ∀ c ∈ markAndOne.specialChars, ¬ IsLetter c :=
    forall_mem_of_all (by decide +kernel)
  exact ⟨hletters, by decide, by decide +kernel, by decide +kernel⟩

end CredentialPolicy.Generation
