import CredentialPolicy.Generation.Policies
import CredentialPolicy.Proofs.Generation.Attempts

/-!
When a forbidden word gets through.

A candidate is rejected for a forbidden word if the lowercase form of the word occurs in the
lowercase form of the candidate. Each form is taken by itself, and the form of a capital sigma
depends on what stands around it, so a word can occur in a password whose lowercase form does not
show it. The words for which this happens are known exactly: those with an open sigma.

* A forbidden word that occurs in a password has an open sigma (`openSigma_of_occurs`), since every
  other word keeps its form in every text.
* A word with an open sigma is hidden by one letter beside it, and the text of both is a password of
  a rule that forbids the word (`exists_password_of_openSigma`). That rule is made for the text:
  it asks for its digits and counts all its other characters as special (`ruleFor`).

The length of a word is a limit as well, because a password has fewer than `2 ^ 31` characters.
-/

set_option autoImplicit false

namespace CredentialPolicy.Generation

open CredentialPolicy.Random

variable {σ : Type} [WordSource σ]

/-! ## Words that occur -/

/-- A forbidden word that occurs in a password has an open sigma and is not the whole password. -/
theorem openSigma_of_occurs {rules : List PasswordRule} {maxAttempts : UInt32} {s : σ}
    {p w : String} (h : (compose maxAttempts (PasswordRule.mergeAll rules) s).1 = .ok p)
    (hne : w ≠ "") (hw : w ∈ (PasswordRule.mergeAll rules).forbiddenWords)
    (hoccurs : w.toList <:+: p.toList) :
    Unicode.OpenSigma w.toList ∧ w.length + 1 < 2 ^ 31 := by
  obtain ⟨hcandidate, haccepts⟩ := candidate_of_compose (PasswordRule.mergeAll_inForce rules) h
  have hunseen := haccepts.words w hw hne
  constructor
  · by_contra hclosed
    exact hunseen (Unicode.infix_lower_of_infix hclosed hoccurs)
  · have hle := hoccurs.length_le
    -- The word is not the whole password, whose lowercase form would then be that of the word.
    have hwhole : w.toList.length ≠ p.toList.length := by
      intro heq
      have hsame := congrArg Unicode.lower (hoccurs.eq_of_length heq)
      exact hunseen (hsame ▸ List.infix_refl (Unicode.lower w.toList))
    have hmax := hcandidate.length_le
    have hbound := count_lt (PasswordRule.mergeAll rules).maxLength
    rw [String.length_toList] at hle hwhole
    omega

/-! ## The rule made for a text -/

/-- A rule whose passwords are as long as the text, with as many digits, and with other characters
of the text for the rest. -/
def ruleFor (text : List Char) (words : Ascending String) : PasswordRule where
  minLength := Int32.ofNat text.length
  maxLength := Int32.ofNat text.length
  digits := Int32.ofNat (text.filter CharClass.digit.contains).length
  specials := Int32.ofNat (text.filter (! CharClass.digit.contains ·)).length
  specialChars := .ofList (text.filter (! CharClass.digit.contains ·))
  forbiddenWords := words

section

variable {text : List Char} {words : Ascending String} (hlen : text.length < 2 ^ 31)

include hlen

/-- A part of the text is short enough to be counted in 32 bits. -/
theorem count_length_filter (q : Char → Bool) :
    count (Int32.ofNat (text.filter q).length) = (text.filter q).length := by
  have hle := List.length_filter_le q text
  exact count_ofNat (by omega)

/-- So its length is no negative number. -/
theorem ofNat_length_filter_nonneg (q : Char → Bool) :
    0 ≤ Int32.ofNat (text.filter q).length := by
  have hle := List.length_filter_le q text
  exact Int32.zero_le_ofNat_of_lt (by omega)

/-- The rule is put in force as it is. -/
theorem mergeAll_ruleFor (hne : text ≠ []) :
    PasswordRule.mergeAll [ruleFor text words] = ruleFor text words := by
  refine PasswordRule.mergeAll_singleton_of_settled ?_ rfl rfl
  have hpos : 0 < Int32.ofNat text.length := by
    rw [← count_pos_iff, count_ofNat hlen]
    exact List.length_pos_of_ne_nil hne
  have hzero : (0 : Int32) ≤ 0 := Int32.le_refl 0
  exact ⟨⟨hpos, Int32.le_refl _⟩, hzero, hzero, hzero, ofNat_length_filter_nonneg hlen _,
    ofNat_length_filter_nonneg hlen _, hzero⟩

/-- The text is a candidate: its digits are the digits, and all else is special. -/
theorem candidate_ruleFor : Candidate (ruleFor text words) text := by
  have hcount : count (Int32.ofNat text.length) = text.length := count_ofNat hlen
  -- Two parts have characters: the digits, and all others as special ones.
  refine ⟨⟨⟨partsOf [] [] [] (text.filter CharClass.digit.contains)
    (text.filter (! CharClass.digit.contains ·)) [], ?_, ?_, ?_⟩⟩, Nat.le_of_eq hcount,
    Nat.le_of_eq hcount.symm⟩
  · simp only [partsOf, List.nil_append, List.append_nil]
    exact (List.filter_append_perm _ _).symm
  · intro i c hc
    cases i with
    | digit => exact ⟨(List.mem_filter.1 hc).2, Ascending.not_mem_empty c⟩
    | special =>
      refine ⟨Ascending.mem_ofList.2 hc, Ascending.not_mem_empty c, ?_⟩
      simpa using (List.mem_filter.1 hc).2
    | _ => exact absurd hc List.not_mem_nil
  · intro i hi
    cases i with
    | digit => exact (count_length_filter hlen _).symm
    | special => exact (count_length_filter hlen _).symm
    | filler => exact absurd rfl hi
    | _ => exact Eq.refl (count 0)

/-- A text in which the check sees none of the words is a password of the rule made for it. -/
theorem exists_password_ruleFor (hne : text ≠ [])
    (hunseen : ∀ w ∈ words, w ≠ "" → ¬ Unicode.lower w.toList <:+: Unicode.lower text) :
    ∃ ws, (passwordForRule 1 (ruleFor text words) (CyclicWords.ofList ws)).1 =
      .ok (String.ofList text) := by
  have haccepts : Accepts (ruleFor text words) text :=
    ⟨fun hpos => absurd hpos Int32.lt_irrefl, hunseen⟩
  obtain ⟨ws, hws⟩ := exists_words_compose (candidate_ruleFor hlen) haccepts
  obtain ⟨t, ht⟩ := exists_hands_cyclicWords ws
  refine ⟨ws, ?_⟩
  rw [passwordForRule, mergeAll_ruleFor hlen hne, (hws _ t ht).2 1]

end

/-- A word with an open sigma occurs in a password of a rule that forbids it. -/
theorem exists_password_of_openSigma {w : String} (h : Unicode.OpenSigma w.toList)
    (hlen : w.length + 1 < 2 ^ 31) :
    ∃ (ws : List UInt32) (r : PasswordRule) (p : String),
      w ∈ (PasswordRule.mergeAll [r]).forbiddenWords ∧
        (passwordForRule 1 r (CyclicWords.ofList ws)).1 = .ok p ∧ w.toList <:+: p.toList := by
  -- One more letter on the right side hides the word, which still occurs behind or before it.
  have hhidden : ∃ text : List Char, text.length = w.length + 1 ∧ w.toList <:+: text ∧
      ¬ Unicode.lower w.toList <:+: Unicode.lower text := by
    rw [← String.length_toList]
    obtain ⟨c, -, hbefore | hbehind⟩ := Unicode.exists_hidden_of_openSigma h
    · exact ⟨c :: w.toList, List.length_cons, (List.suffix_cons c _).isInfix, hbefore⟩
    · refine ⟨w.toList ++ [c], ?_, (List.prefix_append _ [c]).isInfix, hbehind⟩
      rw [List.length_append, List.length_singleton]
  obtain ⟨text, hlength, hoccurs, hunseen⟩ := hhidden
  have hne : text ≠ [] := List.ne_nil_of_length_pos (by omega)
  have hbound : text.length < 2 ^ 31 := by omega
  have hwords : ∀ v ∈ Ascending.ofList [w], v ≠ "" →
      ¬ Unicode.lower v.toList <:+: Unicode.lower text := by
    intro v hv _
    obtain rfl : v = w := List.mem_singleton.1 (Ascending.mem_ofList.1 hv)
    exact hunseen
  obtain ⟨ws, hrun⟩ := exists_password_ruleFor hbound hne hwords
  refine ⟨ws, ruleFor text (.ofList [w]), String.ofList text, ?_, hrun, ?_⟩
  · rw [mergeAll_ruleFor hbound hne]
    exact Ascending.mem_ofList.2 List.mem_cons_self
  · rw [String.toList_ofList]
    exact hoccurs

/-! ## Exactly the words with an open sigma -/

/-- **Which forbidden words get through.** Some rule that forbids a nonempty word has a password in
which it occurs exactly if the word has an open sigma and is short enough for a password with one
more character. For the rules of policies no other words get through either. -/
theorem forbiddenWord_occurs_iff (w : String) :
    ((∃ (σ : Type) (_ : WordSource σ) (s : σ) (maxAttempts : UInt32) (r : PasswordRule)
        (p : String),
        w ≠ "" ∧ w ∈ (PasswordRule.mergeAll [r]).forbiddenWords ∧
          (passwordForRule maxAttempts r s).1 = .ok p ∧ w.toList <:+: p.toList) ↔
      Unicode.OpenSigma w.toList ∧ w.length + 1 < 2 ^ 31) ∧
    ((∃ (σ : Type) (_ : WordSource σ) (s : σ) (maxAttempts : UInt32) (registry : Registry)
        (policies : List PasswordPolicy) (p : String),
        w ≠ "" ∧ w ∈ (PasswordRule.mergeAll (rulesOf registry policies)).forbiddenWords ∧
          (passwordFor registry maxAttempts (some policies) s).1 = .ok p ∧ w.toList <:+: p.toList) →
      Unicode.OpenSigma w.toList ∧ w.length + 1 < 2 ^ 31) := by
  refine ⟨⟨?_, ?_⟩, ?_⟩
  · rintro ⟨σ, _, s, maxAttempts, r, p, hne, hw, hrun, hoccurs⟩
    exact openSigma_of_occurs hrun hne hw hoccurs
  · rintro ⟨hopen, hlen⟩
    obtain ⟨ws, r, p, hw, hrun, hoccurs⟩ := exists_password_of_openSigma hopen hlen
    refine ⟨CyclicWords, inferInstance, CyclicWords.ofList ws, 1, r, p, ?_, hw, hrun, hoccurs⟩
    rintro rfl
    obtain ⟨u, v, hempty, -⟩ := hopen
    exact absurd hempty (by simp)
  · rintro ⟨σ, _, s, maxAttempts, registry, policies, p, hne, hw, hrun, hoccurs⟩
    cases hrules : rulesOf registry policies with
    | nil =>
      -- Without a rule no word is forbidden.
      rw [hrules] at hw
      exact absurd hw (Ascending.not_mem_empty w)
    | cons r rules =>
      rw [passwordFor, hrules] at hrun
      rw [hrules] at hw
      exact openSigma_of_occurs hrun hne hw hoccurs

/-- A rule that counts the capital sigma as special and forbids it as a word. -/
def sigmaRule : PasswordRule where
  minLength := 2
  maxLength := 2
  specials := 1
  specialChars := .ofList ['Σ']
  forbiddenWords := .ofList ["Σ"]

/-- Behind a letter the capital sigma ends a word, which it does not do alone. -/
theorem sigma_occurs :
    "Σ" ∈ (PasswordRule.mergeAll [sigmaRule]).forbiddenWords ∧
      (passwordForRule 1 sigmaRule (CyclicWords.ofList [0])).1 = .ok "AΣ" ∧
      "Σ".toList <:+: "AΣ".toList := by
  decide +kernel

end CredentialPolicy.Generation
