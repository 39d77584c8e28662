import CredentialPolicy.Proofs.Generation.Soundness

/-!
The password where no rule applies.

It is four letters and four digits in random order, and it can be all that this can be: every stream
of words leads to such a text, and every such text comes of some words. Both directions rest on the
same fact. A text with four digits and four letters among eight characters is an arrangement of four
letters and four digits (`HalfDigits.exists_perm`), since counting leaves no room for anything else,
and every such arrangement is a text of that sort (`halfDigits_of_perm`).
-/

set_option autoImplicit false

namespace CredentialPolicy.Generation

open CredentialPolicy.Random

variable {σ : Type} [WordSource σ]

/-! ## Letters and digits -/

theorem digit_contains_iff {c : Char} : CharClass.digit.contains c = true ↔ c.isDigit = true :=
  Iff.rfl

/-- So are the letters. -/
theorem isLetter_iff {c : Char} : IsLetter c ↔ c.isAlpha = true := by
  have hupper : CharClass.uppercase.contains c = c.isUpper := (Bool.decide_and _ _).symm
  have hlower : CharClass.lowercase.contains c = c.isLower := rfl
  have halpha : c.isAlpha = (c.isUpper || c.isLower) := rfl
  rw [IsLetter, hupper, hlower, halpha, Bool.or_eq_true, or_comm]

/-- No letter is a digit, so the two counts are about different characters. -/
theorem not_isDigit_of_isAlpha {c : Char} (h : c.isAlpha = true) : ¬ c.isDigit = true := by
  rw [← digit_contains_iff]
  exact not_digit_of_isLetter (isLetter_iff.2 h)

/-- Eight characters, four of them ASCII digits and four of them ASCII letters. -/
structure HalfDigits (text : List Char) : Prop where
  length : text.length = 8
  digits : text.countP Char.isDigit = 4
  letters : text.countP Char.isAlpha = 4

section

variable {text : List Char}

/-- The letters of such a text with the rest of it behind them are an arrangement of the text, and
the rest is digits. -/
theorem HalfDigits.exists_perm (h : HalfDigits text) :
    ∃ letters digits : List Char, letters.length = 4 ∧ digits.length = 4 ∧
      (∀ c ∈ letters, c.isAlpha = true) ∧ (∀ c ∈ digits, c.isDigit = true) ∧
      text.Perm (letters ++ digits) := by
  have hperm := List.filter_append_perm Char.isAlpha text
  have hletters : (text.filter Char.isAlpha).length = 4 := by
    rw [← List.countP_eq_length_filter, h.letters]
  have hrest : (text.filter fun c => !c.isAlpha).length = 4 := by
    have hlength := hperm.length_eq
    rw [List.length_append, hletters, h.length] at hlength
    omega
  -- No digit of the text is a letter, so the rest has all four of them and is as long.
  have hdigits : (text.filter fun c => !c.isAlpha).countP Char.isDigit =
      (text.filter fun c => !c.isAlpha).length := by
    rw [hrest, ← h.digits, List.countP_filter]
    refine List.countP_congr fun c _ => ?_
    rw [Bool.and_eq_true, Bool.not_eq_true']
    refine and_iff_left_of_imp fun hdigit => Bool.eq_false_iff.2 fun halpha => ?_
    exact not_isDigit_of_isAlpha halpha hdigit
  exact ⟨_, _, hletters, hrest, fun c hc => (List.mem_filter.1 hc).2,
    List.countP_eq_length.1 hdigits, hperm.symm⟩

/-- Four letters and four digits make such a text in any order. -/
theorem halfDigits_of_perm {letters digits : List Char} (hletters : letters.length = 4)
    (hdigits : digits.length = 4) (halpha : ∀ c ∈ letters, c.isAlpha = true)
    (hdigit : ∀ c ∈ digits, c.isDigit = true) (hperm : text.Perm (letters ++ digits)) :
    HalfDigits text where
  length := by rw [hperm.length_eq, List.length_append, hletters, hdigits]
  digits := by
    have hnone : letters.countP Char.isDigit = 0 :=
      List.countP_eq_zero.2 fun c hc => not_isDigit_of_isAlpha (halpha c hc)
    rw [hperm.countP_eq, List.countP_append, hnone, List.countP_eq_length.2 hdigit, hdigits]
  letters := by
    have hnone : digits.countP Char.isAlpha = 0 :=
      List.countP_eq_zero.2 fun c hc h => not_isDigit_of_isAlpha h (hdigit c hc)
    rw [hperm.countP_eq, List.countP_append, hnone, List.countP_eq_length.2 halpha, hletters]

end

/-! ## Drawing it -/

theorem defaultHalf_eq : defaultHalf = 4 := by decide

/-- Without excluded characters the pool of letters has all of them. -/
theorem mem_letterPool_empty {c : Char} : c ∈ letterPool ∅ ↔ c.isAlpha = true := by
  rw [mem_letterPool, ← isLetter_iff]
  exact and_iff_left (Ascending.not_mem_empty c)

theorem mem_digit_members {c : Char} : c ∈ CharClass.digit.members ↔ c.isDigit = true := by
  rw [CharClass.mem_members, digit_contains_iff]

/-- Whatever the source hands out, four letters and four digits come out. -/
theorem defaultPassword_succeeds :
    Succeeds (defaultPassword : Draw σ String) fun p _ => HalfDigits p.toList := by
  -- Neither pool is empty, so neither draw fails.
  have hletters : letterPool ∅ ≠ [] := List.ne_nil_of_mem (mem_letterPool_empty.2 rfl : 'a' ∈ _)
  have hdigits : CharClass.digit.members ≠ [] :=
    List.ne_nil_of_mem (mem_digit_members.2 rfl : '0' ∈ _)
  unfold defaultPassword
  rw [defaultHalf_eq]
  refine (drawFrom_succeeds .letter (Or.inr hletters)).bind ?_
  rintro letters _ ⟨⟨hlenLetters, hmemLetters⟩, -⟩
  refine (drawFrom_succeeds .digit (Or.inr hdigits)).bind ?_
  rintro digits _ ⟨⟨hlenDigits, hmemDigits⟩, -⟩
  refine (Succeeds.sample (yields_shuffle (letters ++ digits))).bind fun text _ hperm => ?_
  refine Succeeds.pure ?_
  rw [String.toList_ofList]
  exact halfDigits_of_perm hlenLetters hlenDigits
    (fun c hc => mem_letterPool_empty.1 (hmemLetters c hc))
    (fun c hc => mem_digit_members.1 (hmemDigits c hc)) hperm

/-- The words draw the letters of the text, then its digits, and then put each into its place. -/
theorem exists_answers_defaultPassword {p : String} (h : HalfDigits p.toList) :
    ∃ ws, ∀ {σ : Type} [WordSource σ],
      Answers (defaultPassword : Draw σ String) ws (.ok p) := by
  obtain ⟨letters, digits, hletters, hdigits, halpha, hdigit, hperm⟩ := h.exists_perm
  -- A draw reaches all of a pool if its places can be told apart in 64 bits.
  have hshort : CharClass.digit.members.length ≤ 2 ^ 64 := by decide
  obtain ⟨ws₁, hws₁⟩ := exists_answers_drawFrom .letter
    (fun c hc => mem_letterPool_empty.2 (halpha c hc))
    (Nat.le_trans (length_pool_le _ _) (by decide))
  obtain ⟨ws₂, hws₂⟩ := exists_answers_drawFrom .digit
    (fun c hc => mem_digit_members.2 (hdigit c hc)) hshort
  obtain ⟨ws₃, hws₃⟩ := exists_answers_shuffle hperm (by simp [hletters, hdigits])
  refine ⟨ws₁ ++ (ws₂ ++ (ws₃ ++ [])), fun {σ} _ => ?_⟩
  rw [hletters, ← defaultHalf_eq] at hws₁
  rw [hdigits, ← defaultHalf_eq] at hws₂
  refine answers_bind_ok hws₁ (answers_bind_ok hws₂ (answers_bind_ok (answers_sample hws₃) ?_))
  rw [String.ofList_toList]
  exact Answers.pure _

/-- **The default password.** Whatever words the source hands out, the default password is made:
eight characters, four of them digits and four of them letters. And every text of that sort is the
default password for some words, whatever source hands them out; a source that starts with these
words exists. -/
theorem defaultPassword_range :
    (∀ {σ : Type} [WordSource σ] (s : σ),
      ∃ p t, defaultPassword s = (.ok p, t) ∧ HalfDigits p.toList) ∧
    ∀ p : String, HalfDigits p.toList →
      ∃ ws : List UInt32,
        (∀ {σ : Type} [WordSource σ] (s t : σ), Hands s ws t → defaultPassword s = (.ok p, t)) ∧
        (defaultPassword (CyclicWords.ofList ws)).1 = .ok p := by
  refine ⟨fun {σ} _ s => ?_, fun p h => ?_⟩
  · obtain ⟨p, t, -, hrun, -, hp⟩ := defaultPassword_succeeds.run s
    exact ⟨p, t, hrun, hp⟩
  · obtain ⟨ws, hws⟩ := exists_answers_defaultPassword h
    refine ⟨ws, fun s t => hws s t, ?_⟩
    obtain ⟨t, ht⟩ := exists_hands_cyclicWords ws
    rw [hws _ t ht]

/-- Letters of both cases, and digits of which two stand there twice. -/
theorem defaultPassword_range_mixed :
    HalfDigits "a7Zz0q07".toList ∧
      ∃ ws : List UInt32, (defaultPassword (CyclicWords.ofList ws)).1 = .ok "a7Zz0q07" := by
  have hmixed : HalfDigits "a7Zz0q07".toList := ⟨by decide, by decide, by decide⟩
  obtain ⟨ws, -, hws⟩ := defaultPassword_range.2 _ hmixed
  exact ⟨hmixed, ws, hws⟩

end CredentialPolicy.Generation
