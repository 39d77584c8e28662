import CredentialPolicy.Proofs.Rule.Reduction

/-!
What holds of every rule in force.

Whatever rules are merged, the result is settled (`settled_mergeAll`): the least length is positive
and does not exceed the greatest one, and no count is negative. For a nonempty list the table of its
fields says so, and the rule in force without any rule has such values.

Conversely a rule that is settled already is put in force as it is
(`mergeAll_singleton_of_settled`).
-/

set_option autoImplicit false

namespace CredentialPolicy.PasswordRule

/-! ## Rules in force -/

/-- The bounds of a rule in force are settled and fit each other. -/
structure InForce (r : PasswordRule) : Prop where
  minLength_pos : 0 < r.minLength
  minLength_le_maxLength : r.minLength ≤ r.maxLength

/-- Bounds that fit each other, and no count below zero. -/
structure Settled (r : PasswordRule) : Prop extends InForce r where
  letters_nonneg : 0 ≤ r.letters
  uppercase_nonneg : 0 ≤ r.uppercase
  lowercase_nonneg : 0 ≤ r.lowercase
  digits_nonneg : 0 ≤ r.digits
  specials_nonneg : 0 ≤ r.specials
  repeatSame_nonneg : 0 ≤ r.repeatSame

theorem Settled.counts_nonneg {r : PasswordRule} (h : r.Settled) : ∀ f ∈ countFields, 0 ≤ f r :=
  forall_mem_countFields.2 ⟨h.letters_nonneg, h.uppercase_nonneg, h.lowercase_nonneg,
    h.digits_nonneg, h.specials_nonneg, h.repeatSame_nonneg⟩

/-- What the table says of a merge leaves its bounds and counts settled. -/
theorem IsMergeOf.settled {m : PasswordRule} {rules : Set PasswordRule} (h : m.IsMergeOf rules) :
    m.Settled := by
  obtain ⟨hletters, huppercase, hlowercase, hdigits, hspecials, hrepeatSame⟩ :=
    forall_mem_countFields.1 h.counts_nonneg
  exact ⟨⟨h.minLength_pos, h.minLength_le_maxLength⟩, hletters, huppercase, hlowercase, hdigits,
    hspecials, hrepeatSame⟩

theorem settled_effectiveDefault : effectiveDefault.Settled := by
  have hzero : (0 : Int32) ≤ 0 := Int32.le_refl 0
  exact ⟨⟨by decide, by decide⟩, hzero, hzero, hzero, hzero, hzero, hzero⟩

/-- Every merge is settled. -/
theorem settled_mergeAll (rules : List PasswordRule) : (mergeAll rules).Settled := by
  cases rules with
  | nil => exact settled_effectiveDefault
  | cons r rules => exact (isMergeOf_mergeAll (List.cons_ne_nil r rules)).settled

/-- Every merge puts a rule in force. -/
theorem mergeAll_inForce (rules : List PasswordRule) : (mergeAll rules).InForce :=
  (settled_mergeAll rules).toInForce

/-! ## Settled rules -/

/-- Normalizing changes nothing where the bounds are positive and no count is negative. -/
theorem normalized_eq_self {r : PasswordRule} (hmin : 0 < r.minLength) (hmax : 0 < r.maxLength)
    (hcounts : ∀ f ∈ countFields, 0 ≤ f r) : r.normalized = r := by
  obtain ⟨hletters, huppercase, hlowercase, hdigits, hspecials, hrepeatSame⟩ :=
    forall_mem_countFields.1 hcounts
  unfold normalized settledMinLength settledMaxLength
  rw [if_pos hmin, if_pos hmax, max_eq_left hletters, max_eq_left huppercase,
    max_eq_left hlowercase, max_eq_left hdigits, max_eq_left hspecials, max_eq_left hrepeatSame]

theorem Settled.normalized_eq {r : PasswordRule} (h : r.Settled) : r.normalized = r :=
  normalized_eq_self h.minLength_pos
    (Int32.lt_of_lt_of_le h.minLength_pos h.minLength_le_maxLength) h.counts_nonneg

/-- A settled rule that has nothing to drop is put in force as it is. -/
theorem mergeAll_singleton_of_settled {r : PasswordRule} (h : r.Settled) (hname : r.name = "")
    (hschemas : r.forbiddenSchemas = ∅) : mergeAll [r] = r := by
  rw [mergeAll, List.foldl_nil, h.normalized_eq, sealed, max_eq_right h.minLength_le_maxLength,
    ← hname, ← hschemas]

/-! ## Normalizing twice -/

/-- An unset greatest length is replaced by a positive one, like an unset least length. -/
theorem settledMaxLength_pos (r : PasswordRule) : 0 < r.settledMaxLength := by
  unfold settledMaxLength
  split
  · assumption
  · split
    · assumption
    · decide

/-- What was settled stays as it is. -/
theorem normalized_normalized (r : PasswordRule) : r.normalized.normalized = r.normalized := by
  refine normalized_eq_self r.settledMinLength_pos r.settledMaxLength_pos fun f hf => ?_
  rw [(countFields_laws hf).2.1]
  exact Std.right_le_max

end CredentialPolicy.PasswordRule
