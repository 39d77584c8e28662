import CredentialPolicy.Rule.Merge
import Mathlib.Data.List.Basic
import Mathlib.Data.Set.Image
import Mathlib.Order.Bounds.Basic

/-!
The rule in force, field by field.

`IsMergeOf` says what each field of a rule in force is, in terms of the set of the rules that were
merged: there is no order among them and none of them counts twice. It leaves nothing open
(`IsMergeOf.unique`), and `mergeAll` meets it (`isMergeOf_mergeAll`).

The merge is a fold, and its fields are reduced in different ways. All of these have one law in
common: a combination of two rules has something exactly if one of the two has it. A maximum reaches
a bound if either side does, a minimum stays below a bound if either side does, a union has a member
and a disjunction holds if either side does. So one induction along the fold
(`foldl_combine_iff`) serves every field.
-/

set_option autoImplicit false

namespace CredentialPolicy.PasswordRule

/-! ## Maxima and minima of 32-bit integers -/

instance : Std.LawfulOrderMax Int32 := by
  have hmax : ∀ a b : Int32, max a b = if a ≤ b then b else a := fun _ _ => rfl
  refine .of_le_max (fun a b => ?_) (fun a b => ?_) fun a b => ?_
  · rw [hmax]
    split
    · assumption
    · exact Int32.le_refl a
  · rw [hmax]
    split
    · exact Int32.le_refl b
    · exact Std.le_of_not_ge ‹¬ a ≤ b›
  · rw [hmax]
    split
    · exact Or.inr rfl
    · exact Or.inl rfl

theorem max_eq_left {a b : Int32} (h : b ≤ a) : max a b = a :=
  Int32.le_antisymm (Std.max_le_iff.2 ⟨Int32.le_refl a, h⟩) Std.left_le_max

theorem max_eq_right {a b : Int32} (h : a ≤ b) : max a b = b := if_pos h

section Bounds

variable {α : Type} {f : α → Int32} {s : Set α} {v w : Int32}

/-- A value is attained and not exceeded exactly if it reaches what some value reaches. Exceeding is
in terms of any order, so that this serves maxima and minima. -/
theorem attained_iff_reaches {R : Int32 → Int32 → Prop} (hrefl : ∀ a, R a a)
    (htrans : ∀ {a b c}, R a b → R b c → R a c) (hantisymm : ∀ {a b}, R a b → R b a → a = b) :
    (v ∈ f '' s ∧ ∀ a ∈ s, R (f a) v) ↔ ∀ b, R b v ↔ ∃ a ∈ s, R b (f a) := by
  constructor
  · rintro ⟨⟨a, ha, rfl⟩, hbound⟩ b
    refine ⟨fun hb => ⟨a, ha, hb⟩, ?_⟩
    rintro ⟨c, hc, hb⟩
    exact htrans hb (hbound c hc)
  · intro h
    have hbound : ∀ a ∈ s, R (f a) v := fun a ha => (h (f a)).2 ⟨a, ha, hrefl _⟩
    obtain ⟨a, ha, hreach⟩ := (h v).1 (hrefl v)
    exact ⟨⟨a, ha, hantisymm (hbound a ha) hreach⟩, hbound⟩

/-- The greatest value is what reaches a bound exactly if some value does. -/
theorem isGreatest_image_iff : IsGreatest (f '' s) v ↔ ∀ b, b ≤ v ↔ ∃ a ∈ s, b ≤ f a := by
  have hbound : v ∈ upperBounds (f '' s) ↔ ∀ a ∈ s, f a ≤ v := Set.forall_mem_image
  rw [IsGreatest, hbound]
  exact attained_iff_reaches Int32.le_refl Int32.le_trans Int32.le_antisymm

/-- The least value is what stays below a bound exactly if some value does. -/
theorem isLeast_image_iff : IsLeast (f '' s) v ↔ ∀ b, v ≤ b ↔ ∃ a ∈ s, f a ≤ b := by
  have hbound : v ∈ lowerBounds (f '' s) ↔ ∀ a ∈ s, v ≤ f a := Set.forall_mem_image
  rw [IsLeast, hbound]
  exact attained_iff_reaches (R := (· ≥ ·)) Int32.le_refl (fun hab hbc => Int32.le_trans hbc hab)
    fun hab hba => Int32.le_antisymm hba hab

theorem isGreatest_unique {s : Set Int32} (hv : IsGreatest s v) (hw : IsGreatest s w) : v = w :=
  Int32.le_antisymm (hw.2 hv.1) (hv.2 hw.1)

theorem isLeast_unique {s : Set Int32} (hv : IsLeast s v) (hw : IsLeast s w) : v = w :=
  Int32.le_antisymm (hv.2 hw.1) (hw.2 hv.1)

end Bounds

/-! ## The table -/

/-- The fields that count something. -/
def countFields : List (PasswordRule → Int32) :=
  [letters, uppercase, lowercase, digits, specials, repeatSame]

theorem forall_mem_countFields {p : (PasswordRule → Int32) → Prop} :
    (∀ f ∈ countFields, p f) ↔
      p letters ∧ p uppercase ∧ p lowercase ∧ p digits ∧ p specials ∧ p repeatSame := by
  simp only [countFields, List.forall_mem_cons, List.not_mem_nil, false_imp_iff, forall_const,
    and_true]

/-- What each field of a rule in force is in terms of the rules that were merged. -/
structure IsMergeOf (m : PasswordRule) (rules : Set PasswordRule) : Prop where
  /-- The largest of the settled least lengths. -/
  minLength : IsGreatest ((fun r => r.normalized.minLength) '' rules) m.minLength
  /-- The smallest of the settled greatest lengths, or the least length if that is larger. -/
  maxLength : ∃ least, IsLeast ((fun r => r.normalized.maxLength) '' rules) least ∧
    m.maxLength = max m.minLength least
  /-- The largest value, where a negative one is zero. -/
  counts : ∀ f ∈ countFields, IsGreatest ((fun r => max (f r) 0) '' rules) (f m)
  specialChars : ∀ c, c ∈ m.specialChars ↔ ∃ r ∈ rules, c ∈ r.specialChars
  illegalChars : ∀ c, c ∈ m.illegalChars ↔ ∃ r ∈ rules, c ∈ r.illegalChars
  forbiddenWords : ∀ w, w ∈ m.forbiddenWords ↔ ∃ r ∈ rules, w ∈ r.forbiddenWords
  usernameAllowed : m.usernameAllowed = true ↔ ∃ r ∈ rules, r.usernameAllowed = true
  name : m.name = ""
  forbiddenSchemas : m.forbiddenSchemas = ∅

attribute [ext] PasswordRule

/-- A least length is positive once it is settled. -/
theorem settledMinLength_pos (r : PasswordRule) : 0 < r.settledMinLength := by
  unfold settledMinLength
  split
  · assumption
  · decide

/-- Settling raises a least length, if it changes it. -/
theorem le_settledMinLength (r : PasswordRule) : r.minLength ≤ r.settledMinLength := by
  unfold settledMinLength
  split
  · exact Int32.le_refl _
  · next hunset => exact Int32.le_trans (Std.not_lt.1 hunset) (by decide)

theorem settledMinLength_of_unset {r : PasswordRule} (h : r.minLength ≤ 0) :
    r.settledMinLength = 8 :=
  if_neg (Std.not_lt.2 h)

namespace IsMergeOf

variable {m n : PasswordRule} {rules : Set PasswordRule}

/-- The table leaves no field open. -/
theorem unique (hm : m.IsMergeOf rules) (hn : n.IsMergeOf rules) : m = n := by
  have hmin : m.minLength = n.minLength := isGreatest_unique hm.minLength hn.minLength
  have hmax : m.maxLength = n.maxLength := by
    obtain ⟨least, hleast, heq⟩ := hm.maxLength
    obtain ⟨least', hleast', heq'⟩ := hn.maxLength
    rw [heq, heq', hmin, isLeast_unique hleast hleast']
  have hcounts : ∀ f ∈ countFields, f m = f n := fun f hf =>
    isGreatest_unique (hm.counts f hf) (hn.counts f hf)
  obtain ⟨hletters, huppercase, hlowercase, hdigits, hspecials, hrepeatSame⟩ :=
    forall_mem_countFields.1 hcounts
  refine PasswordRule.ext (hm.name.trans hn.name.symm) hmin hmax hletters huppercase hlowercase
    hdigits hspecials (Ascending.ext_mem fun c => ?_) (Ascending.ext_mem fun c => ?_) hrepeatSame
    (Bool.eq_iff_iff.2 ?_) (Ascending.ext_mem fun w => ?_)
    (hm.forbiddenSchemas.trans hn.forbiddenSchemas.symm)
  · rw [hm.specialChars, hn.specialChars]
  · rw [hm.illegalChars, hn.illegalChars]
  · rw [hm.usernameAllowed, hn.usernameAllowed]
  · rw [hm.forbiddenWords, hn.forbiddenWords]

/-- The least length is positive, as one rule has it and all of them are settled. -/
theorem minLength_pos (h : m.IsMergeOf rules) : 0 < m.minLength := by
  obtain ⟨r, -, hr⟩ := h.minLength.1
  rw [← hr]
  exact r.settledMinLength_pos

/-- The greatest length is raised to the least one where it is smaller. -/
theorem minLength_le_maxLength (h : m.IsMergeOf rules) : m.minLength ≤ m.maxLength := by
  obtain ⟨least, -, heq⟩ := h.maxLength
  rw [heq]
  exact Std.left_le_max

/-- Negative counts are zero before they are compared. -/
theorem counts_nonneg (h : m.IsMergeOf rules) : ∀ f ∈ countFields, 0 ≤ f m := by
  intro f hf
  obtain ⟨r, -, hr⟩ := (h.counts f hf).1
  rw [← hr]
  exact Std.right_le_max

/-- No rule asks for a greater length than the merge. -/
theorem normalized_minLength_le (h : m.IsMergeOf rules) {r : PasswordRule} (hr : r ∈ rules) :
    r.normalized.minLength ≤ m.minLength :=
  h.minLength.2 ⟨r, hr, rfl⟩

/-- No rule asks for more than the merge. -/
theorem count_le (h : m.IsMergeOf rules) {f : PasswordRule → Int32} (hf : f ∈ countFields)
    {r : PasswordRule} (hr : r ∈ rules) : f r ≤ f m :=
  Int32.le_trans Std.left_le_max ((h.counts f hf).2 ⟨r, hr, rfl⟩)

/-- A bound on the greatest length is one on the least length and on some rule's greatest length. -/
theorem maxLength_le_iff (h : m.IsMergeOf rules) {b : Int32} :
    m.maxLength ≤ b ↔ m.minLength ≤ b ∧ ∃ r ∈ rules, r.normalized.maxLength ≤ b := by
  obtain ⟨least, hleast, heq⟩ := h.maxLength
  rw [heq, Std.max_le_iff, isLeast_image_iff.1 hleast]

end IsMergeOf

/-! ## The fold -/

/-- What a combination has if one of the two has it, the fold has if one of the rules has it. -/
theorem foldl_combine_iff {p : PasswordRule → Prop} (hp : ∀ r s, p (r.combine s) ↔ p r ∨ p s)
    (rules : List PasswordRule) (acc : PasswordRule) :
    p (rules.foldl (fun acc s => acc.combine s.normalized) acc) ↔
      p acc ∨ ∃ r ∈ rules, p r.normalized := by
  induction rules generalizing acc with
  | nil => simp only [List.foldl_nil, List.not_mem_nil, false_and, exists_false, or_false]
  | cons r rules ih => rw [List.foldl_cons, ih, hp, List.exists_mem_cons_iff, or_assoc]

/-- Each count is combined by its maximum, settled at zero and kept by the last step. So one
argument serves them all. -/
theorem countFields_laws {f : PasswordRule → Int32} (hf : f ∈ countFields) :
    (∀ r s, f (r.combine s) = max (f r) (f s)) ∧ (∀ r, f r.normalized = max (f r) 0) ∧
      ∀ r, f r.sealed = f r := by
  simp only [countFields, List.mem_cons, List.not_mem_nil, or_false] at hf
  rcases hf with rfl | rfl | rfl | rfl | rfl | rfl
  all_goals exact ⟨fun _ _ => rfl, fun _ => rfl, fun _ => rfl⟩

/-- A merge is what the table says. -/
theorem isMergeOf_mergeAll {rules : List PasswordRule} (hne : rules ≠ []) :
    (mergeAll rules).IsMergeOf {r | r ∈ rules} := by
  obtain ⟨r, rules, rfl⟩ := List.exists_cons_of_ne_nil hne
  -- Before the last step, which raises the greatest length and drops two fields.
  let folded := rules.foldl (fun acc s => acc.combine s.normalized) r.normalized
  have hfolded : ∀ p : PasswordRule → Prop, (∀ r s, p (r.combine s) ↔ p r ∨ p s) →
      (p folded ↔ ∃ q ∈ {q | q ∈ r :: rules}, p q.normalized) := by
    intro p hp
    show p folded ↔ ∃ q ∈ r :: rules, p q.normalized
    rw [List.exists_mem_cons_iff]
    exact foldl_combine_iff hp rules r.normalized
  -- For each field it remains to say what the fold has exactly if some rule has it.
  refine ⟨?_, ⟨folded.maxLength, ?_, rfl⟩, ?_, ?_, ?_, ?_, ?_, rfl, rfl⟩
  · exact isGreatest_image_iff.2 fun b => hfolded (b ≤ ·.minLength) fun _ _ => Std.le_max
  · exact isLeast_image_iff.2 fun b => hfolded (·.maxLength ≤ b) fun _ _ => Std.min_le
  · intro f hf
    obtain ⟨hcombine, hnormalized, hsealed⟩ := countFields_laws hf
    refine isGreatest_image_iff.2 fun b => ?_
    have hiff := hfolded (b ≤ f ·) fun r s => by rw [hcombine, Std.le_max]
    simp only [hnormalized] at hiff
    rw [← hiff]
    exact iff_of_eq (congrArg (b ≤ ·) (hsealed folded))
  · exact fun c => hfolded (c ∈ ·.specialChars) fun _ _ => Ascending.mem_union
  · exact fun c => hfolded (c ∈ ·.illegalChars) fun _ _ => Ascending.mem_union
  · exact fun w => hfolded (w ∈ ·.forbiddenWords) fun _ _ => Ascending.mem_union
  · exact hfolded (·.usernameAllowed = true) fun _ _ => Bool.or_eq_true_iff

/-- **What a merge computes.** For every nonempty list of rules the result is what the table says of
them and nothing else is; so its bounds are positive and fit each other, and no count is negative.
-/
theorem merge_eq_ok_isMergeOf {rules : List PasswordRule} (hne : rules ≠ []) :
    ∃ m, merge (some rules) = .ok m ∧ m.IsMergeOf {r | r ∈ rules} ∧
      (∀ n : PasswordRule, n.IsMergeOf {r | r ∈ rules} → n = m) ∧
      1 ≤ m.minLength ∧ m.minLength ≤ m.maxLength ∧ ∀ f ∈ countFields, 0 ≤ f m := by
  have hmerge := isMergeOf_mergeAll hne
  refine ⟨mergeAll rules, rfl, hmerge, fun n hn => hn.unique hmerge, ?_,
    hmerge.minLength_le_maxLength, hmerge.counts_nonneg⟩
  have hpos := hmerge.minLength_pos
  rw [Int32.lt_iff_toInt_lt, Int32.toInt_zero] at hpos
  rw [Int32.le_iff_toInt_le]
  exact hpos

/-- Rules whose bounds contradict each other, with unset bounds and negative counts. -/
def contraryRules : List PasswordRule :=
  [{ name := "short", maxLength := 3, letters := -2, digits := 1,
     specialChars := .ofList "!%".toList, repeatSame := -1, usernameAllowed := true },
    { name := "long", minLength := 12, uppercase := 3, digits := -5, repeatSame := 4,
      illegalChars := .ofList "0%".toList, forbiddenSchemas := .ofList ["surname"] },
    { maxLength := 14, digits := 2, repeatSame := 2, specialChars := .ofList "%+".toList,
      forbiddenWords := .ofList ["root"] }]

/-- What they put in force. -/
def contraryMerge : PasswordRule where
  minLength := 12
  maxLength := 12
  uppercase := 3
  digits := 2
  specialChars := .ofList "!%+".toList
  illegalChars := .ofList "0%".toList
  repeatSame := 4
  usernameAllowed := true
  forbiddenWords := .ofList ["root"]

theorem merge_contraryRules :
    contraryRules ≠ [] ∧ merge (some contraryRules) = .ok contraryMerge ∧
      contraryMerge.IsMergeOf {r | r ∈ contraryRules} := by
  have hne : contraryRules ≠ [] := by decide
  have hmerge : merge (some contraryRules) = .ok contraryMerge := by decide +kernel
  obtain ⟨m, hm, htable, -⟩ := merge_eq_ok_isMergeOf hne
  rw [hmerge] at hm
  obtain rfl : contraryMerge = m := Except.ok.inj hm
  exact ⟨hne, hmerge, htable⟩

end CredentialPolicy.PasswordRule
