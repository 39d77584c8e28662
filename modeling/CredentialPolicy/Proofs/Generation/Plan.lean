import CredentialPolicy.Generation.Plan
import CredentialPolicy.Proofs.Charset
import CredentialPolicy.Proofs.Generation.Run
import CredentialPolicy.Proofs.Unicode.Lowercase
import Mathlib.Algebra.Group.Nat.Defs

/-!
When a rule in force has a plan, and what a plan accepts.

A rule is described by two tables: which characters can serve as an ingredient (`Admits`) and how
many of each are required (`demand`). In their terms

* `Unmeetable` lists the ways in which a rule whose required characters fit its greatest length
  still cannot be met, and `Plan.ofRule_cases` says that exactly these are refused;
* the five pools of a plan hold what the rule admits (`mem_pool_of_mem_requirementsOf`), so every
  pool from which something is drawn has a character;
* `Accepts` says what keeps a candidate from being rejected (`rejection?_eq_none_iff`).
-/

set_option autoImplicit false

namespace CredentialPolicy.Generation

/-! ## Counts -/

theorem count_pos_iff {i : Int32} : 0 < count i ↔ 0 < i := by
  rw [count, Int32.lt_iff_toInt_lt, Int32.toInt_zero]
  omega

theorem count_le_count {i j : Int32} (h : i ≤ j) : count i ≤ count j := by
  rw [Int32.le_iff_toInt_le] at h
  exact Int.toNat_le_toNat h

/-- A count stays below the sign bit. -/
theorem count_lt (i : Int32) : count i < 2 ^ 31 := by
  have h := i.toInt_lt
  unfold count
  omega

/-- Each count below `2 ^ 31` is the count of a 32-bit integer. -/
theorem count_ofNat {n : Nat} (h : n < 2 ^ 31) : count (Int32.ofNat n) = n := by
  rw [count, Int32.toInt_ofNat_of_lt h]
  exact Int.toNat_natCast n

/-! ## What a rule in force asks for -/

/-- A letter of either case. -/
def IsLetter (c : Char) : Prop :=
  CharClass.lowercase.contains c = true ∨ CharClass.uppercase.contains c = true

instance : DecidablePred IsLetter := fun _ => inferInstanceAs (Decidable (_ ∨ _))

/-- The characters that can serve as an ingredient: those of its class that are not illegal. A digit
is no special character, whatever the rule counts as special. -/
def Admits (r : PasswordRule) : Ingredient → Char → Prop
  | .uppercase, c => CharClass.uppercase.contains c = true ∧ ¬ c ∈ r.illegalChars
  | .lowercase, c => CharClass.lowercase.contains c = true ∧ ¬ c ∈ r.illegalChars
  | .letter, c | .filler, c => IsLetter c ∧ ¬ c ∈ r.illegalChars
  | .digit, c => CharClass.digit.contains c = true ∧ ¬ c ∈ r.illegalChars
  | .special, c =>
    c ∈ r.specialChars ∧ ¬ c ∈ r.illegalChars ∧ ¬ CharClass.digit.contains c = true

instance (r : PasswordRule) (i : Ingredient) (c : Char) : Decidable (Admits r i c) :=
  match i with
  | .uppercase | .lowercase | .digit => inferInstanceAs (Decidable (_ = true ∧ ¬ _))
  | .letter | .filler => inferInstanceAs (Decidable (IsLetter _ ∧ ¬ _))
  | .special => inferInstanceAs (Decidable (_ ∧ ¬ _ ∧ ¬ _ = true))

/-- How many characters of an ingredient are required. Filler is never required. -/
def demand (r : PasswordRule) : Ingredient → Nat
  | .uppercase => count r.uppercase
  | .lowercase => count r.lowercase
  | .letter => count r.letters
  | .digit => count r.digits
  | .special => count r.specials
  | .filler => 0

/-- Nothing illegal serves as any ingredient. -/
theorem admits_of_illegal {r : PasswordRule} {i : Ingredient} {c : Char} (h : Admits r i c) :
    ¬ c ∈ r.illegalChars := by
  cases i with
  | special => exact h.2.1
  | _ => exact h.2

/-- The pool of the special characters holds those that can serve as one. -/
theorem mem_specialPool {r : PasswordRule} {c : Char} :
    c ∈ specialPool r ↔ Admits r .special c := by
  rw [specialPool, ← Ascending.mem_def, Ascending.mem_filter]
  simp [Admits]

/-- A requirement asks for what the tables say. -/
theorem mem_pool_of_mem_requirementsOf {r : PasswordRule} {q : Requirement}
    (h : q ∈ requirementsOf r) :
    q.count = demand r q.ingredient ∧ ∀ c, c ∈ q.pool ↔ Admits r q.ingredient c := by
  simp only [requirementsOf, List.mem_cons, List.not_mem_nil, or_false] at h
  rcases h with rfl | rfl | rfl | rfl | rfl
  · exact ⟨rfl, fun c => by simp [mem_pool, Admits]⟩
  · exact ⟨rfl, fun c => by simp [mem_pool, Admits]⟩
  · exact ⟨rfl, fun c => mem_letterPool⟩
  · exact ⟨rfl, fun c => by simp [mem_pool, Admits]⟩
  · exact ⟨rfl, fun c => mem_specialPool⟩

/-- Whatever is required has its requirement. -/
theorem exists_mem_requirementsOf {r : PasswordRule} {i : Ingredient} (h : 0 < demand r i) :
    ∃ q ∈ requirementsOf r, q.ingredient = i := by
  cases i with
  | filler => exact absurd h (Nat.lt_irrefl 0)
  | _ => simp [requirementsOf]

/-- Every pool is strictly ascending, that of the special characters too. -/
theorem pairwise_pool_of_mem_requirementsOf {r : PasswordRule} {q : Requirement}
    (h : q ∈ requirementsOf r) : q.pool.Pairwise (· < ·) := by
  simp only [requirementsOf, List.mem_cons, List.not_mem_nil, or_false] at h
  rcases h with rfl | rfl | rfl | rfl | rfl
  all_goals exact Ascending.ascending _

/-- No pool is longer than there are characters. -/
theorem length_pool_le_of_mem_requirementsOf {r : PasswordRule} {q : Requirement}
    (h : q ∈ requirementsOf r) : q.pool.length ≤ 0x110000 :=
  length_le_of_ascending (pairwise_pool_of_mem_requirementsOf h)

/-! ## Rules that cannot be met -/

/-- Why a rule in force whose required characters fit its greatest length cannot be met. -/
inductive Unmeetable (r : PasswordRule) : Prop where
  /-- Special characters are required and no character counts as special. -/
  | noSpecials (required : 0 < r.specials) (absent : ∀ c, ¬ c ∈ r.specialChars)
  /-- An ingredient is required and no character can serve as it. -/
  | noneAdmitted (i : Ingredient) (required : 0 < demand r i) (absent : ∀ c, ¬ Admits r i c)
  /-- The least length exceeds the required characters and no letter is left to fill it. -/
  | noFiller (required : requiredCount r < count r.minLength) (absent : ∀ c, ¬ Admits r .filler c)

/-- The plan of a rule that can be met. -/
def Plan.forRule (r : PasswordRule) : Plan where
  requirements := requirementsOf r
  filler := letterPool r.illegalChars
  required := requiredCount r
  minLength := max (count r.minLength) (requiredCount r)
  maxLength :=
    if (letterPool r.illegalChars).isEmpty then max (count r.minLength) (requiredCount r)
    else count r.maxLength
  repeatSame := count r.repeatSame
  words := loweredWords r.forbiddenWords

/-- Required characters that exceed the greatest length are refused before any pool is looked at. -/
theorem ofRule_of_lt {r : PasswordRule} (h : count r.maxLength < requiredCount r) :
    Plan.ofRule r = .error (.requiredExceedMaximum (requiredCount r) (count r.maxLength)) := by
  unfold Plan.ofRule
  dsimp only
  rw [if_pos h]

/-- There is no letter to fill up with exactly if all letters are illegal. -/
theorem isEmpty_letterPool_iff {r : PasswordRule} :
    (letterPool r.illegalChars).isEmpty = true ↔ ∀ c, ¬ Admits r .filler c := by
  rw [List.isEmpty_iff, List.eq_nil_iff_forall_not_mem]
  simp only [mem_letterPool]
  exact Iff.rfl

/-- **The guards of a plan.** A rule whose required characters fit is refused exactly if it cannot
be met, and otherwise has its plan. -/
theorem ofRule_cases {r : PasswordRule} (h : requiredCount r ≤ count r.maxLength) :
    (Unmeetable r ∧ ∃ e, e.category = .invalidArgument ∧ Plan.ofRule r = .error e) ∨
      (¬ Unmeetable r ∧ Plan.ofRule r = .ok (Plan.forRule r)) := by
  unfold Plan.ofRule
  dsimp only
  rw [if_neg (Nat.not_lt.2 h)]
  split
  -- The guards come in the order of the constructors of `Unmeetable`; each gives its own reason.
  · next hspecials =>
    have hnone : r.specialChars.toList = [] := List.isEmpty_iff.1 hspecials.2
    refine Or.inl ⟨.noSpecials hspecials.1 fun c => ?_, _, rfl, rfl⟩
    rw [Ascending.mem_def, hnone]
    exact List.not_mem_nil
  · next hspecials =>
    split
    · next q hq =>
      have hmem := mem_pool_of_mem_requirementsOf (List.mem_of_find?_eq_some hq)
      have hfound := List.find?_some hq
      rw [Bool.and_eq_true, decide_eq_true_eq, List.isEmpty_iff] at hfound
      refine Or.inl ⟨.noneAdmitted q.ingredient (hmem.1 ▸ hfound.1) fun c => ?_, _, rfl, rfl⟩
      rw [← hmem.2, hfound.2]
      exact List.not_mem_nil
    · next hpools =>
      split
      · next hfiller =>
        have hnone := isEmpty_letterPool_iff.1 hfiller.2
        exact Or.inl ⟨.noFiller (by omega) hnone, _, rfl, rfl⟩
      · next hfiller =>
        -- No guard fired, and a way not to be met would have made one of them fire.
        refine Or.inr ⟨?_, rfl⟩
        rintro (⟨hrequired, hnone⟩ | ⟨i, hrequired, hnone⟩ | ⟨hrequired, hnone⟩)
        · refine hspecials ⟨hrequired, List.isEmpty_iff.2 ?_⟩
          exact List.eq_nil_iff_forall_not_mem.2 hnone
        · obtain ⟨q, hq, rfl⟩ := exists_mem_requirementsOf hrequired
          obtain ⟨hcount, hpool⟩ := mem_pool_of_mem_requirementsOf hq
          refine List.find?_eq_none.1 hpools q hq ?_
          rw [Bool.and_eq_true, decide_eq_true_eq, List.isEmpty_iff, hcount]
          refine ⟨hrequired, List.eq_nil_iff_forall_not_mem.2 fun c hc => ?_⟩
          exact hnone c ((hpool c).1 hc)
        · exact hfiller ⟨by omega, isEmpty_letterPool_iff.2 hnone⟩

/-- A rule that fits and can be met has its plan. -/
theorem ofRule_eq_forRule {r : PasswordRule} (hfit : requiredCount r ≤ count r.maxLength)
    (hmeetable : ¬ Unmeetable r) : Plan.ofRule r = .ok (Plan.forRule r) := by
  rcases ofRule_cases hfit with ⟨hunmeetable, -⟩ | ⟨-, hok⟩
  · exact absurd hunmeetable hmeetable
  · exact hok

/-- A rule that has a plan fits, can be met, and has no other plan. -/
theorem ofRule_eq_ok {r : PasswordRule} {p : Plan} (h : Plan.ofRule r = .ok p) :
    requiredCount r ≤ count r.maxLength ∧ ¬ Unmeetable r ∧ p = Plan.forRule r := by
  rcases Nat.lt_or_ge (count r.maxLength) (requiredCount r) with hlt | hle
  · rw [ofRule_of_lt hlt] at h
    cases h
  · rcases ofRule_cases hle with ⟨-, e, -, he⟩ | ⟨hmeetable, hok⟩
    · rw [he] at h
      cases h
    · rw [hok] at h
      exact ⟨hle, hmeetable, (Except.ok.inj h).symm⟩

/-- In a plan, what is drawn has a pool. -/
theorem pool_ne_nil_of_meetable {r : PasswordRule} (h : ¬ Unmeetable r) {q : Requirement}
    (hq : q ∈ requirementsOf r) : q.count = 0 ∨ q.pool ≠ [] := by
  obtain ⟨hcount, hpool⟩ := mem_pool_of_mem_requirementsOf hq
  rcases Nat.eq_zero_or_pos q.count with hzero | hpos
  · exact Or.inl hzero
  · refine Or.inr fun hnil => h (.noneAdmitted q.ingredient (hcount ▸ hpos) fun c hc => ?_)
    rw [← hpool, hnil] at hc
    exact List.not_mem_nil hc

/-! ## What is accepted -/

/-- What keeps a text from being rejected: no character occurs too often in a row, and no forbidden
word occurs when both are in lowercase. -/
structure Accepts (r : PasswordRule) (text : List Char) : Prop where
  runs : 0 < r.repeatSame → ∀ c k, List.replicate k c <:+: text → k ≤ count r.repeatSame
  words : ∀ w ∈ r.forbiddenWords, w ≠ "" → ¬ Unicode.lower w.toList <:+: Unicode.lower text

/-- A plan forbids the lowercase forms of the words, but for the empty one. -/
theorem mem_loweredWords {words : Ascending String} {v : List Char} :
    v ∈ loweredWords words ↔ ∃ w ∈ words, w ≠ "" ∧ Unicode.lower w.toList = v := by
  rw [loweredWords, List.mem_filter, List.mem_map]
  constructor
  · rintro ⟨⟨w, hw, rfl⟩, hne⟩
    refine ⟨w, hw, ?_, rfl⟩
    rintro rfl
    exact absurd hne (by decide)
  · rintro ⟨w, hw, hne, rfl⟩
    refine ⟨⟨w, hw, rfl⟩, ?_⟩
    rw [Bool.not_eq_true', List.isEmpty_eq_false_iff, Ne, Unicode.lower_eq_nil_iff,
      String.toList_eq_nil_iff]
    exact hne

/-- **The check of a candidate.** -/
theorem rejection?_eq_none_iff {r : PasswordRule} {text : List Char} :
    (Plan.forRule r).rejection? text = none ↔ Accepts r text := by
  have hruns : ¬ (0 < (Plan.forRule r).repeatSame ∧
      (Plan.forRule r).repeatSame < longestRun text) ↔
      (0 < r.repeatSame → ∀ c k, List.replicate k c <:+: text → k ≤ count r.repeatSame) := by
    rw [← longestRun_le_iff, ← count_pos_iff]
    show ¬ (0 < count r.repeatSame ∧ count r.repeatSame < longestRun text) ↔ _
    omega
  -- The plan keeps the lowercase forms only, without the empty one, which would occur everywhere.
  have hwords : ¬ (Plan.forRule r).words.any (Text.occursIn · (Unicode.lower text)) = true ↔
      ∀ w ∈ r.forbiddenWords, w ≠ "" → ¬ Unicode.lower w.toList <:+: Unicode.lower text := by
    rw [List.any_eq_true]
    constructor
    · intro hnone w hw hne hinfix
      exact hnone ⟨_, mem_loweredWords.2 ⟨w, hw, hne, rfl⟩, Text.occursIn_iff.2 hinfix⟩
    · rintro hnone ⟨v, hv, hoccurs⟩
      obtain ⟨w, hw, hne, rfl⟩ := mem_loweredWords.1 hv
      exact hnone w hw hne (Text.occursIn_iff.1 hoccurs)
  unfold Plan.rejection?
  dsimp only
  split
  · next hlong =>
    exact ⟨fun h => (Option.some_ne_none _ h).elim, fun h => absurd hlong (hruns.2 h.runs)⟩
  · next hshort =>
    split
    · next hfound =>
      exact ⟨fun h => (Option.some_ne_none _ h).elim, fun h => absurd hfound (hwords.2 h.words)⟩
    · next hnone => exact ⟨fun _ => ⟨hruns.1 hshort, hwords.1 hnone⟩, fun _ => rfl⟩

end CredentialPolicy.Generation
