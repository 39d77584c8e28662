import CredentialPolicy.Generation.Policies
import CredentialPolicy.Proofs.Generation.Soundness

/-!
Passwords for policies honour every rule.

All rules of all policies that resolve are put in force together, and a password honours the rule in
force (`Candidate.honours`). What that says of a single rule among the others follows field by field
from the table of the merge: counts and least lengths take their maximum and sets their union, so
nothing a rule asks for is lost (`HonoursAmong`).

The greatest length takes its minimum, which is what every rule asks for unless some rule's least
length lies above it (`Crossed`). Then no length suits all rules, and the least lengths prevail: the
password is exactly as long as the largest of them.
-/

set_option autoImplicit false

namespace CredentialPolicy.Generation

open CredentialPolicy.Random

variable {σ : Type} [WordSource σ]

/-! ## The rules of some policies -/

/-- The rules of some policies are the password rules that their stored rules resolve to. -/
theorem mem_rulesOf {registry : Registry} {policies : List PasswordPolicy} {r : PasswordRule} :
    r ∈ rulesOf registry policies ↔ ∃ stored, (∃ p ∈ policies, stored ∈ p.rules) ∧
      (registry.resolve? stored).bind Rule.password? = some r := by
  simp only [rulesOf, List.mem_flatMap, Registry.passwordRules, List.mem_filterMap]
  constructor
  · rintro ⟨p, hp, stored, hstored, hr⟩
    exact ⟨stored, ⟨p, hp, hstored⟩, hr⟩
  · rintro ⟨stored, ⟨p, hp, hstored⟩, hr⟩
    exact ⟨p, hp, stored, hstored, hr⟩

/-- Where some rule resolves, the rules that do are put in force together. -/
theorem passwordFor_of_ne_nil {registry : Registry} {policies : List PasswordPolicy}
    (hne : rulesOf registry policies ≠ []) (maxAttempts : UInt32) :
    (passwordFor registry maxAttempts (some policies) : Draw σ String) =
      compose maxAttempts (PasswordRule.mergeAll (rulesOf registry policies)) := by
  obtain ⟨r, rules, hrules⟩ := List.exists_cons_of_ne_nil hne
  rw [passwordFor, hrules]

/-- Where no rule resolves, the password is the default one. -/
theorem passwordFor_of_eq_nil {registry : Registry} {policies : List PasswordPolicy}
    (hnil : rulesOf registry policies = []) (maxAttempts : UInt32) :
    (passwordFor registry maxAttempts (some policies) : Draw σ String) = defaultPassword := by
  rw [passwordFor, hnil]

/-! ## One rule among others -/

/-- Some rule's least length exceeds the smallest of the greatest lengths. -/
def Crossed (rules : Set PasswordRule) : Prop :=
  ∃ least, IsLeast ((fun r => r.normalized.maxLength) '' rules) least ∧
    ∃ r ∈ rules, least < r.normalized.minLength

/-- What a text keeps of a rule `c` that is in force together with others. -/
structure HonoursAmong (rules : Set PasswordRule) (c : PasswordRule) (text : List Char) :
    Prop where
  minLength_le : count c.minLength ≤ text.length
  eight_le_of_unset : c.minLength ≤ 0 → 8 ≤ text.length
  digits : count c.digits ≤ CharClass.digit.countIn text
  uppercase : count c.uppercase ≤ CharClass.uppercase.countIn text
  lowercase : count c.lowercase ≤ CharClass.lowercase.countIn text
  letters : count c.letters ≤ text.countP (IsLetter ·)
  legal : ∀ a ∈ text, ¬ a ∈ c.illegalChars
  words : ∀ w ∈ c.forbiddenWords, w ≠ "" → ¬ Unicode.lower w.toList <:+: Unicode.lower text
  length_le : ¬ Crossed rules → text.length ≤ count c.normalized.maxLength
  length_eq : Crossed rules → ∃ greatest,
    IsGreatest ((fun r => r.normalized.minLength) '' rules) greatest ∧
      text.length = count greatest

section

variable {m c : PasswordRule} {rules : Set PasswordRule} {text : List Char}
  (hm : m.IsMergeOf rules)

include hm

/-- Where the bounds of the rules are not crossed, the rule in force keeps each greatest length. -/
theorem maxLength_le_of_not_crossed (h : ¬ Crossed rules) (hc : c ∈ rules) :
    m.maxLength ≤ c.normalized.maxLength := by
  obtain ⟨least, hleast, heq⟩ := hm.maxLength
  -- The least length in force is that of some rule, so it does not exceed the smallest bound.
  obtain ⟨r, hr, hmin⟩ := hm.minLength.1
  have hle : m.minLength ≤ least := by
    rw [← hmin]
    exact Std.not_lt.1 fun hlt => h ⟨least, hleast, r, hr, hlt⟩
  rw [heq, PasswordRule.max_eq_right hle]
  exact hleast.2 ⟨c, hc, rfl⟩

/-- Where they are crossed, the rule in force has one length. -/
theorem maxLength_eq_of_crossed (h : Crossed rules) : m.maxLength = m.minLength := by
  obtain ⟨least, hleast, heq⟩ := hm.maxLength
  obtain ⟨least', hleast', r, hr, hlt⟩ := h
  have hle : least ≤ m.minLength := by
    rw [PasswordRule.isLeast_unique hleast hleast']
    exact Int32.le_trans (Int32.le_of_lt hlt) (hm.normalized_minLength_le hr)
  rw [heq, PasswordRule.max_eq_left hle]

/-- What honours the rule in force honours each rule that was merged. -/
theorem Honours.among (h : Honours m text) (hc : c ∈ rules) : HonoursAmong rules c text := by
  -- The rule in force asks for no less than this one, so what is left is to compare the two.
  have hcount : ∀ f ∈ PasswordRule.countFields, count (f c) ≤ count (f m) := fun f hf =>
    count_le_count (hm.count_le hf hc)
  obtain ⟨hletters, huppercase, hlowercase, hdigits, -⟩ :=
    PasswordRule.forall_mem_countFields.1 hcount
  have hlength : count m.minLength ≤ text.length :=
    Nat.le_trans (Nat.le_max_left _ _) h.minLength_le
  have hsettled : c.settledMinLength ≤ m.minLength := hm.normalized_minLength_le hc
  refine ⟨?_, fun hunset => ?_, ?_, Nat.le_trans huppercase h.uppercase,
    Nat.le_trans hlowercase h.lowercase, ?_, fun a ha hillegal => ?_, fun w hw => ?_,
    fun hfit => ?_, fun hcrossed => ?_⟩
  · exact Nat.le_trans (count_le_count (Int32.le_trans c.le_settledMinLength hsettled)) hlength
  · rw [PasswordRule.settledMinLength_of_unset hunset] at hsettled
    exact Nat.le_trans (count_le_count hsettled) hlength
  · rw [h.digits]
    exact hdigits
  · have := h.letters
    omega
  · exact h.legal a ha ((hm.illegalChars a).2 ⟨c, hc, hillegal⟩)
  · exact h.words w ((hm.forbiddenWords w).2 ⟨c, hc, hw⟩)
  · exact Nat.le_trans h.length_le (count_le_count (maxLength_le_of_not_crossed hm hfit hc))
  · have hmax := h.length_le
    rw [maxLength_eq_of_crossed hm hcrossed] at hmax
    exact ⟨m.minLength, hm.minLength, Nat.le_antisymm hmax hlength⟩

end

/-! ## Every rule of every policy -/

/-- **A password for policies honours every rule.** Whatever the registry, the policies, the number
of attempts and the words that the source hands out, the password keeps what each rule of each
policy asks for that resolves. -/
theorem honoursAmong_of_passwordFor {registry : Registry} {maxAttempts : UInt32}
    {policies : List PasswordPolicy} {s : σ} {p : String}
    (h : (passwordFor registry maxAttempts (some policies) s).1 = .ok p) :
    ∀ policy ∈ policies, ∀ c ∈ registry.passwordRules policy,
      HonoursAmong {r | r ∈ rulesOf registry policies} c p.toList := by
  intro policy hpolicy c hc
  have hmem : c ∈ rulesOf registry policies := List.mem_flatMap.2 ⟨policy, hpolicy, hc⟩
  have hne := List.ne_nil_of_mem hmem
  rw [passwordFor_of_ne_nil hne] at h
  obtain ⟨hcandidate, haccepts⟩ := candidate_of_compose (PasswordRule.mergeAll_inForce _) h
  exact (hcandidate.honours haccepts).among (PasswordRule.isMergeOf_mergeAll hne) hmem

/-! ### Rules in conflict -/

/-- A stored rule that wants nine characters and more, special ones among them. -/
def wideRule : StoredRule where
  key := "wide"
  engine := "JSON"
  kind := .password
  body := "[\"default_password_rule\",\"\",9,20,0,0,0,2,2,[\"!\",\"%\"]]"

/-- A stored rule that wants six characters at most and refuses a special one of the other rule. -/
def tightRule : StoredRule where
  key := "tight"
  engine := "JSON"
  kind := .password
  body := "[\"default_password_rule\",\"\",0,6,0,-1,1,0,0,[],[\"!\"]]"

/-- A stored rule of an engine that is not registered. -/
def strayRule : StoredRule := { wideRule with key := "stray", engine := "YAML" }

/-- Two policies, the first with a rule that does not resolve. -/
def conflictingPolicies : List PasswordPolicy :=
  [{ id := ⟨1⟩, name := "first", rules := [wideRule, strayRule] },
    { id := ⟨2⟩, name := "second", rules := [tightRule] }]

/-- The rules of the two policies. -/
def conflictingRules : List PasswordRule :=
  [{ minLength := 9, maxLength := 20, digits := 2, specials := 2,
     specialChars := .ofList ['!', '%'] },
    { maxLength := 6, uppercase := -1, lowercase := 1, illegalChars := .ofList ['!'] }]

/-- Both rules resolve, and the stray one between them does not. -/
theorem rulesOf_conflictingPolicies :
    rulesOf Registry.standard conflictingPolicies = conflictingRules := by decide +kernel

theorem honoursAmong_conflictingPolicies :
    (passwordFor Registry.standard 3 (some conflictingPolicies) crowdedWords).1 = .ok "%qH38l%QX" ∧
      ∀ policy ∈ conflictingPolicies, ∀ c ∈ Registry.standard.passwordRules policy,
        HonoursAmong {r | r ∈ rulesOf Registry.standard conflictingPolicies} c
          "%qH38l%QX".toList := by
  have hne : rulesOf Registry.standard conflictingPolicies ≠ [] := by
    rw [rulesOf_conflictingPolicies]
    exact List.cons_ne_nil _ _
  have hrun : (passwordFor Registry.standard 3 (some conflictingPolicies) crowdedWords).1 =
      .ok "%qH38l%QX" := by
    rw [passwordFor_of_ne_nil hne, rulesOf_conflictingPolicies]
    decide +kernel
  exact ⟨hrun, honoursAmong_of_passwordFor hrun⟩

end CredentialPolicy.Generation
