import CredentialPolicy.Account.Verdict
import CredentialPolicy.Proofs.Policy.Resolution
import Mathlib.Data.List.Basic

/-!
Policies on usernames are the conjunction of their rules.

One evaluator goes through the rules of all policies. It is set to a rule just before it is asked,
so what it was set to before leaves no trace: every rule is judged as by an evaluator of its own
(`enforceRules_eq_forM`). The verdicts follow one another in the order of the rules up to the first
that is no acceptance, and everything else about a run is read off that list of rules
(`enforcePolicies_eq_forM`): what it says of two lists of policies, and which changes to the stored
rules it cannot notice.

A stored rule has no part in the list if it does not resolve, or resolves to a rule on passwords
(`Registry.Silent`).
-/

set_option autoImplicit false

namespace CredentialPolicy

/-! ## Checks one after the other -/

section Checks

variable {ε α : Type} {check : α → Except ε Unit} {l : List α}

/-- Checks are passed exactly if each of them is. -/
theorem forM_eq_ok_iff : forM l check = .ok () ↔ ∀ a ∈ l, check a = .ok () := by
  induction l with
  | nil => simp [pure, Except.pure]
  | cons a rest ih =>
    rw [List.forM_cons, List.forall_mem_cons, ← ih]
    cases h : check a with
    | error e => simp [bind, Except.bind]
    | ok => simp [bind, Except.bind]

/-- Checks fail with the error of the first one that does. -/
theorem forM_eq_error_iff {e : ε} :
    forM l check = .error e ↔
      ∃ before a after, l = before ++ a :: after ∧ (∀ b ∈ before, check b = .ok ()) ∧
        check a = .error e := by
  constructor
  · intro h
    induction l with
    | nil => exact absurd h (by simp [pure, Except.pure])
    | cons a rest ih =>
      rw [List.forM_cons] at h
      cases ha : check a with
      | error e' =>
        rw [ha] at h
        obtain rfl : e' = e := Except.error.inj h
        exact ⟨[], a, rest, rfl, nofun, ha⟩
      | ok =>
        rw [ha] at h
        obtain ⟨before, b, after, rfl, hbefore, hb⟩ := ih h
        exact ⟨a :: before, b, after, rfl, List.forall_mem_cons.2 ⟨ha, hbefore⟩, hb⟩
  · rintro ⟨before, a, after, rfl, hbefore, ha⟩
    -- The checks in front are passed, so the one that fails is reached.
    rw [List.forM_append, forM_eq_ok_iff.2 hbefore, List.forM_cons, ha]
    rfl

end Checks

/-! ## The rules that have a say -/

/-- What an evaluator of its own says of a user under a rule. -/
def AccountRule.freshVerdict (r : AccountRule) (user : UserSnapshot) : Except PolicyError Unit := do
  let ev ← AccountEvaluator.configure {} (some (.account r))
  ev.enforce user

namespace Registry

/-- The rule on usernames that a stored rule stands for, if it resolves to one. -/
def accountRule? (registry : Registry) (stored : StoredRule) : Option AccountRule :=
  (registry.resolve? stored).bind Rule.account?

/-- A stored rule has no say on usernames: it does not resolve, or it is about passwords. -/
inductive Silent (registry : Registry) (stored : StoredRule) : Prop where
  | unresolved (cause : ResolveError) (h : registry.resolve stored = .error cause)
  | password (r : PasswordRule) (h : registry.resolve stored = .ok (.password r))

/-- The silent rules are those that stand for no rule on usernames. -/
theorem accountRule?_eq_none_iff {registry : Registry} {stored : StoredRule} :
    registry.accountRule? stored = none ↔ registry.Silent stored := by
  unfold accountRule? resolve?
  constructor
  · intro h
    cases hresolve : registry.resolve stored with
    | error cause => exact .unresolved cause hresolve
    | ok rule =>
      rw [hresolve] at h
      cases rule with
      | password r => exact .password r hresolve
      | account r => exact absurd h (Option.some_ne_none r)
  · intro h
    cases h with
    | unresolved cause hresolve => rw [hresolve]; rfl
    | password r hresolve => rw [hresolve]; rfl

instance (registry : Registry) (stored : StoredRule) : Decidable (registry.Silent stored) :=
  decidable_of_iff (registry.accountRule? stored = none) accountRule?_eq_none_iff

end Registry

/-- The rules on usernames among those of some policies, in the order of the policies and of the
rules in each. -/
def usernameRulesOf (registry : Registry) (policies : List AccountPolicy) : List AccountRule :=
  policies.flatMap fun p => p.rules.filterMap registry.accountRule?

/-- The borders between policies do not show in the rules they store together. -/
theorem usernameRulesOf_eq_filterMap (registry : Registry) (policies : List AccountPolicy) :
    usernameRulesOf registry policies =
      (policies.flatMap AccountPolicy.rules).filterMap registry.accountRule? := by
  rw [usernameRulesOf, List.filterMap_flatMap]

theorem usernameRulesOf_append (registry : Registry) (policies others : List AccountPolicy) :
    usernameRulesOf registry (policies ++ others) =
      usernameRulesOf registry policies ++ usernameRulesOf registry others :=
  List.flatMap_append

theorem mem_usernameRulesOf {registry : Registry} {policies : List AccountPolicy}
    {c : AccountRule} :
    c ∈ usernameRulesOf registry policies ↔
      ∃ stored, (∃ p ∈ policies, stored ∈ p.rules) ∧ registry.accountRule? stored = some c := by
  simp only [usernameRulesOf_eq_filterMap, List.mem_filterMap, List.mem_flatMap]

/-! ## One evaluator for all rules -/

/-- Whatever the evaluator was set to, rules are judged as by an evaluator of their own each. -/
theorem enforceRules_eq_forM (user : UserSnapshot) (ev : AccountEvaluator) (rules : List Rule) :
    enforceRules user ev rules =
      forM (rules.filterMap Rule.account?) fun c => c.freshVerdict user := by
  induction rules generalizing ev with
  | nil => rfl
  | cons rule rest ih =>
    cases rule with
    | password r => exact ih ev
    | account r =>
      -- The rule replaces what the evaluator had been set to.
      have hstep : enforceRules user ev (.account r :: rest) =
          r.freshVerdict user >>= fun _ => enforceRules user ⟨some r⟩ rest := rfl
      have hrules : (Rule.account r :: rest).filterMap Rule.account? =
          r :: rest.filterMap Rule.account? := rfl
      rw [hstep, hrules, List.forM_cons]
      cases hr : r.freshVerdict user with
      | error e => rfl
      | ok => exact ih ⟨some r⟩

/-- A run is a list of checks, one for each rule on usernames. All that is said of runs below goes
through this list. -/
theorem enforcePolicies_eq_forM (registry : Registry) (policies : List AccountPolicy)
    (user : UserSnapshot) :
    enforcePolicies registry (some policies) user =
      forM (usernameRulesOf registry policies) fun c => c.freshVerdict user := by
  have hrules : (policies.flatMap registry.accountRules).filterMap Rule.account? =
      usernameRulesOf registry policies := by
    rw [List.filterMap_flatMap, usernameRulesOf]
    refine congrArg (List.flatMap · policies) (funext fun p => ?_)
    rw [Registry.accountRules, List.filterMap_filterMap]
    rfl
  rw [enforcePolicies, enforceRules_eq_forM, hrules]

section

variable {registry : Registry} {policies others : List AccountPolicy}

/-- Policies that store the same rules in the same order, but for silent ones, have the same rules
on usernames. -/
theorem usernameRulesOf_congr
    (h : (policies.flatMap AccountPolicy.rules).filter (¬ registry.Silent ·) =
      (others.flatMap AccountPolicy.rules).filter (¬ registry.Silent ·)) :
    usernameRulesOf registry policies = usernameRulesOf registry others := by
  have hfilter (l : List StoredRule) :
      l.filterMap registry.accountRule? =
        (l.filter (¬ registry.Silent ·)).filterMap registry.accountRule? := by
    rw [List.filterMap_filter]
    refine congrArg (List.filterMap · l) (funext fun stored => ?_)
    by_cases hsilent : registry.Silent stored
    · simp [hsilent, Registry.accountRule?_eq_none_iff.2 hsilent]
    · simp [hsilent]
  rw [usernameRulesOf_eq_filterMap, usernameRulesOf_eq_filterMap, hfilter, h, ← hfilter]

/-- Silent rules may be put in at any place of any policy. -/
theorem usernameRulesOf_insert (front back : List AccountPolicy) {p : AccountPolicy}
    {l extra r : List StoredRule} (hp : p.rules = l ++ r)
    (h : ∀ stored ∈ extra, registry.Silent stored) :
    usernameRulesOf registry (front ++ { p with rules := l ++ extra ++ r } :: back) =
      usernameRulesOf registry (front ++ p :: back) := by
  have hextra : extra.filter (¬ registry.Silent ·) = [] := by
    rw [List.filter_eq_nil_iff]
    intro stored hstored
    simp [h stored hstored]
  apply usernameRulesOf_congr
  simp only [List.flatMap_append, List.flatMap_cons, List.filter_append, hp, hextra,
    List.append_nil]

/-- Policies that store the same rules, but for silent ones, have rules on usernames that accept the
same users. -/
theorem forall_mem_usernameRulesOf_congr
    (h : ∀ stored, ¬ registry.Silent stored →
      ((∃ p ∈ policies, stored ∈ p.rules) ↔ ∃ p ∈ others, stored ∈ p.rules))
    (P : AccountRule → Prop) :
    (∀ c ∈ usernameRulesOf registry policies, P c) ↔
      ∀ c ∈ usernameRulesOf registry others, P c := by
  refine forall_congr' fun c => imp_congr_left ?_
  rw [mem_usernameRulesOf, mem_usernameRulesOf]
  refine exists_congr fun stored => and_congr_left fun hc => h stored ?_
  rw [← Registry.accountRule?_eq_none_iff, hc]
  exact Option.some_ne_none c

end

/-- **Policies on usernames are the conjunction of their rules.** A user is accepted exactly if each
rule accepts by itself, and otherwise refused with what the first rule says that does not. So
policies are enforced one after the other; which users are accepted depends neither on the order
of the rules nor on how often they are stored; rules without a say change nothing wherever they
stand; and what the evaluator was set to before is of no effect on any verdict. -/
theorem enforcePolicies_conjunction (registry : Registry) (policies : List AccountPolicy)
    (user : UserSnapshot) :
    (enforcePolicies registry (some policies) user = .ok () ↔
      ∀ c ∈ usernameRulesOf registry policies, c.freshVerdict user = .ok ()) ∧
    (∀ e, enforcePolicies registry (some policies) user = .error e ↔
      ∃ before c after, usernameRulesOf registry policies = before ++ c :: after ∧
        (∀ b ∈ before, b.freshVerdict user = .ok ()) ∧ c.freshVerdict user = .error e) ∧
    (∀ others, enforcePolicies registry (some (policies ++ others)) user =
      match enforcePolicies registry (some policies) user with
      | .error e => .error e
      | .ok () => enforcePolicies registry (some others) user) ∧
    (∀ others : List AccountPolicy,
      (∀ stored, ¬ registry.Silent stored →
        ((∃ p ∈ policies, stored ∈ p.rules) ↔ ∃ p ∈ others, stored ∈ p.rules)) →
      (enforcePolicies registry (some policies) user = .ok () ↔
        enforcePolicies registry (some others) user = .ok ())) ∧
    (∀ others : List AccountPolicy,
      (policies.flatMap AccountPolicy.rules).filter (¬ registry.Silent ·) =
          (others.flatMap AccountPolicy.rules).filter (¬ registry.Silent ·) →
      enforcePolicies registry (some policies) user =
        enforcePolicies registry (some others) user) ∧
    (∀ (front back : List AccountPolicy) (p : AccountPolicy) (l extra r : List StoredRule),
      policies = front ++ p :: back → p.rules = l ++ r →
      (∀ stored ∈ extra, registry.Silent stored) →
      enforcePolicies registry (some (front ++ { p with rules := l ++ extra ++ r } :: back)) user =
        enforcePolicies registry (some policies) user) ∧
    ∀ ev rules, enforceRules user ev rules =
      forM (rules.filterMap Rule.account?) fun c => c.freshVerdict user := by
  refine ⟨?_, fun e => ?_, fun others => ?_, fun others h => ?_, fun others h => ?_,
    fun front back p l extra r hpolicies hp h => ?_, enforceRules_eq_forM user⟩
  · rw [enforcePolicies_eq_forM, forM_eq_ok_iff]
  · rw [enforcePolicies_eq_forM, forM_eq_error_iff]
  · rw [enforcePolicies_eq_forM registry (policies ++ others), usernameRulesOf_append,
      List.forM_append, ← enforcePolicies_eq_forM, ← enforcePolicies_eq_forM]
    cases enforcePolicies registry (some policies) user <;> rfl
  · rw [enforcePolicies_eq_forM, enforcePolicies_eq_forM, forM_eq_ok_iff, forM_eq_ok_iff]
    exact forall_mem_usernameRulesOf_congr h _
  · rw [enforcePolicies_eq_forM, enforcePolicies_eq_forM, usernameRulesOf_congr h]
  · rw [enforcePolicies_eq_forM, enforcePolicies_eq_forM, hpolicies,
      usernameRulesOf_insert front back hp h]

/-! ### Rules of every sort -/

/-- A stored rule that refuses a word. -/
def wordRule : StoredRule where
  key := "word"
  engine := "JSON"
  kind := .account
  body := "[\"default_account_rule\",\"\",0,0,null,false,false,[\"root\"]]"

/-- A stored rule that wants six characters. -/
def lengthRule : StoredRule where
  key := "length"
  engine := "JSON"
  kind := .account
  body := "[\"default_account_rule\",\"\",6]"

/-- Stored rules without a say: of no known engine, with no readable body, and about passwords. -/
def silentRules : List StoredRule :=
  [{ lengthRule with key := "stray", engine := "YAML" },
    { wordRule with key := "broken", body := "[" },
    { key := "password", engine := "JSON", kind := .password,
      body := "[\"default_password_rule\"]" }]

/-- A policy with the word. -/
def wordPolicy : AccountPolicy := { id := ⟨1⟩, name := "word", rules := [wordRule] }

/-- A policy with the length. -/
def lengthPolicy : AccountPolicy := { id := ⟨2⟩, name := "length", rules := [lengthRule] }

/-- The first of the two with silent rules in front of its own. -/
def crowdedPolicies : List AccountPolicy :=
  [{ wordPolicy with rules := silentRules ++ [wordRule] }, lengthPolicy]

theorem enforcePolicies_crowdedPolicies :
    enforcePolicies Registry.standard (some [wordPolicy, lengthPolicy]) { username := "root" } =
        .error (.violation (.forbiddenWord "root")) ∧
      (∀ stored ∈ silentRules, Registry.standard.Silent stored) ∧
      enforcePolicies Registry.standard (some crowdedPolicies) { username := "root" } =
        .error (.violation (.forbiddenWord "root")) ∧
      (∀ stored, ¬ Registry.standard.Silent stored →
        ((∃ p ∈ [wordPolicy, lengthPolicy], stored ∈ p.rules) ↔
          ∃ p ∈ [lengthPolicy, wordPolicy, lengthPolicy], stored ∈ p.rules)) ∧
      enforcePolicies Registry.standard (some [lengthPolicy, wordPolicy, lengthPolicy])
        { username := "root" } ≠ .ok () := by
  have hrun : enforcePolicies Registry.standard (some [wordPolicy, lengthPolicy])
      { username := "root" } = .error (.violation (.forbiddenWord "root")) := by decide +kernel
  have hsilent : ∀ stored ∈ silentRules, Registry.standard.Silent stored := by decide +kernel
  have hrules : ∀ stored, ¬ Registry.standard.Silent stored →
      ((∃ p ∈ [wordPolicy, lengthPolicy], stored ∈ p.rules) ↔
        ∃ p ∈ [lengthPolicy, wordPolicy, lengthPolicy], stored ∈ p.rules) := by
    intro stored _
    simpa [wordPolicy, lengthPolicy] using Or.inr
  obtain ⟨-, -, -, hsame, -, hinsert, -⟩ := enforcePolicies_conjunction Registry.standard
    [wordPolicy, lengthPolicy] { username := "root" }
  refine ⟨hrun, hsilent, ?_, hrules, fun hok => ?_⟩
  · have hsame := hinsert [] [lengthPolicy] wordPolicy [] silentRules [wordRule] rfl rfl hsilent
    exact hsame.trans hrun
  · rw [(hsame _ hrules).2 hok] at hrun
    exact absurd hrun nofun

end CredentialPolicy
