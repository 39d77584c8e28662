import CredentialPolicy.Proofs.Generation.Policies
import CredentialPolicy.Proofs.Policy.Resolution
import CredentialPolicy.Proofs.Rule.Stages

/-!
Passwords for policies, for a rule, and for no rule.

A password for policies is drawn for the rule that their rules put in force. Drawing one for that
rule by itself puts it in force once more, which changes nothing, since a rule in force is settled
and has nothing left to drop: the two requests agree, and so do the states that they leave.

Where no rule resolves there is nothing to put in force, and the password is the default one. That
is so exactly if every stored rule gives no password rule, in whichever way (`rulesOf_eq_nil_iff`);
a rule that resolves counts however little it asks for.
-/

set_option autoImplicit false

namespace CredentialPolicy.Generation

open CredentialPolicy.Random

variable {σ : Type} [WordSource σ]

/-- No rule of some policies resolves exactly if each stored rule gives none. -/
theorem rulesOf_eq_nil_iff {registry : Registry} {policies : List PasswordPolicy} :
    rulesOf registry policies = [] ↔
      ∀ p ∈ policies, ∀ stored ∈ p.rules, registry.Idle stored := by
  simp only [rulesOf, List.flatMap_eq_nil_iff, Registry.passwordRules, List.filterMap_eq_nil_iff,
    Registry.bind_password?_eq_none_iff]

/-- A rule in force is put in force as it is, so a password for it is composed for it. -/
theorem passwordForRule_mergeAll (maxAttempts : UInt32) (rules : List PasswordRule) :
    (passwordForRule maxAttempts (PasswordRule.mergeAll rules) : Draw σ String) =
      compose maxAttempts (PasswordRule.mergeAll rules) := by
  unfold passwordForRule
  rw [PasswordRule.mergeAll_singleton_mergeAll]

/-- **The requests for a password agree.** Where some rule of the policies resolves, a password for
the policies is one for the rule that the resolved rules put in force: the result is the same, and
so is the state that is left. Where none resolves, which is so exactly if every stored rule is idle,
result and state are those of the default password. -/
theorem passwordFor_agrees (registry : Registry) (policies : List PasswordPolicy)
    (maxAttempts : UInt32) (s : σ) :
    (rulesOf registry policies ≠ [] →
      ∃ m, PasswordRule.merge (some (rulesOf registry policies)) = .ok m ∧
        passwordFor registry maxAttempts (some policies) s = passwordForRule maxAttempts m s) ∧
    (rulesOf registry policies = [] ↔
      ∀ p ∈ policies, ∀ stored ∈ p.rules, registry.Idle stored) ∧
    ((∀ p ∈ policies, ∀ stored ∈ p.rules, registry.Idle stored) →
      passwordFor registry maxAttempts (some policies) s = defaultPassword s) := by
  refine ⟨fun hne => ?_, rulesOf_eq_nil_iff, fun hidle => ?_⟩
  · refine ⟨PasswordRule.mergeAll (rulesOf registry policies), rfl, ?_⟩
    rw [passwordFor_of_ne_nil hne, passwordForRule_mergeAll]
  · rw [passwordFor_of_eq_nil (rulesOf_eq_nil_iff.2 hidle)]

/-! ### Policies with idle rules -/

/-- A stored rule whose body is cut off. -/
def brokenRule : StoredRule := { wideRule with key := "broken", body := "[\"default_pass" }

/-- A stored rule that is declared to be about usernames and has a body about passwords. -/
def misplacedRule : StoredRule := { wideRule with key := "misplaced", kind := .account }

/-- A stored rule about usernames. -/
def usernameRule : StoredRule where
  key := "username"
  engine := "JSON"
  kind := .account
  body := "[\"default_account_rule\"]"

/-- Policies of idle rules of every sort. -/
def idlePolicies : List PasswordPolicy :=
  [{ id := ⟨5⟩, name := "fifth", rules := [strayRule, brokenRule] },
    { id := ⟨6⟩, name := "sixth", rules := [] },
    { id := ⟨7⟩, name := "seventh", rules := [misplacedRule, usernameRule] }]

theorem idle_of_mem_idlePolicies :
    ∀ p ∈ idlePolicies, ∀ stored ∈ p.rules, Registry.standard.Idle stored :=
  rulesOf_eq_nil_iff.1 (by decide +kernel)

theorem passwordFor_agrees_conflictingPolicies :
    rulesOf Registry.standard conflictingPolicies ≠ [] ∧
      (∃ m, PasswordRule.merge (some (rulesOf Registry.standard conflictingPolicies)) = .ok m ∧
        passwordFor Registry.standard 3 (some conflictingPolicies) crowdedWords =
          passwordForRule 3 m crowdedWords) ∧
      (∀ p ∈ idlePolicies, ∀ stored ∈ p.rules, Registry.standard.Idle stored) ∧
      passwordFor Registry.standard 3 (some idlePolicies) crowdedWords =
        defaultPassword crowdedWords := by
  have hne : rulesOf Registry.standard conflictingPolicies ≠ [] := by
    rw [rulesOf_conflictingPolicies]
    exact List.cons_ne_nil _ _
  exact ⟨hne, (passwordFor_agrees _ _ 3 crowdedWords).1 hne, idle_of_mem_idlePolicies,
    (passwordFor_agrees _ _ 3 crowdedWords).2.2 idle_of_mem_idlePolicies⟩

end CredentialPolicy.Generation
