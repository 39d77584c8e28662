import CredentialPolicy.Generation.Password
import CredentialPolicy.Policy.Registry

/-!
Passwords for policies: the rules of all policies that resolve are put in force together; where none
resolves the password is the default one.
-/

set_option autoImplicit false

namespace CredentialPolicy.Generation

open CredentialPolicy.Random (WordSource)

variable {σ : Type} [WordSource σ]

/-- The password rules of some policies that resolve, in order. -/
def rulesOf (registry : Registry) (policies : List PasswordPolicy) : List PasswordRule :=
  policies.flatMap registry.passwordRules

/-- A password for the given policies; an absent list is refused. -/
def passwordFor (registry : Registry) (maxAttempts : UInt32)
    (policies : Option (List PasswordPolicy)) : Draw σ String :=
  match policies with
  | none => throw (.missing .passwordPolicies)
  | some ps =>
    match rulesOf registry ps with
    | [] => defaultPassword
    | rules => compose maxAttempts (PasswordRule.mergeAll rules)

end CredentialPolicy.Generation
