import CredentialPolicy.Proofs.Policy.Resolution
import CredentialPolicy.Proofs.Rule.Presentation

/-!
A rule that is stored as JSON text resolves to itself.

A rule is written as a record of all its fields, after one that tells its kind. That is one of the
documents of the rule (`Rule.presented_toValue`), so it is read as the rule. What is left is the
text, and a rule's record is one that JSON text holds exactly.
-/

set_option autoImplicit false

namespace CredentialPolicy

open Document
open Json (Exact)

/-! ## Rules as texts -/

namespace Rule

/-- The record of a rule can be used in every part and nests lists in a record. -/
theorem exact_toValue (r : Rule) (depth : Nat) : Exact (depth + 2) r.toValue := by
  cases r with
  | password r =>
    exact .record _ (List.forall_mem_cons.2 ⟨.text _, PasswordRule.exact_of_mem_toFields⟩)
  | account r =>
    exact .record _ (List.forall_mem_cons.2 ⟨.text _, AccountRule.exact_of_mem_toFields⟩)

end Rule

/-- The JSON text of a rule describes the rule. -/
theorem DocumentFormat.rule?_write (r : Rule) :
    DocumentFormat.json.rule? (Json.write r.toValue) = some r := by
  rw [DocumentFormat.rule?, DocumentFormat.read?, Json.read?_write (r.exact_toValue 125),
    Option.bind_some, Rule.ofValue?_of_presented r.presented_toValue]

namespace Registry

/-- **A rule survives storage.** Where JSON is registered, a stored rule whose body is the JSON text
of a rule resolves to that rule if it is declared to be of the rule's kind; if it is declared to be
of the other one, it is refused, and both kinds are named. -/
theorem resolve_written {registry : Registry} {engine : String}
    (h : registry.factory? engine = some DocumentFormat.json) (rule : Rule) (key : String)
    (declared : RuleKind) :
    (declared = rule.kind →
      registry.resolve ⟨key, engine, declared, Json.write rule.toValue⟩ = .ok rule) ∧
    (declared ≠ rule.kind →
      registry.resolve ⟨key, engine, declared, Json.write rule.toValue⟩ =
        .error (.kindMismatch key declared rule.kind)) := by
  have hresolve : registry.resolve ⟨key, engine, declared, Json.write rule.toValue⟩ =
      if rule.kind = declared then .ok rule else .error (.kindMismatch key declared rule.kind) :=
    resolve_of_rule? h (DocumentFormat.rule?_write rule)
  exact ⟨fun hkind => hresolve.trans (if_pos hkind.symm),
    fun hkind => hresolve.trans (if_neg (Ne.symm hkind))⟩

/-- A rule whose texts need every sort of escape. -/
def rawRule : Rule := .account
  { name := "quo\"te"
    minLength := -5
    pattern := some "[a-z\\d]+\x00"
    forbiddenWords := .ofList ["\\\"", "\t\n\x0b", "\u2028é"]
    forbiddenStarts := .ofList [""] }

theorem factory?_standard_json :
    standard.factory? DocumentFormat.json.engine = some DocumentFormat.json := rfl

theorem resolve_written_rawRule :
    standard.factory? DocumentFormat.json.engine = some DocumentFormat.json ∧
      standard.resolve ⟨"raw", "JSON", .account, Json.write rawRule.toValue⟩ = .ok rawRule ∧
      standard.resolve ⟨"raw", "JSON", .password, Json.write rawRule.toValue⟩ =
        .error (.kindMismatch "raw" .password .account) :=
  ⟨factory?_standard_json, (resolve_written factory?_standard_json rawRule "raw" .account).1 rfl,
    (resolve_written factory?_standard_json rawRule "raw" .password).2 nofun⟩

end Registry

end CredentialPolicy
