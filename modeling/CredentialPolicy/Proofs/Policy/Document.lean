import CredentialPolicy.Policy.Document
import CredentialPolicy.Proofs.Json.RoundTrip
import CredentialPolicy.Proofs.Text.Uuid

/-!
Policies are read back from their JSON texts.

The text of a policy holds the bodies of its rules, which are themselves texts, often JSON or TOML.
For the reader they are texts like any other, so nothing has to be known of them: a policy is
written as a record of texts, numbers and such records of texts, and JSON text holds it exactly.

A policy that has been read, from either format and with whatever way of writing an identifier, a
kind or a record, is a policy like any other, so writing it as JSON loses nothing either
(`policy_roundTrip`).
-/

set_option autoImplicit false

namespace CredentialPolicy

open Document
open Json (Exact)

/-! ## Stored rules -/

/-- The usual way of writing an identifier is read in both formats. -/
theorem DocumentFormat.uuid?_toText (format : DocumentFormat) (u : Text.Uuid) :
    format.uuid? (.text u.toText) = some u := Text.Uuid.ofText?_toText u

namespace StoredRule

theorem kind?_label (format : DocumentFormat) (kind : RuleKind) :
    kind? format (.text kind.label) = some kind := by
  cases format <;> cases kind <;> decide

/-- The record of a stored rule is read as the rule, as in every format. -/
theorem ofValue?_toValue (format : DocumentFormat) (r : StoredRule) :
    ofValue? format r.toValue = some r := by
  have hkeys : fieldNames.Nodup := by decide
  obtain ⟨f, hf, hgives⟩ := Fields.exists_gives
    [("key", .text r.key), ("engine", .text r.engine), ("type", .text r.kind.label),
      ("body", .text r.body)] hkeys format.surplus fieldNames
  simp only [Fields.Gives, List.forall_mem_cons] at hgives
  obtain ⟨hkey, hengine, htype, hbody, -⟩ := hgives
  simp only [ofValue?, toValue, hf, Option.bind_eq_bind, Option.bind_some,
    Fields.required_of_eq hkey, Fields.required_of_eq hengine, Fields.required_of_eq htype,
    Fields.required_of_eq hbody, Value.text?, kind?_label]
  rfl

/-- A stored rule is a record of texts, so it nests one deep. -/
theorem exact_toValue (r : StoredRule) (depth : Nat) : Exact (depth + 1) r.toValue := by
  refine .record _ ?_
  simp only [List.forall_mem_cons, Exact.text, true_and]
  exact nofun

end StoredRule

/-! ## Policies -/

namespace PasswordPolicy

/-- The record of a policy is read as the policy. -/
theorem ofValue?_toValue (format : DocumentFormat) (fresh : Text.Uuid) (p : PasswordPolicy) :
    ofValue? format fresh p.toValue = some p := by
  have hkeys : fieldNames.Nodup := by decide
  obtain ⟨f, hf, hgives⟩ := Fields.exists_gives
    [("id", .text p.id.toText), ("name", .text p.name),
      ("allow_null_password", .bool p.allowNullPassword),
      ("history_length", .ofInt32 p.historyLength),
      ("rules", .list (p.rules.map StoredRule.toValue))] hkeys format.surplus fieldNames
  simp only [Fields.Gives, List.forall_mem_cons] at hgives
  obtain ⟨hid, hname, hnull, hhistory, hrules, -⟩ := hgives
  simp only [ofValue?, toValue, hf, Option.bind_eq_bind, Option.bind_some,
    Fields.withDefault_of_eq hid, Fields.required_of_eq hname, Fields.withDefault_of_eq hnull,
    Fields.withDefault_of_eq hhistory, Fields.withDefault_of_eq hrules,
    DocumentFormat.uuid?_toText, Value.text?, Value.bool?, Value.int32?_ofInt32,
    Value.items?_map (StoredRule.ofValue?_toValue format)]
  rfl

/-- A policy holds a list of stored rules, so it nests three deep. -/
theorem exact_toValue (p : PasswordPolicy) (depth : Nat) : Exact (depth + 3) p.toValue := by
  refine .record _ ?_
  simp only [List.forall_mem_cons, Exact.text, Exact.bool, Exact.ofInt32,
    Exact.list_map (StoredRule.exact_toValue · depth), true_and]
  exact nofun

/-- The JSON text of a policy describes the policy. -/
theorem ofText?_toText (fresh : Text.Uuid) (p : PasswordPolicy) :
    ofText? .json fresh p.toText = some p := by
  rw [ofText?, toText, DocumentFormat.read?, Json.read?_write (p.exact_toValue 124),
    Option.bind_some, ofValue?_toValue]

end PasswordPolicy

namespace AccountPolicy

/-- The record of a policy is read as the policy. -/
theorem ofValue?_toValue (format : DocumentFormat) (fresh : Text.Uuid) (p : AccountPolicy) :
    ofValue? format fresh p.toValue = some p := by
  have hkeys : fieldNames.Nodup := by decide
  obtain ⟨f, hf, hgives⟩ := Fields.exists_gives
    [("id", .text p.id.toText), ("name", .text p.name),
      ("propagate_suspension", .bool p.propagateSuspension),
      ("max_authentication_attempts", .ofInt32 p.maxAuthenticationAttempts),
      ("rules", .list (p.rules.map StoredRule.toValue))] hkeys format.surplus fieldNames
  simp only [Fields.Gives, List.forall_mem_cons] at hgives
  obtain ⟨hid, hname, hpropagate, hattempts, hrules, -⟩ := hgives
  simp only [ofValue?, toValue, hf, Option.bind_eq_bind, Option.bind_some,
    Fields.withDefault_of_eq hid, Fields.required_of_eq hname, Fields.withDefault_of_eq hpropagate,
    Fields.withDefault_of_eq hattempts, Fields.withDefault_of_eq hrules,
    DocumentFormat.uuid?_toText, Value.text?, Value.bool?, Value.int32?_ofInt32,
    Value.items?_map (StoredRule.ofValue?_toValue format)]
  rfl

theorem exact_toValue (p : AccountPolicy) (depth : Nat) : Exact (depth + 3) p.toValue := by
  refine .record _ ?_
  simp only [List.forall_mem_cons, Exact.text, Exact.bool, Exact.ofInt32,
    Exact.list_map (StoredRule.exact_toValue · depth), true_and]
  exact nofun

/-- The JSON text of a policy describes the policy. -/
theorem ofText?_toText (fresh : Text.Uuid) (p : AccountPolicy) :
    ofText? .json fresh p.toText = some p := by
  rw [ofText?, toText, DocumentFormat.read?, Json.read?_write (p.exact_toValue 124),
    Option.bind_some, ofValue?_toValue]

end AccountPolicy

/-- **Policies survive their documents.** A policy of either sort is read back from its JSON text,
whichever identifier is the fresh one. And whatever a text of either format describes, writing that
as JSON and reading it once more gives the same: the same identifier, the same fields and the same
rules, in their order and each as often as before. -/
theorem policy_roundTrip :
    (∀ (p : PasswordPolicy) (fresh : Text.Uuid),
      PasswordPolicy.ofText? .json fresh p.toText = some p) ∧
    (∀ (p : AccountPolicy) (fresh : Text.Uuid),
      AccountPolicy.ofText? .json fresh p.toText = some p) ∧
    ∀ (format : DocumentFormat) (text : String) (fresh fresh' : Text.Uuid),
      ((PasswordPolicy.ofText? format fresh text).bind fun p =>
          PasswordPolicy.ofText? .json fresh' p.toText) =
        PasswordPolicy.ofText? format fresh text ∧
      ((AccountPolicy.ofText? format fresh text).bind fun p =>
          AccountPolicy.ofText? .json fresh' p.toText) =
        AccountPolicy.ofText? format fresh text := by
  refine ⟨fun p fresh => p.ofText?_toText fresh, fun p fresh => p.ofText?_toText fresh,
    fun format text fresh fresh' => ⟨?_, ?_⟩⟩
  · simp only [PasswordPolicy.ofText?_toText, Option.bind_fun_some]
  · simp only [AccountPolicy.ofText?_toText, Option.bind_fun_some]

example : (PasswordPolicy.ofText? .toml ⟨0⟩ <|
      "name = 'n'\nid = 'urn:uuid:0190C5F2-7D4E-7B3A-8C1D-2E3F4A5B6C7D'\n" ++
      "rules = [['k', 'JSON', 'PASSWORD_RULE', '\"']]").map (fun p => (p.id.toText, p.rules)) =
    some ("0190c5f2-7d4e-7b3a-8c1d-2e3f4a5b6c7d", [⟨"k", "JSON", .password, "\""⟩]) := by
  decide +kernel

end CredentialPolicy
