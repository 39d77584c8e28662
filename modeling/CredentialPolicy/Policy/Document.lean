import CredentialPolicy.Document.Format
import CredentialPolicy.Json.Writer
import CredentialPolicy.Policy.Basic

/-!
Policies as documents, in JSON and in TOML.

Only the name has to be given; a policy without an identifier takes a fresh one.
-/

set_option autoImplicit false

namespace CredentialPolicy

open Document

namespace DocumentFormat

/-- The number below 256 that a value is. -/
def byte? : Value → Option Nat
  | .int i => if 0 ≤ i ∧ i < 256 then some i.toNat else none
  | _ => none

/-- An identifier: its text or, in TOML, the list of its bytes. -/
def uuid? (format : DocumentFormat) : Value → Option Text.Uuid
  | .text s => Text.Uuid.ofText? s
  | .list items =>
    if format = .toml ∧ 16 ≤ items.length then
      ((items.take 16).mapM byte?).map fun bytes =>
        ⟨BitVec.ofNat 128 (bytes.foldl (fun acc b => acc * 256 + b) 0)⟩
    else none
  | _ => none

end DocumentFormat

namespace StoredRule

/-- The names of the fields, in order. -/
def fieldNames : List String := ["key", "engine", "type", "body"]

/-- The kind with a given label. -/
def kind? (format : DocumentFormat) (v : Value) : Option RuleKind := do
  let label ← format.choice? v
  RuleKind.all.find? (·.label = label)

/-- The stored rule that a document describes. -/
def ofValue? (format : DocumentFormat) (v : Value) : Option StoredRule := do
  let f ← Fields.ofValue? format.surplus fieldNames v
  let key ← f.required "key" Value.text?
  let engine ← f.required "engine" Value.text?
  let kind ← f.required "type" (kind? format)
  let body ← f.required "body" Value.text?
  return { key, engine, kind, body }

/-- The stored rule as a record. -/
def toValue (r : StoredRule) : Value :=
  .record [("key", .text r.key), ("engine", .text r.engine), ("type", .text r.kind.label),
    ("body", .text r.body)]

end StoredRule

namespace PasswordPolicy

/-- The names of the fields, in order. -/
def fieldNames : List String := ["id", "name", "allow_null_password", "history_length", "rules"]

/-- The policy that a document describes. -/
def ofValue? (format : DocumentFormat) (fresh : Text.Uuid) (v : Value) : Option PasswordPolicy := do
  let f ← Fields.ofValue? format.surplus fieldNames v
  let id ← f.withDefault "id" format.uuid? fresh
  let name ← f.required "name" Value.text?
  let allowNullPassword ← f.withDefault "allow_null_password" Value.bool? false
  let historyLength ← f.withDefault "history_length" Value.int32? 0
  let rules ← f.withDefault "rules" (Value.items? (StoredRule.ofValue? format)) []
  return { id, name, allowNullPassword, historyLength, rules }

/-- The policy that a text describes. -/
def ofText? (format : DocumentFormat) (fresh : Text.Uuid) (text : String) : Option PasswordPolicy :=
  (format.read? text).bind (ofValue? format fresh)

/-- The policy as a record. -/
def toValue (p : PasswordPolicy) : Value :=
  .record [("id", .text p.id.toText), ("name", .text p.name),
    ("allow_null_password", .bool p.allowNullPassword),
    ("history_length", .ofInt32 p.historyLength),
    ("rules", .list (p.rules.map StoredRule.toValue))]

/-- The policy as JSON text. -/
def toText (p : PasswordPolicy) : String := Json.write p.toValue

end PasswordPolicy

namespace AccountPolicy

/-- The names of the fields, in order. -/
def fieldNames : List String :=
  ["id", "name", "propagate_suspension", "max_authentication_attempts", "rules"]

/-- The policy that a document describes. -/
def ofValue? (format : DocumentFormat) (fresh : Text.Uuid) (v : Value) : Option AccountPolicy := do
  let f ← Fields.ofValue? format.surplus fieldNames v
  let id ← f.withDefault "id" format.uuid? fresh
  let name ← f.required "name" Value.text?
  let propagateSuspension ← f.withDefault "propagate_suspension" Value.bool? false
  let maxAuthenticationAttempts ← f.withDefault "max_authentication_attempts" Value.int32? 0
  let rules ← f.withDefault "rules" (Value.items? (StoredRule.ofValue? format)) []
  return { id, name, propagateSuspension, maxAuthenticationAttempts, rules }

/-- The policy that a text describes. -/
def ofText? (format : DocumentFormat) (fresh : Text.Uuid) (text : String) : Option AccountPolicy :=
  (format.read? text).bind (ofValue? format fresh)

/-- The policy as a record. -/
def toValue (p : AccountPolicy) : Value :=
  .record [("id", .text p.id.toText), ("name", .text p.name),
    ("propagate_suspension", .bool p.propagateSuspension),
    ("max_authentication_attempts", .ofInt32 p.maxAuthenticationAttempts),
    ("rules", .list (p.rules.map StoredRule.toValue))]

/-- The policy as JSON text. -/
def toText (p : AccountPolicy) : String := Json.write p.toValue

end AccountPolicy

end CredentialPolicy
