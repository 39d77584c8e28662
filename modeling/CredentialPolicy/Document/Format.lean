import CredentialPolicy.Document.Record
import CredentialPolicy.Json.Reader
import CredentialPolicy.Toml.Reader

/-!
The formats in which documents are written.

Besides their texts, the formats differ in how they write a choice without a value
(`DocumentFormat.isUnit`) and in what becomes of the surplus values of a list that stands for a
record (`DocumentFormat.surplus`).
-/

set_option autoImplicit false

namespace CredentialPolicy

open Document

/-- A format of documents. -/
inductive DocumentFormat where
  | json
  | toml
  deriving DecidableEq, Repr, Inhabited

namespace DocumentFormat

/-- The value that a text in the format describes. -/
def read? : DocumentFormat → String → Option Value
  | json, text => Json.read? text
  | toml, text => Toml.read? text

/-- What becomes of surplus values in the format. -/
def surplus : DocumentFormat → Surplus
  | json => .refused
  | toml => .ignored

/-- Whether a value in the format may stand beside the name of a choice that carries no value. -/
def isUnit : DocumentFormat → Value → Bool
  | json, .null => true
  | toml, .list [] => true
  | toml, .record [] => true
  | _, _ => false

/-- The name of a choice that carries no value: a text, or a record of this one name. -/
def choice? (format : DocumentFormat) : Value → Option String
  | .text name => some name
  | .record [(name, v)] => if format.isUnit v then some name else none
  | _ => none

end DocumentFormat

end CredentialPolicy
