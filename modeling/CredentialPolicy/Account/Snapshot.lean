import CredentialPolicy.Document.Record
import CredentialPolicy.Json.Reader
import CredentialPolicy.Text.Dictionary

/-!
What is known of a user: the username and the values of some attributes.
-/

set_option autoImplicit false

namespace CredentialPolicy

open Document

/-- What is known of a user. -/
structure UserSnapshot where
  /-- The username. -/
  username : String
  /-- The value of each known attribute. -/
  attributes : Text.Dictionary String := ∅
  deriving DecidableEq, Inhabited

namespace UserSnapshot

/-- The value of an attribute, if it is known. -/
def attribute? (u : UserSnapshot) (schema : String) : Option String := u.attributes.get? schema

/-- Sets the value of an attribute, whatever it was. -/
def withAttribute (u : UserSnapshot) (schema value : String) : UserSnapshot :=
  { u with attributes := u.attributes.insert schema value }

/-- The names of the fields, in order. -/
def fieldNames : List String := ["username", "attributes"]

/-- A record of texts as a map; of several fields of one name the last one counts. -/
def attributes? : Value → Option (Text.Dictionary String)
  | .record fields =>
    (fields.mapM fun f => (Value.text? f.2).map (f.1, ·)).map Text.Dictionary.ofList
  | _ => none

/-- The snapshot that a document describes. -/
def ofValue? (v : Value) : Option UserSnapshot := do
  let f ← Fields.ofValue? .refused fieldNames v
  let username ← f.required "username" Value.text?
  let attributes ← f.withDefault "attributes" attributes? ∅
  return { username, attributes }

/-- The snapshot that a JSON text describes. -/
def ofText? (text : String) : Option UserSnapshot := (Json.read? text).bind ofValue?

/-- The snapshot as a record. -/
def toValue (u : UserSnapshot) : Value :=
  .record [("username", .text u.username),
    ("attributes", .record (u.attributes.entries.map fun (k, v) => (k, .text v)))]

end UserSnapshot

end CredentialPolicy
