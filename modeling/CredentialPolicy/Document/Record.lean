import CredentialPolicy.Document.Value
import CredentialPolicy.Ascending

/-!
Reading records by the names of their fields.

A record may also be written as the list of its fields' values in order. Fields that nobody asks for
are passed over; one that is asked for must not be written twice. Whether a list may hold more
values than there are fields depends on the format (`Surplus`).
-/

set_option autoImplicit false

namespace CredentialPolicy.Document

/-- What becomes of the values of a list that lie past the last field. -/
inductive Surplus where
  /-- The list is refused. -/
  | refused
  /-- They are passed over. -/
  | ignored
  deriving DecidableEq, Repr

/-- The values of a record's fields, by name. -/
abbrev Fields := String → Option Value

namespace Fields

/-- The fields with the given names, which are in order. -/
def ofValue? (surplus : Surplus) (names : List String) : Value → Option Fields
  | .record fields =>
    if names.all (fun name => fields.countP (fun f => f.1 = name) ≤ 1) then
      some fun name => fields.lookup name
    else none
  | .list items =>
    if items.length ≤ names.length ∨ surplus = .ignored then
      some fun name => (names.zip items).lookup name
    else none
  | _ => none

variable {α : Type}

/-- A field that has to be there. -/
def required (fields : Fields) (name : String) (read : Value → Option α) : Option α :=
  match fields name with
  | some v => read v
  | none => none

/-- A field that takes a default where it is not written. -/
def withDefault (fields : Fields) (name : String) (read : Value → Option α) (default : α) :
    Option α :=
  match fields name with
  | some v => read v
  | none => some default

end Fields

namespace Value

/-- A set of characters, written as a list in any order and with any repetitions. -/
def charSet? (v : Value) : Option (Ascending Char) := (v.items? char?).map Ascending.ofList

/-- A set of texts, written as a list in any order and with any repetitions. -/
def textSet? (v : Value) : Option (Ascending String) := (v.items? text?).map Ascending.ofList

/-- A set of characters as the ascending list of its members. -/
def ofCharSet (s : Ascending Char) : Value := .list (s.toList.map fun c => .text c.toString)

/-- A set of texts as the ascending list of its members. -/
def ofTextSet (s : Ascending String) : Value := .list (s.toList.map .text)

/-- An integer of 32 bits. -/
def ofInt32 (i : Int32) : Value := .int i.toInt

end Value

end CredentialPolicy.Document
