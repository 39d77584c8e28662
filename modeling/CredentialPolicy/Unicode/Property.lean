import CredentialPolicy.Unicode.Age
import CredentialPolicy.Unicode.BinaryProperty
import CredentialPolicy.Unicode.GeneralCategory
import CredentialPolicy.Unicode.Script
import CredentialPolicy.Unicode.Segmentation

/-!
Sets of characters by the names that the standard gives to properties and to their values.

Names are compared loosely: letter case, blanks, underscores, hyphens and an initial `is` do not
matter.
-/

set_option autoImplicit false

namespace CredentialPolicy.Unicode

/-- What a character of a name counts for. -/
def looseChar? (c : Char) : Option Char :=
  if c = ' ' ∨ c = '_' ∨ c = '-' ∨ 0x80 ≤ c.toNat then none else some c.toLower

/-- A name in loose form. An initial `is` is left out, except from `isc`, which is a name itself. -/
def looseName (name : List Char) : String :=
  match name with
  | i :: s :: rest =>
    if (i = 'i' ∨ i = 'I') ∧ (s = 's' ∨ s = 'S') then
      let rest := String.ofList (rest.filterMap looseChar?)
      if rest = "c" then "isc" else rest
    else String.ofList (name.filterMap looseChar?)
  | _ => String.ofList (name.filterMap looseChar?)

/-- All characters of a general category, or of one of the groups that have no table. -/
def categoryOfName? (name : String) : Option CharSet :=
  match name with
  | "any" => some .all
  | "assigned" => some (.all \ GeneralCategory.unassigned.set)
  | "ascii" => some (.ofCodes 0 0x7F)
  | _ => GeneralCategory.ofName? name

/-- The names that stand for a category and not for the property that shares them. -/
def categoryNames : List String := ["cf", "sc", "lc"]

/-- The characters that one name stands for: a property, a category or a script. -/
def setOfName? (name : List Char) : Option CharSet :=
  let name := looseName name
  let property := if categoryNames.contains name then none else propertyOfName? name
  property <|> categoryOfName? name <|> (Script.ofName? name).map Script.set

/-- The characters whose property with the first name has the value with the second one. -/
def setOfValue? (property value : List Char) : Option CharSet :=
  let value := looseName value
  match looseName property with
  | "gc" | "generalcategory" => categoryOfName? value
  | "sc" | "script" => (Script.ofName? value).map Script.set
  | "scx" | "scriptextensions" => (Script.ofName? value).map Script.extendedSet
  | "age" => ageOfName? value
  | "gcb" | "graphemeclusterbreak" => classOfName? value clusterClasses
  | "wb" | "wordbreak" => classOfName? value wordClasses
  | "sb" | "sentencebreak" => classOfName? value sentenceClasses
  | _ => none

/-- The decimal digits of all scripts. -/
def digitSet : CharSet := GeneralCategory.decimalNumber.set

/-- The blank characters. -/
def blankSet : CharSet := CharSet.ofStrides blankStrides

/-- The characters that words consist of. -/
def wordSet : CharSet :=
  alphabeticSet ∪ joinControlTable.set ∪ GeneralCategory.setOfAll
    [.nonspacingMark, .spacingMark, .enclosingMark, .decimalNumber, .connectorPunctuation]

end CredentialPolicy.Unicode
