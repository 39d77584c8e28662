import CredentialPolicy.Ascending

/-!
Account rules: what a username has to look like.

A length bound that is not positive asks for nothing, and so does an absent or empty pattern.
-/

set_option autoImplicit false

namespace CredentialPolicy

/-- What one account rule asks of a username. -/
structure AccountRule where
  /-- Display name. -/
  name : String := ""
  /-- Least length; no bound unless positive. -/
  minLength : Int32 := 0
  /-- Greatest length; no bound unless positive. -/
  maxLength : Int32 := 0
  /-- Expression that the whole username has to match; none if absent or empty. -/
  pattern : Option String := none
  /-- Whether lowercase characters are refused. -/
  allUppercase : Bool := false
  /-- Whether uppercase characters are refused. -/
  allLowercase : Bool := false
  /-- Words that do not occur. -/
  forbiddenWords : Ascending String := ∅
  /-- Attributes whose values do not occur. -/
  forbiddenSchemas : Ascending String := ∅
  /-- Texts that do not start the username. -/
  forbiddenStarts : Ascending String := ∅
  /-- Texts that do not end the username. -/
  forbiddenEnds : Ascending String := ∅
  deriving DecidableEq

namespace AccountRule

instance : Inhabited AccountRule := ⟨{}⟩

/-- Adds forbidden words. -/
def addForbiddenWords (r : AccountRule) (words : List String) : AccountRule :=
  { r with forbiddenWords := r.forbiddenWords.insertAll words }

/-- Adds forbidden attributes. -/
def addForbiddenSchemas (r : AccountRule) (schemas : List String) : AccountRule :=
  { r with forbiddenSchemas := r.forbiddenSchemas.insertAll schemas }

/-- Adds forbidden starts. -/
def addForbiddenStarts (r : AccountRule) (starts : List String) : AccountRule :=
  { r with forbiddenStarts := r.forbiddenStarts.insertAll starts }

/-- Adds forbidden ends. -/
def addForbiddenEnds (r : AccountRule) (ends : List String) : AccountRule :=
  { r with forbiddenEnds := r.forbiddenEnds.insertAll ends }

end AccountRule

end CredentialPolicy
