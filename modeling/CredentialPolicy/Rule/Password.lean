import CredentialPolicy.Ascending

/-!
Password rules: what a generated password has to look like.

A rule leaves a length bound unset by a value that is not positive, and asks for nothing of a class
by a count that is not positive. `PasswordRule.normalized` settles both: afterwards both bounds are
positive and no count is negative, and settling a settled rule changes nothing.
-/

set_option autoImplicit false

namespace CredentialPolicy

/-- What one password rule asks for. Counts and bounds are 32-bit integers of either sign. -/
structure PasswordRule where
  /-- Display name. -/
  name : String := ""
  /-- Least length, or unset. -/
  minLength : Int32 := 0
  /-- Greatest length, or unset. -/
  maxLength : Int32 := 0
  /-- Least number of letters beside those that `uppercase` and `lowercase` ask for. -/
  letters : Int32 := 0
  /-- Least number of uppercase letters. -/
  uppercase : Int32 := 0
  /-- Least number of lowercase letters. -/
  lowercase : Int32 := 0
  /-- Exact number of digits. -/
  digits : Int32 := 0
  /-- Least number of characters of `specialChars`. -/
  specials : Int32 := 0
  /-- Characters that count as special. -/
  specialChars : Ascending Char := ∅
  /-- Characters that never occur. -/
  illegalChars : Ascending Char := ∅
  /-- Longest permitted run of one character; no limit unless positive. -/
  repeatSame : Int32 := 0
  /-- Whether the password may contain the username. -/
  usernameAllowed : Bool := false
  /-- Words that do not occur, whatever their case. -/
  forbiddenWords : Ascending String := ∅
  /-- Attributes whose values do not occur. -/
  forbiddenSchemas : Ascending String := ∅
  deriving DecidableEq

namespace PasswordRule

instance : Inhabited PasswordRule := ⟨{}⟩

/-- The least length where no rule sets one. -/
def defaultMinLength : Int32 := 8

/-- The greatest length where no rule sets one. -/
def defaultMaxLength : Int32 := 64

/-- The rule in force where there is no rule. -/
def effectiveDefault : PasswordRule :=
  { minLength := defaultMinLength, maxLength := defaultMaxLength }

/-- The least length that a rule means: its own if positive, else the default. -/
def settledMinLength (r : PasswordRule) : Int32 :=
  if 0 < r.minLength then r.minLength else defaultMinLength

/-- The greatest length that a rule means: its own if positive; the least length where only that one
is set; the default where neither is. -/
def settledMaxLength (r : PasswordRule) : Int32 :=
  if 0 < r.maxLength then r.maxLength
  else if 0 < r.minLength then r.minLength
  else defaultMaxLength

/-- The rule with unset bounds filled in and negative counts raised to zero. The least length may
still exceed the greatest. -/
def normalized (r : PasswordRule) : PasswordRule :=
  { r with
    minLength := r.settledMinLength
    maxLength := r.settledMaxLength
    letters := max r.letters 0
    uppercase := max r.uppercase 0
    lowercase := max r.lowercase 0
    digits := max r.digits 0
    specials := max r.specials 0
    repeatSame := max r.repeatSame 0 }

/-- Adds characters to the special ones. -/
def addSpecialChars (r : PasswordRule) (chars : List Char) : PasswordRule :=
  { r with specialChars := r.specialChars.insertAll chars }

/-- Adds characters to the illegal ones. -/
def addIllegalChars (r : PasswordRule) (chars : List Char) : PasswordRule :=
  { r with illegalChars := r.illegalChars.insertAll chars }

/-- Adds forbidden words. -/
def addForbiddenWords (r : PasswordRule) (words : List String) : PasswordRule :=
  { r with forbiddenWords := r.forbiddenWords.insertAll words }

/-- Adds forbidden attributes. -/
def addForbiddenSchemas (r : PasswordRule) (schemas : List String) : PasswordRule :=
  { r with forbiddenSchemas := r.forbiddenSchemas.insertAll schemas }

example : ({ minLength := 10 } : PasswordRule).normalized.maxLength = 10 := by decide

example : ({ maxLength := 1 } : PasswordRule).normalized =
    { minLength := 8, maxLength := 1 } := by decide

end PasswordRule

end CredentialPolicy
