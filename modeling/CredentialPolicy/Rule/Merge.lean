import CredentialPolicy.PolicyError

/-!
Merging password rules into the one rule that is in force.

Each rule is normalized first. The least length, the counts and the longest run take their maximum,
the greatest length its minimum (raised to the least length if that is larger), sets their union,
and `usernameAllowed` holds if some rule has it. The name and the forbidden attributes are dropped.
-/

set_option autoImplicit false

namespace CredentialPolicy.PasswordRule

/-- Two rules as one that asks for as much as either. -/
def combine (r s : PasswordRule) : PasswordRule :=
  { r with
    minLength := max r.minLength s.minLength
    maxLength := min r.maxLength s.maxLength
    letters := max r.letters s.letters
    uppercase := max r.uppercase s.uppercase
    lowercase := max r.lowercase s.lowercase
    digits := max r.digits s.digits
    specials := max r.specials s.specials
    repeatSame := max r.repeatSame s.repeatSame
    usernameAllowed := r.usernameAllowed || s.usernameAllowed
    specialChars := r.specialChars ∪ s.specialChars
    illegalChars := r.illegalChars ∪ s.illegalChars
    forbiddenWords := r.forbiddenWords ∪ s.forbiddenWords }

/-- Drops what an effective rule does not keep and raises the greatest length to the least. -/
def sealed (r : PasswordRule) : PasswordRule :=
  { r with name := "", forbiddenSchemas := ∅, maxLength := max r.minLength r.maxLength }

/-- The rule that a list of rules puts in force. -/
def mergeAll : List PasswordRule → PasswordRule
  | [] => effectiveDefault
  | r :: rs => (rs.foldl (fun acc s => acc.combine s.normalized) r.normalized).sealed

/-- The rule that the given rules put in force; an absent list is refused. -/
def merge (rules : Option (List PasswordRule)) : Except PolicyError PasswordRule :=
  match rules with
  | none => .error (.missing .passwordRules)
  | some rs => .ok (mergeAll rs)

example : mergeAll [{ minLength := 8, maxLength := 3 }, { minLength := 7, maxLength := 4 }] =
    { minLength := 8, maxLength := 8 } := by decide

example : (mergeAll [{ minLength := 12 }, { maxLength := 14 }]).maxLength = 12 := by decide

end CredentialPolicy.PasswordRule
