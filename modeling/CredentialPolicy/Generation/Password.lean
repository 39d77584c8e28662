import CredentialPolicy.Generation.Plan
import CredentialPolicy.Random.Shuffle
import CredentialPolicy.Rule.Merge

/-!
Drawing passwords.

A candidate is a random length, the required characters, letters up to that length, and a shuffle of
all. Candidates are drawn one after the other from the same source until one is acceptable or the
attempts are used up.
-/

set_option autoImplicit false

namespace CredentialPolicy.Generation

open CredentialPolicy.Random (WordSource)

variable {σ : Type} [WordSource σ]

/-- A result that takes random words; the words of a failure are used up too. -/
abbrev Draw (σ : Type) := ExceptT PolicyError (StateM σ)

/-- A result that cannot fail. -/
def sample {α : Type} (m : StateM σ α) : Draw σ α := ExceptT.lift m

/-- Some characters of the pool of an ingredient. -/
def drawFrom (ingredient : Ingredient) (pool : List Char) (n : Nat) : Draw σ (List Char) := do
  match ← sample (Random.chooseMany pool n) with
  | some chars => return chars
  | none => throw (PolicyError.nothingToDraw ingredient)

/-- The required characters, one requirement after the other. -/
def drawAll : List Requirement → Draw σ (List Char)
  | [] => return []
  | q :: rest => do
    let chars ← drawFrom q.ingredient q.pool q.count
    return chars ++ (← drawAll rest)

/-- A candidate. -/
def Plan.draw (p : Plan) : Draw σ (List Char) := do
  let length ← sample (Random.lengthBetween p.minLength p.maxLength)
  let required ← drawAll p.requirements
  let filler ← drawFrom .filler p.filler (length - p.required)
  sample (Random.shuffle (required ++ filler))

/-- The first acceptable candidate of some number of them. -/
def Plan.firstAcceptable (p : Plan) : Nat → Draw σ (Option (List Char))
  | 0 => return none
  | attempts + 1 => do
    let candidate ← p.draw
    match p.rejection? candidate with
    | none => return some candidate
    | some _ => p.firstAcceptable attempts

/-- A password for a rule in force. There is at least one attempt. -/
def compose (maxAttempts : UInt32) (r : PasswordRule) : Draw σ String := do
  let plan ← (Plan.ofRule r : Except PolicyError Plan)
  let attempts := max maxAttempts.toNat 1
  match ← plan.firstAcceptable attempts with
  | some password => return String.ofList password
  | none => throw (.attemptsExhausted attempts)

/-- A password for one rule, which is put in force as the only one. -/
def passwordForRule (maxAttempts : UInt32) (r : PasswordRule) : Draw σ String :=
  compose maxAttempts (PasswordRule.mergeAll [r])

/-- How many letters, and how many digits, a password has where no rule applies. -/
def defaultHalf : Nat := count PasswordRule.defaultMinLength / 2

/-- The password where no rule applies: letters and digits, half of each, in random order. -/
def defaultPassword : Draw σ String := do
  let letters ← drawFrom .letter (letterPool ∅) defaultHalf
  let digits ← drawFrom .digit CharClass.digit.members defaultHalf
  return String.ofList (← sample (Random.shuffle (letters ++ digits)))

end CredentialPolicy.Generation
