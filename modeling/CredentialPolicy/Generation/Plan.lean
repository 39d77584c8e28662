import CredentialPolicy.Charset
import CredentialPolicy.PolicyError
import CredentialPolicy.Generation.Run
import CredentialPolicy.Text.Search
import CredentialPolicy.Unicode.Lowercase

/-!
The plan of a password: from which pools how many characters are drawn, and what makes a candidate
unacceptable.

A plan exists for every rule in force whose requirements can be met. Its guards cover every draw
that could later meet an empty pool: an ingredient that is asked for has a pool, and a length beyond
the required characters is planned only if there are letters to fill it.
-/

set_option autoImplicit false

namespace CredentialPolicy.Generation

/-- A count with the negative ones taken as zero. -/
def count (i : Int32) : Nat := i.toInt.toNat

/-- Some characters of one pool. -/
structure Requirement where
  /-- What the characters are for. -/
  ingredient : Ingredient
  /-- The pool. -/
  pool : List Char
  /-- How many characters are drawn. -/
  count : Nat
  deriving DecidableEq, Repr

/-- The plan of a password. -/
structure Plan where
  /-- The required characters. -/
  requirements : List Requirement
  /-- The letters that fill the rest. -/
  filler : List Char
  /-- The number of required characters. -/
  required : Nat
  /-- The least length. -/
  minLength : Nat
  /-- The greatest length. -/
  maxLength : Nat
  /-- The longest permitted run, or zero for no limit. -/
  repeatSame : Nat
  /-- The forbidden words in lowercase, none of them empty. -/
  words : List (List Char)
  deriving DecidableEq, Repr

/-- Why a candidate is not acceptable. -/
inductive Rejection where
  /-- A character occurs too often in a row. -/
  | repeatedCharacters
  /-- A forbidden word occurs. -/
  | forbiddenWord
  deriving DecidableEq, Repr

/-- The number of characters that a rule in force requires. -/
def requiredCount (r : PasswordRule) : Nat :=
  count r.letters + count r.uppercase + count r.lowercase + count r.digits + count r.specials

/-- The special characters that can be drawn: a digit would upset the exact count of digits. -/
def specialPool (r : PasswordRule) : List Char :=
  (r.specialChars.filter fun c => ! (c ∈ r.illegalChars) && ! CharClass.digit.contains c).toList

/-- What a rule in force requires, in the order in which it is drawn. -/
def requirementsOf (r : PasswordRule) : List Requirement :=
  [⟨.uppercase, pool [.uppercase] r.illegalChars, count r.uppercase⟩,
    ⟨.lowercase, pool [.lowercase] r.illegalChars, count r.lowercase⟩,
    ⟨.letter, letterPool r.illegalChars, count r.letters⟩,
    ⟨.digit, pool [.digit] r.illegalChars, count r.digits⟩,
    ⟨.special, specialPool r, count r.specials⟩]

/-- The forbidden words in lowercase, without those that are empty. -/
def loweredWords (words : Ascending String) : List (List Char) :=
  (words.toList.map fun w => Unicode.lower w.toList).filter (! ·.isEmpty)

/-- The plan for a rule in force. -/
def Plan.ofRule (r : PasswordRule) : Except PolicyError Plan :=
  let required := requiredCount r
  let letters := letterPool r.illegalChars
  let minLength := max (count r.minLength) required
  if count r.maxLength < required then
    .error (.requiredExceedMaximum required (count r.maxLength))
  else if 0 < r.specials ∧ r.specialChars.isEmpty then .error .noSpecialsConfigured
  else
    match (requirementsOf r).find? fun q => 0 < q.count && q.pool.isEmpty with
    | some q => .error (.allIllegal q.ingredient)
    | none =>
      if required < minLength ∧ letters.isEmpty then .error .noFiller
      else
        .ok {
          requirements := requirementsOf r
          filler := letters
          required
          minLength
          maxLength := if letters.isEmpty then minLength else count r.maxLength
          repeatSame := count r.repeatSame
          words := loweredWords r.forbiddenWords }

/-- Why a candidate is not acceptable, if it is not. -/
def Plan.rejection? (p : Plan) (candidate : List Char) : Option Rejection :=
  if 0 < p.repeatSame ∧ p.repeatSame < longestRun candidate then some .repeatedCharacters
  else
    let lowered := Unicode.lower candidate
    if p.words.any (Text.occursIn · lowered) then some .forbiddenWord else none

end CredentialPolicy.Generation
