/-!
Runs of one character.

`longestRun` reads a text once and remembers the run at its end and the longest one so far.
-/

set_option autoImplicit false

namespace CredentialPolicy.Generation

/-- The length of the longest run, if `run` characters `previous` end what was read before and
`longest` was the longest run there. -/
def longestRunFrom (previous : Option Char) (run longest : Nat) : List Char → Nat
  | [] => longest
  | c :: r =>
    let run := if previous = some c then run + 1 else 1
    longestRunFrom (some c) run (max longest run) r

/-- The length of the longest run of one character. -/
def longestRun (text : List Char) : Nat := longestRunFrom none 0 0 text

example : longestRun [] = 0 ∧ longestRun "abc".toList = 1 ∧ longestRun "abbbcc".toList = 3 := by
  decide

end CredentialPolicy.Generation
