import CredentialPolicy.Unicode.Case
import CredentialPolicy.Unicode.Table

/-!
Characters that differ in letter case only.

Two characters differ in case only if they have the same case-free form, a single character. This is
the lowercase form, except for the characters in `foldExceptions`, which are variants of another
character.
-/

set_option autoImplicit false

namespace CredentialPolicy.Unicode

/-- The characters whose case-free form is not their lowercase form. -/
def foldExceptions : List (Nat × Nat) :=
  [(0xB5, 0x3BC), (0x17F, 0x73), (0x345, 0x3B9), (0x3C2, 0x3C3), (0x3D0, 0x3B2), (0x3D1, 0x3B8),
   (0x3D5, 0x3C6), (0x3D6, 0x3C0), (0x3F0, 0x3BA), (0x3F1, 0x3C1), (0x3F5, 0x3B5), (0x1C80, 0x432),
   (0x1C81, 0x434), (0x1C82, 0x43E), (0x1C83, 0x441), (0x1C84, 0x442), (0x1C85, 0x442),
   (0x1C86, 0x44A), (0x1C87, 0x463), (0x1C88, 0xA64B), (0x1E9B, 0x1E61), (0x1FBE, 0x3B9),
   (0x1FD3, 0x390), (0x1FE3, 0x3B0), (0xFB06, 0xFB05)]

/-- The code points that differ from their lowercase form in a run, each with that form. -/
def CaseRun.pairs (r : CaseRun) : List (Nat × Nat) :=
  (List.range ((r.source.last - r.source.first) / r.source.step + 1)).map fun i =>
    (r.source.first + i * r.source.step, r.target + i * r.source.step)

/-- The code points that differ from their case-free form, each with that form. -/
def foldPairs : List (Nat × Nat) := lowerRuns.flatMap CaseRun.pairs ++ foldExceptions

/-- The character with a code point. -/
def charOfCode (code : Nat) : Char := Char.ofNat code

/-- The case-free forms of the members, as far as they are no members, and all characters that have
such a form or a member for their case-free form. -/
def caseVariants (s : CharSet) : List Char :=
  let images := foldPairs.filterMap fun (c, f) =>
    if s.contains (charOfCode c) && ! s.contains (charOfCode f) then some (charOfCode f) else none
  let folded := s ∪ CharSet.ofList images
  images ++ foldPairs.filterMap fun (c, f) =>
    if folded.contains (charOfCode f) && ! s.contains (charOfCode c) then some (charOfCode c)
    else none

/-- The characters that differ from a member in case only. -/
def CharSet.fold (s : CharSet) : CharSet := s ∪ CharSet.ofList (caseVariants s)

/-- The set with the ASCII letters added that differ from a member in case only. -/
def CharSet.foldAscii (s : CharSet) : CharSet :=
  s ∪ CharSet.ofList ((List.range 26).flatMap fun i =>
    let upper := charOfCode (0x41 + i)
    let lower := charOfCode (0x61 + i)
    if s.contains upper || s.contains lower then [upper, lower] else [])

example : (CharSet.single 'k').fold = CharSet.ofList ['K', 'k', '\u212A'] := by decide +kernel

example : (CharSet.single 'ς').fold = CharSet.ofList ['Σ', 'σ', 'ς'] := by decide +kernel

end CredentialPolicy.Unicode
