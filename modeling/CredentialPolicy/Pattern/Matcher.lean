import CredentialPolicy.Pattern.Cost
import CredentialPolicy.Pattern.Meaning
import CredentialPolicy.Pattern.Normal
import CredentialPolicy.Pattern.Reader

/-!
Matching whole texts.

The matcher follows an expression from a set of places to the set of all places where a match from
one of these can end. A set of places is a number whose bits stand for the places, so the places
reached by several ways are one set again, and no way is followed twice. Where the characters of the
text allow a step is found out once, before the first one: an expression becomes a `Walk`.

A text that writes a pattern is usable if the pattern has a meaning and, put between the start and
the end of the text and written anew, neither nests too deep nor takes too much memory.
-/

set_option autoImplicit false

namespace CredentialPolicy.Pattern

open Unicode (CharSet)

/-! ## Sets of places -/

/-- The places of a text in front of a character that satisfies a test. -/
def charPlaces (test : Char → Bool) : List Char → Nat
  | [] => 0
  | c :: r => 2 * charPlaces test r + (test c).toNat

theorem testBit_charPlaces (test : Char → Bool) (w : List Char) (i : Nat) :
    (charPlaces test w).testBit i = w[i]?.any test := by
  induction w generalizing i with
  | nil => simp [charPlaces]
  | cons c r ih =>
    cases i with
    | zero => cases h : test c <;> simp [charPlaces, h]
    | succ i =>
      have half : charPlaces test (c :: r) / 2 = charPlaces test r := by
        have := Bool.toNat_lt (test c)
        simp only [charPlaces]
        omega
      simp [Nat.testBit_succ, half, ih]

/-- The places of a text at which a condition on the characters before and after them holds, if
`before` is the character before the text. -/
def conditionPlaces (test : Option Char → Option Char → Bool) (before : Option Char) :
    List Char → Nat
  | [] => (test before none).toNat
  | c :: r => 2 * conditionPlaces test (some c) r + (test before (some c)).toNat

/-- The places reached by exactly some number of steps. A step that changes nothing is not taken
again. -/
def stepsExactly (step : Nat → Nat) : Nat → Nat → Nat
  | 0, places => places
  | n + 1, places =>
    let next := step places
    if next = places then places else stepsExactly step n next

/-- The places reached by at most some number of steps. -/
def stepsAtMost (step : Nat → Nat) : Nat → Nat → Nat
  | 0, places => places
  | n + 1, places =>
    let next := places ||| step places
    if next = places then places else stepsAtMost step n next

/-! ## Walks -/

/-- How an expression leads from places of one text to others. -/
inductive Walk where
  /-- Past a character at some of the places. -/
  | char (here : Nat)
  /-- Nowhere, from some of the places only. -/
  | stay (here : Nat)
  /-- As often as `min`, and up to `more` times more. -/
  | repeated (walk : Walk) (min more : Nat)
  /-- One walk after the other. -/
  | through (walks : List Walk)
  /-- Any of several walks. -/
  | any (walks : List Walk)
  deriving Inhabited

namespace Walk

mutual

/-- The places where a walk from one of some places can end. -/
def reach : Walk → Nat → Nat
  | .char here, places => (places &&& here) <<< 1
  | .stay here, places => places &&& here
  | .repeated walk min more, places =>
    let step := reach walk
    stepsAtMost step more (stepsExactly step min places)
  | .through walks, places => reachThrough walks places
  | .any walks, places => reachAny walks places

/-- The places where several walks, one after the other, can end. -/
def reachThrough : List Walk → Nat → Nat
  | [], places => places
  | walk :: rest, places => reachThrough rest (reach walk places)

/-- The places where any of several walks can end. -/
def reachAny : List Walk → Nat → Nat
  | [], _ => 0
  | walk :: rest, places => reach walk places ||| reachAny rest places

end

end Walk

/-! ## Expressions -/

namespace Expr

mutual

/-- The walk of an expression through a text. A repetition without a limit need not be taken more
often than the text has characters. -/
def walk (isWord : WordKind → Char → Bool) (w : List Char) : Expr → Walk
  | .text cs => .through (cs.map fun c => .char (charPlaces (· = c) w))
  | .oneOf s => .char (charPlaces s.contains w)
  | .look l => .stay (conditionPlaces (l.holds isWord) none w)
  | .repeated e min max _ =>
    .repeated (walk isWord w e) min (match max with
      | some max => max - min
      | none => w.length)
  | .group e => walk isWord w e
  | .concat es => .through (walkAll isWord w es)
  | .choice es => .any (walkAll isWord w es)

/-- The walks of some expressions through a text. -/
def walkAll (isWord : WordKind → Char → Bool) (w : List Char) : List Expr → List Walk
  | [] => []
  | e :: es => walk isWord w e :: walkAll isWord w es

end

/-- Whether an expression matches a whole text. -/
def matchesWhole (isWord : WordKind → Char → Bool) (e : Expr) (w : List Char) : Bool :=
  ((e.walk isWord w).reach 1).testBit w.length

end Expr

/-! ## Patterns -/

/-- Whether a character counts as part of a word. -/
def isWordChar (wordSet : CharSet) : WordKind → Char → Bool
  | .ascii, c => c.isAlphanum || c = '_'
  | .unicode, c => wordSet.contains c

/-- The expression that decides about whole texts, if the text is a usable pattern. -/
def exprOfText? (pattern : String) : Option Expr := do
  let node ← Node.ofText? pattern.toList
  let (e, _) ← node.expr? {}
  let written := e.anchored.reread
  if written.writtenDepth ≤ maxDepth ∧ e.anchored.cost ≤ maxCost then return written else none

/-- Whether a usable pattern matches a whole text. -/
def isMatch? (pattern text : String) : Option Bool :=
  (exprOfText? pattern).map fun e => e.matchesWhole (isWordChar Unicode.wordSet) text.toList

end CredentialPolicy.Pattern
