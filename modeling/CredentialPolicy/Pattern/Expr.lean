import CredentialPolicy.Unicode.CharSet

/-!
Regular expressions and the texts that they match.

In an expression all settings are resolved: it consists of texts, sets of characters and conditions
on places. `Expr.Matches w e i j` says that an expression matches the part of a text `w` between two
places; what lies around the part counts only for the conditions in it.
-/

set_option autoImplicit false

namespace CredentialPolicy.Pattern

open Unicode (CharSet)

/-- What counts as a character of a word. -/
inductive WordKind where
  /-- ASCII letters, ASCII digits and the underscore. -/
  | ascii
  /-- Letters, marks, digits and connectors of all scripts. -/
  | unicode
  deriving DecidableEq, Repr

/-- A condition on a place, which looks at the characters before and after it. -/
inductive Look where
  | textStart
  | textEnd
  | lineStart
  | lineEnd
  | crlfLineStart
  | crlfLineEnd
  | wordBoundary (kind : WordKind)
  | notWordBoundary (kind : WordKind)
  | wordStart (kind : WordKind)
  | wordEnd (kind : WordKind)
  | wordStartHalf (kind : WordKind)
  | wordEndHalf (kind : WordKind)
  deriving DecidableEq, Repr

/-- Whether a condition holds between two characters, each of which may be missing; `isWord` says
which characters words consist of. -/
def Look.holds (isWord : WordKind → Char → Bool) (before after : Option Char) : Look → Bool
  | textStart => before.isNone
  | textEnd => after.isNone
  | lineStart => before.isNone || before = some '\n'
  | lineEnd => after.isNone || after = some '\n'
  | crlfLineStart =>
    before.isNone || before = some '\n' || before = some '\r' && after ≠ some '\n'
  | crlfLineEnd =>
    after.isNone || after = some '\r' || after = some '\n' && before ≠ some '\r'
  | wordBoundary kind => before.any (isWord kind) != after.any (isWord kind)
  | notWordBoundary kind => before.any (isWord kind) == after.any (isWord kind)
  | wordStart kind => ! before.any (isWord kind) && after.any (isWord kind)
  | wordEnd kind => before.any (isWord kind) && ! after.any (isWord kind)
  | wordStartHalf kind => ! before.any (isWord kind)
  | wordEndHalf kind => ! after.any (isWord kind)

/-- A regular expression. -/
inductive Expr where
  /-- The characters of a text, one after the other. -/
  | text (chars : List Char)
  /-- Any one character of a set. -/
  | oneOf (set : CharSet)
  /-- No character, at a place where a condition holds. -/
  | look (l : Look)
  /-- An expression over and over, at least `min` and at most `max` times. -/
  | repeated (e : Expr) (min : Nat) (max : Option Nat) (greedy : Bool)
  /-- An expression that is marked as a part of the match. -/
  | group (e : Expr)
  /-- Expressions one after the other. -/
  | concat (es : List Expr)
  /-- Any one of several expressions. -/
  | choice (es : List Expr)

namespace Expr

/-- The character before a place. -/
def charBefore (w : List Char) (i : Nat) : Option Char := if i = 0 then none else w[i - 1]?

/-- The character after a place. -/
def charAfter (w : List Char) (i : Nat) : Option Char := w[i]?

/-- Whether an expression matches the part of a text between two places. -/
inductive Matches (isWord : WordKind → Char → Bool) (w : List Char) : Expr → Nat → Nat → Prop where
  /-- The empty text matches where it stands. -/
  | textNil {i : Nat} (h : i ≤ w.length) : Matches isWord w (.text []) i i
  /-- A text matches its first character and then the others. -/
  | textCons {c : Char} {cs : List Char} {i j : Nat} (h : charAfter w i = some c)
      (rest : Matches isWord w (.text cs) (i + 1) j) : Matches isWord w (.text (c :: cs)) i j
  /-- A set matches each of its characters. -/
  | oneOf {set : CharSet} {c : Char} {i : Nat} (h : charAfter w i = some c) (hc : c ∈ set) :
      Matches isWord w (.oneOf set) i (i + 1)
  /-- A condition matches no character. -/
  | look {l : Look} {i : Nat} (hi : i ≤ w.length)
      (h : l.holds isWord (charBefore w i) (charAfter w i) = true) : Matches isWord w (.look l) i i
  /-- A repetition may match nothing if no match is required. -/
  | stop {e : Expr} {max : Option Nat} {greedy : Bool} {i : Nat} (h : i ≤ w.length) :
      Matches isWord w (.repeated e 0 max greedy) i i
  /-- A repetition matches once and then the remaining number of times. -/
  | again {e : Expr} {min : Nat} {max : Option Nat} {greedy : Bool} {i j k : Nat}
      (hmax : max ≠ some 0)
      (first : Matches isWord w e i j)
      (rest : Matches isWord w (.repeated e (min - 1) (max.map (· - 1)) greedy) j k) :
      Matches isWord w (.repeated e min max greedy) i k
  /-- A marked expression matches what it matches without the mark. -/
  | group {e : Expr} {i j : Nat} (h : Matches isWord w e i j) : Matches isWord w (.group e) i j
  /-- No expressions match nothing. -/
  | concatNil {i : Nat} (h : i ≤ w.length) : Matches isWord w (.concat []) i i
  /-- Expressions match one after the other. -/
  | concatCons {e : Expr} {es : List Expr} {i j k : Nat} (first : Matches isWord w e i j)
      (rest : Matches isWord w (.concat es) j k) : Matches isWord w (.concat (e :: es)) i k
  /-- A choice matches what any of its expressions matches. -/
  | choice {e : Expr} {es : List Expr} {i j : Nat} (he : e ∈ es) (h : Matches isWord w e i j) :
      Matches isWord w (.choice es) i j

/-- Whether an expression matches a whole text. -/
def MatchesWhole (isWord : WordKind → Char → Bool) (e : Expr) (w : List Char) : Prop :=
  Matches isWord w e 0 w.length

end Expr

end CredentialPolicy.Pattern
