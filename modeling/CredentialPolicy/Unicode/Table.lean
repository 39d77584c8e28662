import CredentialPolicy.Text.Digits
import CredentialPolicy.Unicode.CharSet
import CredentialPolicy.Unicode.Stride

/-!
Tables of characters, kept as text and read when they are asked for.

A table lists code points in hexadecimal digits and ascending order, with blanks between them:
`41` stands for one code point, `41-5A` for a range, and `100-12E/2` for every second one.
-/

set_option autoImplicit false

namespace CredentialPolicy.Unicode

/-- A table of characters as text. -/
structure Table where
  /-- The text. -/
  text : String := ""

/-- The stride that one word of a table writes. -/
def Stride.ofWord (word : List Char) : Stride :=
  let (first, rest) := word.span (· ≠ '-')
  let (last, step) := (rest.drop 1).span (· ≠ '/')
  let first := Text.ofDigits 16 first
  { first
    last := if rest.isEmpty then first else Text.ofDigits 16 last
    step := if step.isEmpty then 1 else Text.ofDigits 10 (step.drop 1) }

/-- Whether a character separates the words of a table. -/
def isWordBreak (c : Char) : Bool := c = ' ' || c = '\n'

/-- The words of a text, of which `word` has been read, last character first. -/
def wordsFrom (word : List Char) : List Char → List (List Char)
  | [] => if word.isEmpty then [] else [word.reverse]
  | c :: r =>
    if isWordBreak c then if word.isEmpty then wordsFrom [] r else word.reverse :: wordsFrom [] r
    else wordsFrom (c :: word) r

/-- The strides that a table lists. -/
def Table.strides (t : Table) : List Stride := (wordsFrom [] t.text.toList).map Stride.ofWord

/-- The first and the last code point of each range of a stride. -/
def Stride.ranges (s : Stride) : List (Nat × Nat) :=
  if s.step = 1 then [(s.first, s.last)]
  else (List.range' s.first ((s.last - s.first) / s.step + 1) s.step).map fun n => (n, n)

/-- Puts a range of code points in front of bounds, together with a range that it touches. -/
def consRange (range : Nat × Nat) (bounds : List Nat) : List Nat :=
  let next := rankOfCode range.2 + 1
  match bounds with
  | b :: r => if next = b then rankOfCode range.1 :: r else rankOfCode range.1 :: next :: b :: r
  | [] => if next < rankBound then [rankOfCode range.1, next] else [rankOfCode range.1]

/-- Whether each number lies above the one before it. -/
def isAscending : List Nat → Bool
  | a :: b :: r => a < b && isAscending (b :: r)
  | _ => true

theorem pairwise_of_isAscending {l : List Nat} (h : isAscending l = true) :
    l.Pairwise (· < ·) := by
  induction l with
  | nil => exact .nil
  | cons a r ih =>
    cases r with
    | nil => exact List.pairwise_singleton _ _
    | cons b s =>
      have h : a < b ∧ isAscending (b :: s) = true := by simpa [isAscending] using h
      have hr := ih h.2
      refine List.pairwise_cons.2 ⟨fun c hc => ?_, hr⟩
      rcases List.mem_cons.1 hc with rfl | hc
      · exact h.1
      · exact Nat.lt_trans h.1 ((List.pairwise_cons.1 hr).1 c hc)

/-- The set of the characters on some strides, which ascend. -/
def CharSet.ofStrides (strides : List Stride) : CharSet :=
  let bounds := (strides.flatMap Stride.ranges).foldr consRange []
  if h : isAscending bounds then ⟨bounds, pairwise_of_isAscending h⟩ else ∅

/-- The characters that a table lists, as a set. -/
def Table.set (t : Table) : CharSet := CharSet.ofStrides t.strides

example : (Table.set ⟨"41-5A 100-104/2\n 105 2000"⟩).bounds =
    [0x41, 0x5B, 0x100, 0x101, 0x102, 0x103, 0x104, 0x106, 0x2000, 0x2001] := by decide +kernel

end CredentialPolicy.Unicode
