import CredentialPolicy.Pattern.Expr

/-!
Normal forms of expressions, and how they are written.

A normal form has no sequence within a sequence and no choice within a choice, takes characters that
stand next to each other as one text, a choice between characters as one set, and what all choices
start with out of the choice; a repetition that repeats nothing, or just once, is dropped.

A normal form is written with its sequences and choices between parentheses and each repetition
after what it repeats. So a repetition that repeats another one is written as two marks in a row,
and a question mark that comes second reads as the mark of a lazy repetition: `Expr.reread` is what
a written expression reads as.
-/

set_option autoImplicit false

namespace CredentialPolicy.Pattern

open Unicode (CharSet)

namespace Expr

/-! ## Equality -/

mutual

/-- Whether two expressions are the same. -/
def same : Expr → Expr → Bool
  | .text a, .text b => a = b
  | .oneOf s, .oneOf t => s = t
  | .look l, .look m => l = m
  | .repeated e min max greedy, .repeated f min' max' greedy' =>
    same e f && min = min' && max = max' && greedy = greedy'
  | .group e, .group f => same e f
  | .concat es, .concat fs => sameAll es fs
  | .choice es, .choice fs => sameAll es fs
  | _, _ => false

/-- Whether two lists of expressions are the same. -/
def sameAll : List Expr → List Expr → Bool
  | [], [] => true
  | e :: es, f :: fs => same e f && sameAll es fs
  | _, _ => false

end

/-! ## Sequences -/

/-- The parts of a sequence; an expression that is none is its own only part. -/
def parts : Expr → List Expr
  | .concat es => es
  | .text [] => []
  | e => [e]

/-- Puts an expression in front of others; a text joins a text. -/
def consPart : Expr → List Expr → List Expr
  | .text a, .text b :: r => .text (a ++ b) :: r
  | e, r => e :: r

/-- One expression after the other, with none but the necessary levels. -/
def sequence (es : List Expr) : Expr :=
  match (es.flatMap parts).foldr consPart [] with
  | [] => .text []
  | [e] => e
  | es => .concat es

/-! ## Choices -/

/-- The set of characters that an expression stands for, if it is one. -/
def asSet? : Expr → Option CharSet
  | .text [c] => some (.single c)
  | .oneOf s => some s
  | _ => none

/-- A set of characters; a set of one character is a text. -/
def ofSet (s : CharSet) : Expr :=
  match s.single? with
  | some c => .text [c]
  | none => .oneOf s

/-- The expressions that both of two lists start with. -/
def commonStart : List Expr → List Expr → List Expr
  | e :: es, f :: fs => if same e f then e :: commonStart es fs else []
  | _, _ => []

/-- The choices of a choice; an expression that is none is its own only choice. -/
def choices : Expr → List Expr
  | .choice es => es
  | e => [e]

/-- The parts of a sequence, if the expression is one. -/
def sequenceParts? : Expr → Option (List Expr)
  | .concat es => some es
  | _ => none

/-- One of several alternatives, with none but the necessary levels. A choice between sequences that
start alike is taken behind their common start; the fuel bounds how often that is done again for
what is left of them. -/
def alternatives (fuel : Nat) (es : List Expr) : Expr :=
  match es.flatMap choices with
  | [] => .oneOf ∅
  | [e] => e
  | es =>
    match es.mapM asSet? with
    | some sets => ofSet (sets.foldl (· ∪ ·) ∅)
    | none =>
      match fuel, es.mapM sequenceParts? with
      | fuel + 1, some (first :: others) =>
        match others.foldl commonStart first with
        | [] => .choice es
        | start =>
          let rests := (first :: others).map fun parts => sequence (parts.drop start.length)
          sequence (start ++ [alternatives fuel rests])
      | _, _ => .choice es

/-! ## Repetitions -/

mutual

/-- Whether an expression can match the empty text only. -/
def isWidthless : Expr → Bool
  | .text cs => cs.isEmpty
  | .oneOf _ => false
  | .look _ => true
  | .repeated e _ _ _ => isWidthless e
  | .group e => isWidthless e
  | .concat es => areWidthless es
  | .choice es => areWidthless es

/-- Whether all of some expressions can match the empty text only. -/
def areWidthless : List Expr → Bool
  | [] => true
  | e :: es => isWidthless e && areWidthless es

end

/-- A repetition, if it is more than its expression. What can match the empty text only is repeated
at most once. -/
def repetition (e : Expr) (min : Nat) (max : Option Nat) (greedy : Bool) : Expr :=
  let (min, max) :=
    if isWidthless e then (Nat.min min 1, some (Nat.min (max.getD 1) 1)) else (min, max)
  if max = some 0 then .text []
  else if min = 1 ∧ max = some 1 then e
  else .repeated e min max greedy

/-! ## Normal forms -/

mutual

/-- The number of parts of an expression. -/
def size : Expr → Nat
  | .repeated e _ _ _ => size e + 1
  | .group e => size e + 1
  | .concat es => sizeAll es + 1
  | .choice es => sizeAll es + 1
  | _ => 1

/-- The number of parts of some expressions. -/
def sizeAll : List Expr → Nat
  | [] => 0
  | e :: es => size e + sizeAll es

end

mutual

/-- The normal form of an expression. -/
def normal : Expr → Expr
  | .text cs => .text cs
  | .oneOf s => ofSet s
  | .look l => .look l
  | .repeated e min max greedy => repetition (normal e) min max greedy
  | .group e => .group (normal e)
  | .concat es => sequence (normalAll es)
  | .choice es => alternatives (sizeAll es) (normalAll es)

/-- The normal forms of some expressions. -/
def normalAll : List Expr → List Expr
  | [] => []
  | e :: es => normal e :: normalAll es

end

/-! ## Writing -/

/-- The bounds of a repetition, and whether it is greedy. -/
structure Bounds where
  /-- How often at least. -/
  min : Nat
  /-- How often at most, if there is a limit. -/
  max : Option Nat
  /-- Whether the repetition is greedy. -/
  greedy : Bool
  deriving DecidableEq, Repr

/-- A mark behind an expression. -/
inductive Mark where
  /-- A question mark. -/
  | question
  /-- Any other mark of a repetition. -/
  | bounds (min : Nat) (max : Option Nat)
  deriving DecidableEq, Repr

/-- The marks that write a repetition. One with a fixed number is never marked as lazy. -/
def Bounds.marks (b : Bounds) : List Mark :=
  if b.min = 0 ∧ b.max = some 1 then
    if b.greedy then [.question] else [.question, .question]
  else if b.max = some b.min ∨ b.greedy then [.bounds b.min b.max]
  else [.bounds b.min b.max, .question]

/-- The repetition that a mark starts. -/
def Mark.bounded : Mark → Bool → Bounds
  | .question, greedy => ⟨0, some 1, greedy⟩
  | .bounds min max, greedy => ⟨min, max, greedy⟩

/-- The repetitions that marks in a row read as, innermost first. -/
def readMarks : List Mark → List Bounds
  | mark :: .question :: r => mark.bounded false :: readMarks r
  | mark :: r => mark.bounded true :: readMarks r
  | [] => []

/-- An expression within repetitions, innermost first. -/
def wrap (e : Expr) (bs : List Bounds) : Expr :=
  bs.foldl (fun e b => .repeated e b.min b.max b.greedy) e

mutual

/-- What an expression reads as when it has been written with some marks behind it. -/
def rereadWith (marks : List Mark) : Expr → Expr
  | .repeated e min max greedy => rereadWith ((Bounds.mk min max greedy).marks ++ marks) e
  | .group e => wrap (.group (rereadWith [] e)) (readMarks marks)
  | .concat es => wrap (.concat (rereadAll es)) (readMarks marks)
  | .choice es => wrap (.choice (rereadAll es)) (readMarks marks)
  | .text cs => wrap (.text cs) (readMarks marks)
  | .oneOf s => wrap (.oneOf s) (readMarks marks)
  | .look l => wrap (.look l) (readMarks marks)

/-- What some expressions read as. -/
def rereadAll : List Expr → List Expr
  | [] => []
  | e :: es => rereadWith [] e :: rereadAll es

end

/-- What a written expression reads as. -/
def reread (e : Expr) : Expr := rereadWith [] e

/-- How deep a set between brackets nests. A range of two characters is written as these. -/
def setDepth (s : CharSet) : Nat :=
  match CharSet.runs s.bounds with
  | [(lo, hi)] => if lo + 1 = hi then 2 else 1
  | _ => 2

/-- How deep a written condition nests. -/
def lookDepth : Look → Nat
  | .textStart | .textEnd => 0
  | .wordBoundary .unicode | .notWordBoundary .unicode | .wordStart .unicode | .wordEnd .unicode
  | .wordStartHalf .unicode | .wordEndHalf .unicode => 0
  | _ => 1

mutual

/-- How deep a written normal form nests. -/
def writtenDepth : Expr → Nat
  | .text [] => 1
  | .text [_] => 0
  | .text _ => 2
  | .oneOf s => setDepth s
  | .look l => lookDepth l
  | .repeated e _ _ _ => writtenDepth e + 1
  | .group e => writtenDepth e + 1
  | .concat es => deepestWritten es + 2
  | .choice es => deepestWritten es + 2

/-- The depth of the deepest of some written normal forms. -/
def deepestWritten : List Expr → Nat
  | [] => 0
  | e :: es => max (writtenDepth e) (deepestWritten es)

end

/-- An expression between the start and the end of the text, in normal form. -/
def anchored (e : Expr) : Expr := sequence [.look .textStart, e.normal, .look .textEnd]

end Expr

end CredentialPolicy.Pattern
