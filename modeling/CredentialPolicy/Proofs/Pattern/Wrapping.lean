import CredentialPolicy.Proofs.Pattern.Matcher
import CredentialPolicy.Proofs.Pattern.Reader
import CredentialPolicy.Proofs.Pattern.Written

/-!
What a usable pattern matches.

A pattern has a meaning as soon as the syntax accepts it (`meaning?`). For a verdict it is put
between the start and the end of the text, written, and read again, so three things can come between
the meaning and the verdict: the wrapped expression may be too deep or too big (`Expr.Fits`), and
what is read may match less than what was written. It never matches more, and never a part of the
text alone (`of_matches_written`); that it matches as much is known for expressions that are
legible when they are wrapped (`exists_matches_written_iff`).
-/

set_option autoImplicit false

namespace CredentialPolicy.Pattern

/-- The expression that a pattern stands for, if the syntax accepts the pattern. -/
def meaning? (pattern : String) : Option Expr := do
  let node ← Node.ofText? pattern.toList
  let (e, _) ← node.expr? {}
  return e

/-- Whatever a pattern means, its repetitions have their bounds in order. -/
theorem bounded_of_meaning? {pattern : String} {e : Expr} (h : meaning? pattern = some e) :
    e.Bounded := by
  obtain ⟨node, hnode, h⟩ := Option.bind_eq_some_iff.1 h
  obtain ⟨⟨f, c⟩, hf, h⟩ := Option.bind_eq_some_iff.1 h
  cases h
  exact (Node.bounded_of_ofText? hnode).expr? hf

namespace Expr

/-- What is read when the expression has been put between the start and the end of the text and
written. -/
def written (e : Expr) : Expr := e.anchored.reread

/-- What is written is within the limits on depth and memory. -/
def Fits (e : Expr) : Prop := e.written.writtenDepth ≤ maxDepth ∧ e.anchored.cost ≤ maxCost

instance (e : Expr) : Decidable e.Fits := inferInstanceAs (Decidable (_ ∧ _))

/-- The expression matches a text from its first to its last character. -/
def Accepts (e : Expr) (text : String) : Prop :=
  MatchesWhole (isWordChar Unicode.wordSet) e text.toList

variable {e : Expr} {isWord : WordKind → Char → Bool} {w : List Char} {i j : Nat}

/-- **What is written matches the whole text or nothing**, wherever a match is looked for, and only
if the expression itself matches the whole text. -/
theorem of_matches_written (h : Bounded e) (hmatch : Matches isWord w e.written i j) :
    i = 0 ∧ j = w.length ∧ MatchesWhole isWord e w :=
  (matches_anchored_iff h).1 (reread_refines e.anchored i j hmatch)

/-- A match anywhere is a match of the whole text. -/
theorem exists_matches_written_iff (h : Bounded e) :
    (∃ i j, Matches isWord w e.written i j) ↔ MatchesWhole isWord e.written w := by
  constructor
  · rintro ⟨i, j, hmatch⟩
    obtain ⟨rfl, rfl, -⟩ := of_matches_written h hmatch
    exact hmatch
  · exact fun hmatch => ⟨0, w.length, hmatch⟩

/-- **Wrapping does not change what a legible expression matches.** -/
theorem matchesWhole_written_iff (h : Bounded e) (hlegible : e.anchored.Legible) :
    MatchesWhole isWord e.written w ↔ MatchesWhole isWord e w := by
  constructor
  · exact fun hmatch => (of_matches_written h hmatch).2.2
  · intro hmatch
    exact refines_reread hlegible 0 w.length ((matches_anchored_iff h).2 ⟨rfl, rfl, hmatch⟩)

end Expr

/-! ## Usable patterns -/

variable {pattern text : String} {e : Expr}

/-- A pattern can be used if it has a meaning that fits when it is written. -/
theorem exprOfText?_eq (pattern : String) :
    exprOfText? pattern =
      (meaning? pattern).bind fun e => if e.Fits then some e.written else none := by
  unfold exprOfText? meaning?
  cases Node.ofText? pattern.toList with
  | none => rfl
  | some node =>
    rw [Option.bind_eq_bind, Option.bind_some, Option.bind_eq_bind, Option.bind_some]
    cases node.expr? {} with
    | none => rfl
    | some _ => rfl

/-- A pattern without a meaning is of no use. -/
theorem isMatch?_of_meaning?_eq_none (h : meaning? pattern = none) :
    isMatch? pattern text = none := by
  rw [isMatch?, exprOfText?_eq, h]
  rfl

/-- Neither is one whose wrapped expression is too deep or too big. -/
theorem isMatch?_of_not_fits (h : meaning? pattern = some e) (hfits : ¬ e.Fits) :
    isMatch? pattern text = none := by
  rw [isMatch?, exprOfText?_eq, h, Option.bind_some, if_neg hfits]
  rfl

/-- **A usable pattern** matches the texts that its expression accepts once it has been written. -/
theorem isMatch?_of_fits (h : meaning? pattern = some e) (hfits : e.Fits) :
    ∃ found, isMatch? pattern text = some found ∧ (found = true ↔ e.written.Accepts text) := by
  refine ⟨e.written.matchesWhole (isWordChar Unicode.wordSet) text.toList, ?_, ?_⟩
  · rw [isMatch?, exprOfText?_eq, h, Option.bind_some, if_pos hfits, Option.map_some]
  · exact Expr.matchesWhole_iff (bounded_of_meaning? h).anchored.reread

end CredentialPolicy.Pattern
