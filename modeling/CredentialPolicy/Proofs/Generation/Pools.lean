import CredentialPolicy.Generation.Password
import CredentialPolicy.Proofs.Generation.Plan
import CredentialPolicy.Proofs.Random.Evenness

/-!
The pools of passwords hold what they should, each character once, and none of it is preferred.

What a pool is was settled with the classes: the ascending list of the characters of some classes
less the excluded ones. This module carries it over to the draws. Being ascending, a pool has no
character twice, so it is drawn from evenly (`evenlyDrawn_of_ascending`), and this holds of all the
pools from which a password is put together, those of special characters included, which are no
pools of classes (`DrawnPool.pairwise`).
-/

set_option autoImplicit false

namespace CredentialPolicy.Generation

open CredentialPolicy.Random

/-- The pools from which the characters of passwords are drawn. -/
inductive DrawnPool : List Char → Prop where
  /-- What a rule requires. -/
  | requirement {r : PasswordRule} {plan : Plan} {q : Requirement}
    (planned : Plan.ofRule r = .ok plan) (mem : q ∈ plan.requirements) : DrawnPool q.pool
  /-- What fills the rest. -/
  | filler {r : PasswordRule} {plan : Plan} (planned : Plan.ofRule r = .ok plan) :
    DrawnPool plan.filler
  /-- The letters of the default password. -/
  | defaultLetters : DrawnPool (letterPool ∅)
  /-- The digits of the default password. -/
  | defaultDigits : DrawnPool CharClass.digit.members

/-- Whatever characters are drawn from stand in ascending order. -/
theorem DrawnPool.pairwise {p : List Char} (h : DrawnPool p) : p.Pairwise (· < ·) := by
  cases h with
  | requirement planned mem =>
    obtain ⟨-, -, rfl⟩ := ofRule_eq_ok planned
    exact pairwise_pool_of_mem_requirementsOf mem
  | filler planned =>
    obtain ⟨-, -, rfl⟩ := ofRule_eq_ok planned
    exact pairwise_pool _ _
  | defaultLetters => exact pairwise_pool _ _
  | defaultDigits => exact CharClass.pairwise_members _

/-- An ascending list has no character twice, and there are few enough characters for one word to
tell its places apart. -/
theorem evenlyDrawn_of_ascending {p : List Char} (h : p.Pairwise (· < ·)) : EvenlyDrawn p :=
  (evenlyDrawn_iff_nodup (Nat.lt_of_le_of_lt (length_le_of_ascending h) (by decide))).2 h.nodup

/-- **Pools are exact.** The listing of a class and its test agree on every character, and with them
the class found for a character and the number of characters counted. The pool of any classes,
whatever is excluded, is strictly ascending and holds a character exactly if one of the classes has
it and it is not excluded; so it depends neither on the order of the classes nor on how often each
is named, and the pool of two lists of classes together is the sorted union of their pools. No draw
from it prefers a character, nor does any draw from which a password is put together: with one place
for each character, each comes out for the same share of all pairs of words. -/
theorem pools_exact :
    (∀ k : CharClass, k.members.Pairwise (· < ·) ∧
      (∀ c : Char, c ∈ k.members ↔ k.contains c = true) ∧
      (∀ c : Char, CharClass.of? c = some k ↔ c ∈ k.members) ∧
      ∀ text : List Char, k.countIn text = text.countP (· ∈ k.members)) ∧
    (∀ (classes : List CharClass) (excluded : Ascending Char),
      (pool classes excluded).Pairwise (· < ·) ∧
      (∀ c : Char, c ∈ pool classes excluded ↔
        (∃ k ∈ classes, k.contains c = true) ∧ ¬ c ∈ excluded) ∧
      EvenlyDrawn (pool classes excluded)) ∧
    (∀ (classes others : List CharClass) (excluded : Ascending Char),
      (∀ k, k ∈ classes ↔ k ∈ others) → pool classes excluded = pool others excluded) ∧
    (∀ (classes others : List CharClass) (excluded : Ascending Char),
      pool (classes ++ others) excluded =
        ((pool classes excluded).toFinset ∪ (pool others excluded).toFinset).sort) ∧
    ∀ p : List Char, DrawnPool p → p.Pairwise (· < ·) ∧ EvenlyDrawn p := by
  refine ⟨?_, ?_, ?_, ?_, ?_⟩
  · intro k
    refine ⟨k.pairwise_members, fun c => CharClass.mem_members, fun c => ?_, k.countIn_eq⟩
    rw [CharClass.of?_eq_some_iff, CharClass.mem_members]
  · intro classes excluded
    have hascending := pairwise_pool classes excluded
    exact ⟨hascending, fun c => mem_pool, evenlyDrawn_of_ascending hascending⟩
  · intro classes others excluded h
    exact pool_congr excluded h
  · intro classes others excluded
    exact pool_append classes others excluded
  · intro p h
    exact ⟨h.pairwise, evenlyDrawn_of_ascending h.pairwise⟩

/-- A rule without odd digits and with three special characters that can be drawn. -/
def evenRule : PasswordRule where
  minLength := 8
  maxLength := 8
  digits := 1
  specials := 2
  specialChars := .ofList "é!8%".toList
  illegalChars := .ofList "13579".toList

/-- Classes in another order and one of them twice; and the shares of an even digit among five, and
of a letter outside ASCII among three special characters. -/
theorem pools_exact_evenRule :
    (∀ k, k ∈ [CharClass.digit, .uppercase, .digit] ↔ k ∈ [CharClass.uppercase, .digit]) ∧
    pool [.digit, .uppercase, .digit] evenRule.illegalChars =
      pool [.uppercase, .digit] evenRule.illegalChars ∧
    '4' ∈ pool [.digit, .digit] evenRule.illegalChars ∧
    3689348814741910323 ≤
      (pairsFor (pool [.digit, .digit] evenRule.illegalChars) '4').ncard ∧
    DrawnPool ['!', '%', 'é'] ∧
    (pairsFor ['!', '%', 'é'] 'é').ncard ≤ 6148914691236517206 := by
  obtain ⟨-, hpool, hcongr, -, hdrawn⟩ := pools_exact
  have hsame : ∀ k, k ∈ [CharClass.digit, .uppercase, .digit] ↔
      k ∈ [CharClass.uppercase, .digit] := by
    intro k
    cases k <;> decide
  have hfour : '4' ∈ pool [.digit, .digit] evenRule.illegalChars := by decide +kernel
  have hplan : Plan.ofRule evenRule = .ok (Plan.forRule evenRule) := by decide +kernel
  have hspecials : (⟨.special, ['!', '%', 'é'], 2⟩ : Requirement) ∈
      (Plan.forRule evenRule).requirements := by decide +kernel
  have hmarks : DrawnPool ['!', '%', 'é'] := .requirement hplan hspecials
  have hlength : (pool [.digit, .digit] evenRule.illegalChars).length = 5 := by decide +kernel
  have hshare := ((hpool [.digit, .digit] evenRule.illegalChars).2.2.share hfour).1
  rw [hlength] at hshare
  exact ⟨hsame, hcongr _ _ _ hsame, hfour, hshare, hmarks,
    ((hdrawn _ hmarks).2.share (by decide)).2⟩

end CredentialPolicy.Generation
