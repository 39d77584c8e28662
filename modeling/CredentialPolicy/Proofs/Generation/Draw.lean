import CredentialPolicy.Generation.Password
import CredentialPolicy.Proofs.Generation.Plan
import CredentialPolicy.Proofs.Random.Shuffle
import CredentialPolicy.Proofs.Rule.Merge
import Mathlib.Data.List.Forall2

/-!
Candidates are the texts that can be split into what a rule requires.

`Split r text` deals out the characters of a text to the ingredients of a rule: each ingredient gets
as many as are required, all of which can serve as it, and letters fill the rest. A candidate is a
text with a split and a length that the rule allows (`Candidate`), and that is all there is to say
about drawing one:

* the draw of a plan never fails and gives a candidate (`draw_succeeds`), with a word taken for each
  of its characters at least;
* every candidate is drawn for some words (`exists_answers_draw`).
-/

set_option autoImplicit false

namespace CredentialPolicy.Generation

open CredentialPolicy.Random

variable {σ : Type} [WordSource σ] {α β : Type}

/-! ## Drawing without failure -/

/-- Whatever the source hands out, there is a result; it and the number of words taken are as
stated. -/
def Succeeds (m : Draw σ α) (Q : α → Nat → Prop) : Prop :=
  Yields (m : StateM σ (Except PolicyError α)) fun r n => ∃ a, r = .ok a ∧ Q a n

namespace Succeeds

theorem pure {Q : α → Nat → Prop} {a : α} (h : Q a 0) : Succeeds (Pure.pure a : Draw σ α) Q :=
  Yields.pure ⟨a, rfl, h⟩

/-- What is said of the result and the words may be loosened. -/
theorem mono {m : Draw σ α} {Q R : α → Nat → Prop} (hm : Succeeds m Q)
    (h : ∀ a n, Q a n → R a n) : Succeeds m R := by
  refine Yields.mono hm ?_
  rintro _ n ⟨a, rfl, hQ⟩
  exact ⟨a, rfl, h a n hQ⟩

/-- Parts that do not fail make a program that does not, and their words add up. -/
theorem bind {m : Draw σ α} {f : α → Draw σ β} {Q : α → Nat → Prop} {R : β → Nat → Prop}
    (hm : Succeeds m Q) (hf : ∀ a n, Q a n → Succeeds (f a) fun b k => R b (n + k)) :
    Succeeds (m >>= f) R := by
  show Yields ((m : StateM σ (Except PolicyError α)) >>= ExceptT.bindCont f) _
  refine Yields.bind hm ?_
  rintro _ n ⟨a, rfl, hQ⟩
  exact hf a n hQ

/-- A sampler of its own never fails. -/
theorem sample {m : StateM σ α} {Q : α → Nat → Prop} (hm : Yields m Q) :
    Succeeds (Generation.sample m) Q :=
  Yields.bind hm fun a _ hQ => Yields.pure ⟨a, rfl, hQ⟩

/-- The result at one state, the words that it takes and the state after them. -/
theorem run {m : Draw σ α} {Q : α → Nat → Prop} (hm : Succeeds m Q) (s : σ) :
    ∃ a t ws, m s = (.ok a, t) ∧ Hands s ws t ∧ Q a ws.length := by
  obtain ⟨ws, hws, a, ha, hQ⟩ := hm s
  exact ⟨a, (m s).2, ws, Prod.ext ha rfl, hws, hQ⟩

end Succeeds

/-- The words of a composition that does not fail are those of its parts together. -/
theorem answers_bind_ok {m : Draw σ α} {f : α → Draw σ β} {vs ws : List UInt32} {a : α}
    {r : Except PolicyError β} (hm : Answers (m : StateM σ (Except PolicyError α)) vs (.ok a))
    (hf : Answers (f a : StateM σ (Except PolicyError β)) ws r) :
    Answers (m >>= f : Draw σ β) (vs ++ ws) r := by
  show Answers ((m : StateM σ (Except PolicyError α)) >>= ExceptT.bindCont f) _ _
  exact Answers.bind hm hf

/-- A sampler takes the same words as a part of a program. -/
theorem answers_sample {m : StateM σ α} {ws : List UInt32} {a : α} (hm : Answers m ws a) :
    Answers (sample m : Draw σ α) ws (.ok a) :=
  Answers.map hm rfl

/-! ## Required characters -/

/-- As many characters as a requirement asks for, all of its pool. -/
def Serves (q : Requirement) (chars : List Char) : Prop :=
  chars.length = q.count ∧ ∀ c ∈ chars, c ∈ q.pool

/-- Characters come out of a pool unless it is empty and some are wanted. -/
theorem drawFrom_succeeds (i : Ingredient) {pool : List Char} {n : Nat} (h : n = 0 ∨ pool ≠ []) :
    Succeeds (drawFrom i pool n : Draw σ (List Char)) fun chars k =>
      (chars.length = n ∧ ∀ c ∈ chars, c ∈ pool) ∧ n ≤ k := by
  refine (Succeeds.sample (yields_chooseMany h)).bind ?_
  rintro _ k ⟨⟨chars, rfl, hchars⟩, hk⟩
  exact Succeeds.pure ⟨hchars, by omega⟩

/-- Any characters of a pool come out of it for some words. -/
theorem exists_answers_drawFrom (i : Ingredient) {pool chars : List Char}
    (hmem : ∀ c ∈ chars, c ∈ pool) (hbound : pool.length ≤ 2 ^ 64) :
    ∃ ws, ∀ {σ : Type} [WordSource σ],
      Answers (drawFrom i pool chars.length : Draw σ (List Char)) ws (.ok chars) := by
  obtain ⟨ws, hws⟩ := exists_answers_chooseMany hmem hbound
  refine ⟨ws ++ [], fun {σ} _ => ?_⟩
  exact answers_bind_ok (answers_sample hws) (Answers.pure _)

/-- The required characters are those of each requirement, one after the other. -/
theorem drawAll_succeeds {qs : List Requirement} (h : ∀ q ∈ qs, q.count = 0 ∨ q.pool ≠ []) :
    Succeeds (drawAll qs : Draw σ (List Char)) fun chars n =>
      (∃ parts, List.Forall₂ Serves qs parts ∧ chars = parts.flatten) ∧ chars.length ≤ n := by
  induction qs with
  | nil => exact Succeeds.pure ⟨⟨[], .nil, rfl⟩, Nat.le_refl 0⟩
  | cons q qs ih =>
    obtain ⟨hq, hqs⟩ := List.forall_mem_cons.1 h
    refine (drawFrom_succeeds q.ingredient hq).bind fun chars n hchars => ?_
    refine (ih hqs).bind ?_
    rintro _ k ⟨⟨parts, hparts, rfl⟩, hk⟩
    refine Succeeds.pure ⟨⟨chars :: parts, .cons hchars.1 hparts, rfl⟩, ?_⟩
    rw [List.length_append]
    omega

/-- Any characters that serve the requirements are drawn for some words: those of each requirement,
one after the other. -/
theorem exists_answers_drawAll {qs : List Requirement} {parts : List (List Char)}
    (hparts : List.Forall₂ Serves qs parts) (hbound : ∀ q ∈ qs, q.pool.length ≤ 2 ^ 64) :
    ∃ ws, ∀ {σ : Type} [WordSource σ],
      Answers (drawAll qs : Draw σ (List Char)) ws (.ok parts.flatten) := by
  induction hparts with
  | nil => exact ⟨[], fun {σ} _ => Answers.pure _⟩
  | @cons q chars qs parts hchars hparts ih =>
    obtain ⟨hq, hqs⟩ := List.forall_mem_cons.1 hbound
    obtain ⟨vs, hvs⟩ := exists_answers_drawFrom q.ingredient hchars.2 hq
    obtain ⟨ws, hws⟩ := ih hqs
    refine ⟨vs ++ (ws ++ []), fun {σ} _ => ?_⟩
    rw [hchars.1] at hvs
    exact answers_bind_ok hvs (answers_bind_ok hws (Answers.pure _))

/-! ## Candidates -/

/-- The characters of a text dealt out to the ingredients of a rule in force. -/
structure Split (r : PasswordRule) (text : List Char) where
  /-- The characters of each ingredient. -/
  part : Ingredient → List Char
  /-- Together they are the characters of the text. -/
  perm : text.Perm (part .uppercase ++ part .lowercase ++ part .letter ++ part .digit ++
    part .special ++ part .filler)
  /-- Each character can serve as its ingredient. -/
  admitted : ∀ i, ∀ c ∈ part i, Admits r i c
  /-- Each ingredient has as many characters as are required; filler may have any number. -/
  length_part : ∀ i, i ≠ .filler → (part i).length = demand r i

/-- A text that can be split into what a rule requires and has an allowed length. -/
structure Candidate (r : PasswordRule) (text : List Char) : Prop where
  split : Nonempty (Split r text)
  minLength_le : count r.minLength ≤ text.length
  length_le : text.length ≤ count r.maxLength

/-- Served requirements make up as many characters as are required. -/
theorem length_flatten_of_serves {r : PasswordRule} {parts : List (List Char)}
    (h : List.Forall₂ Serves (requirementsOf r) parts) :
    parts.flatten.length = requiredCount r := by
  unfold requirementsOf at h
  obtain _ | ⟨hu, _ | ⟨hl, _ | ⟨ha, _ | ⟨hd, _ | ⟨hs, _ | _⟩⟩⟩⟩⟩ := h
  simp only [List.flatten_cons, List.flatten_nil, List.length_append, List.length_nil]
  rw [hu.1, hl.1, ha.1, hd.1, hs.1, requiredCount]
  dsimp only
  omega

/-- A requirement is served by as many characters as the rule demands, each of which it admits. -/
theorem serves_iff {r : PasswordRule} {q : Requirement} (hq : q ∈ requirementsOf r)
    {chars : List Char} :
    Serves q chars ↔
      chars.length = demand r q.ingredient ∧ ∀ c ∈ chars, Admits r q.ingredient c := by
  obtain ⟨hcount, hpool⟩ := mem_pool_of_mem_requirementsOf hq
  unfold Serves
  simp only [hcount, hpool]

/-- The characters of each ingredient. -/
def partsOf (upper lower letters digits specials filler : List Char) : Ingredient → List Char
  | .uppercase => upper
  | .lowercase => lower
  | .letter => letters
  | .digit => digits
  | .special => specials
  | .filler => filler

/-- Served requirements and letters are a split of every arrangement of theirs. -/
theorem split_of_serves {r : PasswordRule} {parts : List (List Char)} {filler text : List Char}
    (hparts : List.Forall₂ Serves (requirementsOf r) parts)
    (hfiller : ∀ c ∈ filler, Admits r .filler c)
    (hperm : text.Perm (parts.flatten ++ filler)) : Nonempty (Split r text) := by
  -- A list that is `Forall₂` to the five requirements has five members, one for each.
  have hserves := fun q hq => @serves_iff r q hq
  unfold requirementsOf at hparts hserves
  simp only [List.forall_mem_cons] at hserves
  obtain ⟨hupper, hlower, hletter, hdigit, hspecial, -⟩ := hserves
  obtain _ | ⟨hu, _ | ⟨hl, _ | ⟨ha, _ | ⟨hd, _ | ⟨hs, _ | _⟩⟩⟩⟩⟩ := hparts
  rename_i upper lower letters digits specials
  rw [hupper] at hu
  rw [hlower] at hl
  rw [hletter] at ha
  rw [hdigit] at hd
  rw [hspecial] at hs
  -- The arrangement is the given one; what is left goes ingredient by ingredient.
  refine ⟨⟨partsOf upper lower letters digits specials filler, ?_, ?_, ?_⟩⟩
  · simpa [partsOf, List.append_assoc] using hperm
  · intro i
    cases i with
    | uppercase => exact hu.2
    | lowercase => exact hl.2
    | letter => exact ha.2
    | digit => exact hd.2
    | special => exact hs.2
    | filler => exact hfiller
  · intro i hi
    cases i with
    | uppercase => exact hu.1
    | lowercase => exact hl.1
    | letter => exact ha.1
    | digit => exact hd.1
    | special => exact hs.1
    | filler => exact absurd rfl hi

/-- The parts of a split serve the requirements. -/
theorem Split.serves {r : PasswordRule} {text : List Char} (s : Split r text) :
    List.Forall₂ Serves (requirementsOf r)
      [s.part .uppercase, s.part .lowercase, s.part .letter, s.part .digit, s.part .special] := by
  have hserves : ∀ q ∈ requirementsOf r, q.ingredient ≠ .filler →
      Serves q (s.part q.ingredient) := fun q hq hne =>
    (serves_iff hq).2 ⟨s.length_part _ hne, s.admitted _⟩
  -- None of the five requirements is for filler, so each is served by its own part.
  unfold requirementsOf at hserves ⊢
  simp only [List.forall_mem_cons] at hserves
  obtain ⟨hu, hl, ha, hd, hs, -⟩ := hserves
  exact .cons (hu (by decide)) (.cons (hl (by decide)) (.cons (ha (by decide))
    (.cons (hd (by decide)) (.cons (hs (by decide)) .nil))))

/-- The characters beyond the required ones are filler. -/
theorem Split.length_eq {r : PasswordRule} {text : List Char} (s : Split r text) :
    text.length = requiredCount r + (s.part .filler).length := by
  have hlen := length_flatten_of_serves s.serves
  have hperm := s.perm.length_eq
  rw [List.length_append] at hperm
  rw [hperm, ← hlen]
  simp [Nat.add_assoc]

/-- An ingredient that is required can be served if a text has a split. -/
theorem Split.exists_admits_of_demand {r : PasswordRule} {text : List Char} (s : Split r text)
    {i : Ingredient} (h : 0 < demand r i) : ∃ c, Admits r i c := by
  have hi : i ≠ .filler := by
    rintro rfl
    exact Nat.lt_irrefl 0 h
  rw [← s.length_part i hi] at h
  obtain ⟨c, hc⟩ := List.exists_mem_of_length_pos h
  exact ⟨c, s.admitted i c hc⟩

/-- A rule with a candidate fits and can be met. -/
theorem Candidate.meetable {r : PasswordRule} {text : List Char} (h : Candidate r text) :
    requiredCount r ≤ count r.maxLength ∧ ¬ Unmeetable r := by
  obtain ⟨⟨split⟩, hmin, hmax⟩ := h
  have hlen := split.length_eq
  refine ⟨by omega, ?_⟩
  -- Each way in which the rule could not be met leaves a part of the split without a character.
  rintro (⟨hrequired, hnone⟩ | ⟨i, hrequired, hnone⟩ | ⟨hrequired, hnone⟩)
  · have hdemand : 0 < demand r .special := count_pos_iff.2 hrequired
    obtain ⟨c, hc⟩ := split.exists_admits_of_demand hdemand
    exact hnone c hc.1
  · obtain ⟨c, hc⟩ := split.exists_admits_of_demand hrequired
    exact hnone c hc
  · have hfiller : 0 < (split.part .filler).length := by omega
    obtain ⟨c, hc⟩ := List.exists_mem_of_length_pos hfiller
    exact hnone c (split.admitted .filler c hc)

/-! ## Drawing a candidate -/

section

variable {r : PasswordRule} (hfit : requiredCount r ≤ count r.maxLength)
  (hmeetable : ¬ Unmeetable r)

include hfit hmeetable

/-- The length that a plan draws is at least the number of required characters, and no more than
that if there is no letter to fill the rest. -/
theorem yields_length (hforce : r.InForce) :
    Yields (lengthBetween (Plan.forRule r).minLength (Plan.forRule r).maxLength : StateM σ Nat)
      fun n _ => (count r.minLength ≤ n ∧ n ≤ count r.maxLength ∧ requiredCount r ≤ n) ∧
        (n - requiredCount r = 0 ∨ letterPool r.illegalChars ≠ []) := by
  have hle := count_le_count hforce.minLength_le_maxLength
  refine (yields_lengthBetween _ _).mono fun n _ hn => ?_
  unfold Plan.forRule at hn
  dsimp only at hn
  by_cases hletters : (letterPool r.illegalChars).isEmpty
  · -- Without letters the greatest length is set to the least one, which is `requiredCount r`.
    rw [if_pos hletters] at hn
    have hmin : ¬ requiredCount r < count r.minLength :=
      fun hlt => hmeetable (.noFiller hlt (isEmpty_letterPool_iff.1 hletters))
    exact ⟨by omega, Or.inl (by omega)⟩
  · rw [if_neg hletters] at hn
    exact ⟨by omega, Or.inr fun hnil => hletters (List.isEmpty_iff.2 hnil)⟩

/-- **A draw gives a candidate.** It never fails, and it takes a word for each character. -/
theorem draw_succeeds (hforce : r.InForce) :
    Succeeds ((Plan.forRule r).draw : Draw σ (List Char)) fun text n =>
      Candidate r text ∧ text.length ≤ n := by
  refine (Succeeds.sample (yields_length hfit hmeetable hforce)).bind ?_
  rintro n i ⟨⟨hmin, hmax, hrequired⟩, hfiller⟩
  refine (drawAll_succeeds fun q hq => pool_ne_nil_of_meetable hmeetable hq).bind ?_
  rintro _ j ⟨⟨parts, hparts, rfl⟩, hj⟩
  refine (drawFrom_succeeds .filler hfiller).bind ?_
  rintro filler k ⟨⟨hlen, hmem⟩, hk⟩
  refine (Succeeds.sample (yields_shuffle (parts.flatten ++ filler))).mono fun text l hperm => ?_
  -- What was drawn is a split of every arrangement, so of the shuffled one.
  obtain ⟨split⟩ := split_of_serves hparts (fun c hc => mem_letterPool.1 (hmem c hc)) hperm
  have hsize := hperm.length_eq
  rw [List.length_append, length_flatten_of_serves hparts] at hsize
  rw [length_flatten_of_serves hparts] at hj
  exact ⟨⟨⟨split⟩, by omega, by omega⟩, by omega⟩

end

/-- Every length that a candidate can have comes out for some words. -/
theorem exists_answers_length {r : PasswordRule} {text : List Char} (split : Split r text)
    (hmin : count r.minLength ≤ text.length) (hmax : text.length ≤ count r.maxLength) :
    ∃ ws, ∀ {σ : Type} [WordSource σ],
      Answers (lengthBetween (Plan.forRule r).minLength (Plan.forRule r).maxLength : StateM σ Nat)
        ws text.length := by
  have hlen := split.length_eq
  have hbound := count_lt r.maxLength
  apply exists_answers_lengthBetween
  · show max (count r.minLength) (requiredCount r) ≤ text.length
    omega
  · unfold Plan.forRule
    dsimp only
    by_cases hletters : (letterPool r.illegalChars).isEmpty
    · -- No letter is left, so the split has no filler and the text is as short as it can be.
      have hnone : split.part .filler = [] := List.eq_nil_iff_forall_not_mem.2 fun c hc =>
        isEmpty_letterPool_iff.1 hletters c (split.admitted .filler c hc)
      rw [hnone, List.length_nil] at hlen
      rw [if_pos hletters]
      omega
    · rw [if_neg hletters]
      exact hmax
  · have hminLength := count_lt r.minLength
    unfold Plan.forRule
    dsimp only
    split <;> omega

/-- **Every candidate is drawn.** Some words make the draw give it, whatever source hands them
out. -/
theorem exists_answers_draw {r : PasswordRule} {text : List Char} (h : Candidate r text) :
    ∃ ws, ∀ {σ : Type} [WordSource σ],
      Answers ((Plan.forRule r).draw : Draw σ (List Char)) ws (.ok text) := by
  obtain ⟨⟨split⟩, hmin, hmax⟩ := h
  have hlen := split.length_eq
  have hbound := count_lt r.maxLength
  have hfiller : (split.part .filler).length = text.length - (Plan.forRule r).required := by
    show _ = text.length - requiredCount r
    omega
  have hperm : text.Perm ([split.part .uppercase, split.part .lowercase, split.part .letter,
      split.part .digit, split.part .special].flatten ++ split.part .filler) := by
    simpa [List.append_assoc] using split.perm
  have hsize := hperm.length_eq
  obtain ⟨ws₁, hlength⟩ := exists_answers_length split hmin hmax
  obtain ⟨ws₂, hrequired⟩ := exists_answers_drawAll split.serves fun q hq =>
    Nat.le_trans (length_pool_le_of_mem_requirementsOf hq) (by decide)
  obtain ⟨ws₃, hletters⟩ := exists_answers_drawFrom .filler
    (fun c hc => mem_letterPool.2 (split.admitted .filler c hc))
    (Nat.le_trans (length_pool_le _ _) (by decide))
  obtain ⟨ws₄, hshuffle⟩ := exists_answers_shuffle hperm (by omega)
  rw [hfiller] at hletters
  -- The parts in the order in which they are drawn.
  refine ⟨ws₁ ++ (ws₂ ++ (ws₃ ++ ws₄)), fun {σ} _ => ?_⟩
  refine answers_bind_ok (answers_sample hlength) ?_
  refine answers_bind_ok hrequired ?_
  exact answers_bind_ok hletters (answers_sample hshuffle)

end CredentialPolicy.Generation
