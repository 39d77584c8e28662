import CredentialPolicy.Unicode.Lowercase
import Mathlib.Data.List.Basic
import Mathlib.Data.List.TakeWhile

/-!
Where lowercasing loses sight of a word.

The lowercase form of a text is put together from its characters one by one, except that a capital
sigma looks at its surroundings: whether it ends a word. So a word inside a text need not have the
form that it has alone. It can differ at *open* sigmas only (`OpenSigma`): one in front of which the
word shows nothing but characters that are skipped, or one behind which it does so.

* A word without an open sigma keeps its form in every text, so where it occurs its lowercase form
  occurs in the lowercase text (`infix_lower_of_infix`).
* A word with an open sigma can be hidden by a single letter before or behind it
  (`exists_hidden_of_openSigma`).
-/

set_option autoImplicit false

namespace CredentialPolicy.Unicode

/-! ## A text between two others -/

/-- The lowercase form of a text between the characters before it, last first, and those after
it. -/
def lowerWithin : List Char → List Char → List Char → List Char
  | _, [], _ => []
  | before, c :: r, after => lowerBetween before c (r ++ after) ++ lowerWithin (c :: before) r after

/-- A text can be cut anywhere, and each part sees the other as what surrounds it. -/
theorem lowerWithin_append (before x y after : List Char) :
    lowerWithin before (x ++ y) after =
      lowerWithin before x (y ++ after) ++ lowerWithin (x.reverse ++ before) y after := by
  induction x generalizing before with
  | nil => rfl
  | cons c r ih =>
    rw [List.cons_append, lowerWithin, ih, lowerWithin, List.append_assoc, List.append_assoc,
      List.reverse_cons, List.append_assoc, List.singleton_append]

/-- Lowercasing from the start on is lowercasing with nothing behind. -/
theorem lowerFrom_eq_lowerWithin (before text : List Char) :
    lowerFrom before text = lowerWithin before text [] := by
  induction text generalizing before with
  | nil => rfl
  | cons c r ih => rw [lowerFrom, lowerWithin, List.append_nil, ih]

/-- A whole text has nothing around it. -/
theorem lower_eq_lowerWithin (text : List Char) : lower text = lowerWithin [] text [] :=
  lowerFrom_eq_lowerWithin [] text

/-- The two small sigmas are equally long, so a character's form is as long everywhere. -/
theorem length_lowerBetween (before after before' after' : List Char) (c : Char) :
    (lowerBetween before c after).length = (lowerBetween before' c after').length := by
  unfold lowerBetween
  split
  · split <;> split <;> rfl
  · rfl

/-- How long the lowercase form of a text is does not depend on what surrounds it. -/
theorem length_lowerWithin (before after before' after' text : List Char) :
    (lowerWithin before text after).length = (lowerWithin before' text after').length := by
  induction text generalizing before before' with
  | nil => rfl
  | cons c r ih =>
    rw [lowerWithin, lowerWithin, List.length_append, List.length_append,
      length_lowerBetween before (r ++ after) before' (r ++ after'), ih]

/-- No character is lost. -/
theorem lowerBetween_ne_nil (before after : List Char) (c : Char) :
    lowerBetween before c after ≠ [] := by
  unfold lowerBetween
  split
  · split <;> exact List.cons_ne_nil _ _
  · split <;> exact List.cons_ne_nil _ _

/-- Only the empty text has an empty lowercase form. -/
theorem lower_eq_nil_iff {text : List Char} : lower text = [] ↔ text = [] := by
  cases text with
  | nil => exact ⟨fun _ => rfl, fun _ => rfl⟩
  | cons c r =>
    rw [lower, lowerFrom, List.append_eq_nil_iff]
    exact ⟨fun h => absurd h.1 (lowerBetween_ne_nil _ _ _),
      fun h => absurd h (List.cons_ne_nil _ _)⟩

/-! ## The end of a word -/

/-- Whether a capital sigma between the two texts, the first one last character first, ends a
word. -/
def endsWord (before after : List Char) : Bool := startsCased before && ! startsCased after

/-- A capital sigma becomes the final small one where it ends a word. -/
theorem lowerBetween_sigma (before after : List Char) :
    lowerBetween before 'Σ' after = if endsWord before after then ['ς'] else ['σ'] := by
  rw [lowerBetween, if_pos rfl]
  rfl

/-- No other character looks at its surroundings. -/
theorem lowerBetween_of_ne {c : Char} (h : c ≠ 'Σ') (before after before' after' : List Char) :
    lowerBetween before c after = lowerBetween before' c after' := by
  rw [lowerBetween, lowerBetween, if_neg h, if_neg h]

/-- Characters that are skipped do not keep from seeing what follows them. -/
theorem startsCased_append_of_all {x : List Char} (h : ∀ c ∈ x, isCaseIgnorable c = true)
    (y : List Char) : startsCased (x ++ y) = startsCased y := by
  rw [startsCased, List.dropWhile_append_of_pos h]
  rfl

/-- What is not skipped is seen, so nothing behind it is. -/
theorem startsCased_append_of_not_all {x : List Char} (h : ¬ ∀ c ∈ x, isCaseIgnorable c = true)
    (y : List Char) : startsCased (x ++ y) = startsCased x := by
  have hne : x.dropWhile isCaseIgnorable ≠ [] := by
    intro hnil
    exact h (List.dropWhile_eq_nil_iff.1 hnil)
  obtain ⟨c, r, hc⟩ := List.exists_cons_of_ne_nil hne
  rw [startsCased, startsCased, List.dropWhile_append, hc]
  rfl

/-- Where all is skipped, nothing is seen. -/
theorem startsCased_of_all {x : List Char} (h : ∀ c ∈ x, isCaseIgnorable c = true) :
    startsCased x = false := by
  rw [← List.append_nil x, startsCased_append_of_all h]
  rfl

/-! ## Open sigmas -/

/-- A word has a capital sigma whose lowercase form it does not settle: the word shows nothing
before it (and no cased character right behind it), or it shows a cased character before it and
nothing behind it. Characters that are skipped count for nothing. -/
def OpenSigma (w : List Char) : Prop :=
  ∃ u v, w = u ++ 'Σ' :: v ∧
    ((∀ c ∈ u, isCaseIgnorable c = true) ∧ startsCased v = false ∨
      startsCased u.reverse = true ∧ ∀ c ∈ v, isCaseIgnorable c = true)

/-- A sigma that is not open has the same form in every text. -/
theorem endsWord_of_not_openSigma {w u v : List Char} (hw : ¬ OpenSigma w)
    (h : w = u ++ 'Σ' :: v) (before after : List Char) :
    endsWord (u.reverse ++ before) (v ++ after) = endsWord u.reverse v := by
  have hclosed : ¬ ((∀ c ∈ u, isCaseIgnorable c = true) ∧ startsCased v = false ∨
      startsCased u.reverse = true ∧ ∀ c ∈ v, isCaseIgnorable c = true) :=
    fun hopen => hw ⟨u, v, h, hopen⟩
  unfold endsWord
  by_cases hu : ∀ c ∈ u, isCaseIgnorable c = true
  · -- Nothing before it: then a cased character follows, and it is not final anywhere.
    have hv : startsCased v = true := by
      cases hcase : startsCased v with
      | true => rfl
      | false => exact absurd (Or.inl ⟨hu, hcase⟩) hclosed
    have hvall : ¬ ∀ c ∈ v, isCaseIgnorable c = true := by
      intro hall
      rw [startsCased_of_all hall] at hv
      exact Bool.false_ne_true hv
    rw [startsCased_append_of_not_all hvall, hv, Bool.not_true, Bool.and_false, Bool.and_false]
  · -- Something before it: whether that is cased is the same in every text.
    have hurev : ¬ ∀ c ∈ u.reverse, isCaseIgnorable c = true := by
      intro hall
      exact hu fun c hc => hall c (List.mem_reverse.2 hc)
    rw [startsCased_append_of_not_all hurev]
    by_cases hcased : startsCased u.reverse = true
    · -- A cased character before it: then something follows, and it decides in every text.
      have hv : ¬ ∀ c ∈ v, isCaseIgnorable c = true := fun hall => hclosed (Or.inr ⟨hcased, hall⟩)
      rw [startsCased_append_of_not_all hv]
    · rw [Bool.eq_false_iff.2 hcased, Bool.false_and, Bool.false_and]

/-- Surroundings that leave every sigma as it is leave the lowercase form as it is. The induction
runs along the text, so what was read of it has moved in front. -/
theorem lowerWithin_congr {before after : List Char} (read text : List Char)
    (h : ∀ u v, text = u ++ 'Σ' :: v →
      endsWord (u.reverse ++ (read ++ before)) (v ++ after) = endsWord (u.reverse ++ read) v) :
    lowerWithin (read ++ before) text after = lowerWithin read text [] := by
  induction text generalizing read with
  | nil => rfl
  | cons c r ih =>
    have hrest : lowerWithin (c :: read ++ before) r after = lowerWithin (c :: read) r [] := by
      refine ih (c :: read) fun u v hr => ?_
      have := h (c :: u) v (by rw [hr, List.cons_append])
      rw [List.reverse_cons, List.append_assoc, List.append_assoc, List.singleton_append,
        List.singleton_append] at this
      exact this
    -- Only a sigma looks at what surrounds it, and by assumption this one sees the same.
    have hfirst : lowerBetween (read ++ before) c (r ++ after) = lowerBetween read c r := by
      by_cases hc : c = 'Σ'
      · subst hc
        rw [lowerBetween_sigma, lowerBetween_sigma]
        congr 2
        exact h [] r rfl
      · exact lowerBetween_of_ne hc _ _ _ _
    rw [lowerWithin, lowerWithin, hfirst, List.append_nil]
    rw [List.cons_append] at hrest
    rw [hrest]

/-- **Closed words are seen.** Where a word without an open sigma occurs, its lowercase form occurs
in the lowercase text. -/
theorem infix_lower_of_infix {w text : List Char} (hw : ¬ OpenSigma w) (h : w <:+: text) :
    lower w <:+: lower text := by
  obtain ⟨x, y, rfl⟩ := h
  have hform : lowerWithin x.reverse w y = lower w := by
    rw [lower_eq_lowerWithin]
    refine lowerWithin_congr [] w fun u v huv => ?_
    rw [List.nil_append, List.append_nil]
    exact endsWord_of_not_openSigma hw huv _ _
  rw [lower_eq_lowerWithin (x ++ w ++ y), List.append_assoc, lowerWithin_append,
    lowerWithin_append, List.append_nil x.reverse, List.append_nil y, hform, ← List.append_assoc]
  exact ⟨_, _, rfl⟩

/-! ## Hidden words -/

/-- The lowercase forms of a word in two surroundings differ if they differ at one sigma. -/
theorem lowerWithin_ne {u v before after before' after' : List Char}
    (h : endsWord (u.reverse ++ before) (v ++ after) ≠
      endsWord (u.reverse ++ before') (v ++ after')) :
    lowerWithin before (u ++ 'Σ' :: v) after ≠ lowerWithin before' (u ++ 'Σ' :: v) after' := by
  intro heq
  rw [lowerWithin_append, lowerWithin_append, lowerWithin, lowerWithin] at heq
  have hcons := List.append_inj heq (length_lowerWithin _ _ _ _ _)
  have hsigma := List.append_inj hcons.2 (length_lowerBetween _ _ _ _ _)
  rw [lowerBetween_sigma, lowerBetween_sigma] at hsigma
  cases hleft : endsWord (u.reverse ++ before) (v ++ after) <;>
    cases hright : endsWord (u.reverse ++ before') (v ++ after') <;> simp_all

/-- The two letters that serve to hide a word: one of them is not at the edge in question. -/
theorem exists_letter_ne (d : Option Char) :
    ∃ c : Char, (c = 'a' ∨ c = 'b') ∧ some c ≠ d := by
  by_cases h : some 'a' = d
  · exact ⟨'b', Or.inr rfl, by rw [← h]; decide⟩
  · exact ⟨'a', Or.inl rfl, h⟩

/-- The two letters are small already. -/
theorem lowerBetween_letter {c : Char} (hc : c = 'a' ∨ c = 'b') (before after : List Char) :
    lowerBetween before c after = [c] := by
  obtain ⟨hsigma, hdot, hlower⟩ : c ≠ 'Σ' ∧ c ≠ 'İ' ∧ lowerChar c = c := by
    rcases hc with rfl | rfl <;> decide
  rw [lowerBetween, if_neg hsigma, if_neg hdot, hlower]

/-- They are cased, so a sigma sees them next to it. -/
theorem startsCased_letter {c : Char} (hc : c = 'a' ∨ c = 'b') (after : List Char) :
    startsCased (c :: after) = true := by
  obtain ⟨hskip, hcased⟩ : isCaseIgnorable c = false ∧ isCased c = true := by
    rcases hc with rfl | rfl <;> decide +kernel
  rw [startsCased, List.dropWhile_cons_of_neg (by rw [hskip]; exact Bool.false_ne_true)]
  exact hcased

/-- **Open words can be hidden.** A letter before or behind a word with an open sigma changes the
word's lowercase form, and can be chosen such that the form does not occur elsewhere either. -/
theorem exists_hidden_of_openSigma {w : List Char} (h : OpenSigma w) :
    ∃ c : Char, (c = 'a' ∨ c = 'b') ∧
      (¬ lower w <:+: lower (c :: w) ∨ ¬ lower w <:+: lower (w ++ [c])) := by
  -- The form of the word is not empty, so `c` has a first and a last character to differ from.
  have hform : ∀ u v, lower (u ++ 'Σ' :: v) ≠ [] := by
    intro u v
    rw [Ne, lower_eq_nil_iff]
    simp
  obtain ⟨u, v, rfl, ⟨hu, hv⟩ | ⟨hu, hv⟩⟩ := h
  · -- Nothing is seen before the sigma, so alone it is not final; a letter in front makes it final.
    obtain ⟨c, hc, hne⟩ := exists_letter_ne (lower (u ++ 'Σ' :: v)).head?
    refine ⟨c, hc, Or.inl fun hinfix => ?_⟩
    have hchanged : lowerWithin [] (u ++ 'Σ' :: v) [] ≠ lowerWithin [c] (u ++ 'Σ' :: v) [] := by
      apply lowerWithin_ne
      have hurev : ∀ d ∈ u.reverse, isCaseIgnorable d = true :=
        fun d hd => hu d (List.mem_reverse.1 hd)
      rw [List.append_nil, List.append_nil, endsWord, endsWord, startsCased_append_of_all hurev,
        startsCased_of_all hurev, startsCased_letter hc, hv]
      decide
    have hlower : lower (c :: (u ++ 'Σ' :: v)) = c :: lowerWithin [c] (u ++ 'Σ' :: v) [] := by
      rw [lower_eq_lowerWithin, lowerWithin, lowerBetween_letter hc, List.singleton_append]
    rw [hlower, List.infix_cons_iff] at hinfix
    -- Either the form starts with `c`, or it is all of the rest, where the sigma is not final.
    rcases hinfix with hstart | hinside
    · obtain ⟨d, r, hdr⟩ := List.exists_cons_of_ne_nil (hform u v)
      rw [hdr] at hstart hne
      exact hne (congrArg some (List.cons_prefix_cons.1 hstart).1.symm)
    · rw [lower_eq_lowerWithin] at hinside
      exact hchanged (hinside.eq_of_length (length_lowerWithin _ _ _ _ _))
  · -- Alone the sigma is final, since something cased is before it; a letter behind makes it not
    -- so.
    obtain ⟨c, hc, hne⟩ := exists_letter_ne (lower (u ++ 'Σ' :: v)).getLast?
    refine ⟨c, hc, Or.inr fun hinfix => ?_⟩
    have hchanged : lowerWithin [] (u ++ 'Σ' :: v) [] ≠ lowerWithin [] (u ++ 'Σ' :: v) [c] := by
      apply lowerWithin_ne
      rw [List.append_nil, List.append_nil, endsWord, endsWord, startsCased_append_of_all hv,
        startsCased_of_all hv, startsCased_letter hc, hu]
      decide
    have hlower : lower (u ++ 'Σ' :: v ++ [c]) = lowerWithin [] (u ++ 'Σ' :: v) [c] ++ [c] := by
      rw [lower_eq_lowerWithin, lowerWithin_append, lowerWithin, lowerBetween_letter hc]
      rfl
    rw [hlower, List.infix_concat_iff] at hinfix
    rcases hinfix with hend | hinside
    · obtain ⟨t, ht⟩ := hend
      have hlast := congrArg List.getLast? ht
      rw [List.getLast?_append_of_ne_nil _ (hform u v), List.getLast?_append_of_ne_nil _ (by simp)]
        at hlast
      exact hne hlast.symm
    · rw [lower_eq_lowerWithin] at hinside
      exact hchanged (hinside.eq_of_length (length_lowerWithin _ _ _ _ _))

end CredentialPolicy.Unicode
