import CredentialPolicy.Proofs.Random.Handout
import CredentialPolicy.Random.Range
import Mathlib.Algebra.Group.Nat.Defs

/-!
Numbers from a range: what can come out, and that all of it can.

The number below `size` is the high half of a draw times `size`, plus one if a second draw carries
into it. Two facts of arithmetic settle both directions. The carry is only asked for where the high
half is not the last number already (`carry_lt`), so no number is too large. And for each number
some draw puts the product into the first `size` places of its block (`exists_mul_div_eq`), where a
second draw of zero carries nothing, so every number comes out.

Characters of a pool follow: each is the pool's entry at a number below its length.
-/

set_option autoImplicit false

namespace CredentialPolicy.Random

variable {σ : Type} [WordSource σ]

/-! ## The arithmetic of the widening product -/

/-- The high half of a draw times the size is below the size. -/
theorem mul_div_lt {M size x : Nat} (hx : x < M) (hsize : 0 < size) : x * size / M < size := by
  apply Nat.div_lt_of_lt_mul
  exact Nat.mul_lt_mul_of_pos_right hx hsize

/-- Where the low half asks for a second draw, the high half is not the last number yet. -/
theorem carry_lt {M size x : Nat} (hx : x < M) (hsize : size ≤ M)
    (hlow : M - size < x * size % M) : x * size / M + 1 < size := by
  have hdiv : M * (x * size / M) + x * size % M = x * size := Nat.div_add_mod _ _
  have hle : (x + 1) * size ≤ M * size := Nat.mul_le_mul_right size hx
  rw [Nat.add_one_mul] at hle
  -- The next multiple of `M` is less than `size` above the product, so it is below `M * size`.
  have hlt : M * (x * size / M + 1) < M * size := by
    rw [Nat.mul_add_one]
    omega
  exact Nat.lt_of_mul_lt_mul_left hlt

/-- Each number below the size is the high half of some draw times the size, and the low half can
be had below the size. -/
theorem exists_mul_div_eq {M size k : Nat} (hk : k < size) (hsize : size ≤ M) :
    ∃ x < M, x * size / M = k ∧ x * size % M < size := by
  -- The draw is `k * M / size` rounded up: the first whose product reaches block `k`.
  have hround := Nat.div_add_mod (k * M + (size - 1)) size
  have hrest := Nat.mod_lt (k * M + (size - 1)) (by omega : 0 < size)
  generalize (k * M + (size - 1)) / size = x at hround
  generalize (k * M + (size - 1)) % size = rest at hround hrest
  rw [Nat.mul_comm] at hround
  have hlow : k * M ≤ x * size := by omega
  have hhigh : x * size < k * M + size := by omega
  have hblock : (k + 1) * M ≤ size * M := Nat.mul_le_mul_right M hk
  rw [Nat.add_one_mul] at hblock
  have hx : x < M := by
    have hlt : x * size < M * size := by
      rw [Nat.mul_comm M]
      omega
    exact Nat.lt_of_mul_lt_mul_right hlt
  have hdiv : x * size / M = k := by
    apply Nat.div_eq_of_lt_le hlow
    rw [Nat.add_one_mul]
    omega
  refine ⟨x, hx, hdiv, ?_⟩
  have := Nat.div_add_mod (x * size) M
  rw [hdiv, Nat.mul_comm] at this
  omega

/-! ## Draws -/

/-- A draw of either width has something to choose from. -/
theorem Width.modulus_pos (w : Width) : 0 < w.modulus := by cases w <;> decide

/-- A draw is below its modulus and takes a word. -/
theorem yields_draw (w : Width) :
    Yields (draw w : StateM σ Nat) fun x n => x < w.modulus ∧ 1 ≤ n := by
  cases w with
  | single =>
    refine yields_word.bind fun x n hn => Yields.pure ⟨?_, by omega⟩
    exact x.toNat_lt
  | double =>
    refine yields_word.bind fun low n hn => yields_word.bind fun high k hk =>
      Yields.pure ⟨?_, by omega⟩
    have hlow := low.toNat_lt
    have hhigh := high.toNat_lt
    show low.toNat + 2 ^ 32 * high.toNat < 2 ^ 64
    omega

/-- The words that make up a draw. -/
def wordsOf : Width → Nat → List UInt32
  | .single, x => [UInt32.ofNat x]
  | .double, x => [UInt32.ofNat x, UInt32.ofNat (x / 2 ^ 32)]

/-- Each number below the modulus is drawn by the words that make it up. -/
theorem answers_draw {w : Width} {x : Nat} (hx : x < w.modulus) :
    Answers (draw w : StateM σ Nat) (wordsOf w x) x := by
  cases w with
  | single =>
    exact (answers_word (UInt32.ofNat x)).map (UInt32.toNat_ofNat_of_lt' hx)
  | double =>
    -- The low word of `x` comes first, as the remainder by `2 ^ 32` that `ofNat` takes.
    have hhigh : x / 2 ^ 32 < 2 ^ 32 := Nat.div_lt_of_lt_mul hx
    have hval : (UInt32.ofNat x).toNat + 2 ^ 32 * (UInt32.ofNat (x / 2 ^ 32)).toNat = x := by
      rw [UInt32.toNat_ofNat_of_lt' hhigh, UInt32.toNat_ofNat']
      exact Nat.mod_add_div x (2 ^ 32)
    have hrest := answers_word (σ := σ) (UInt32.ofNat (x / 2 ^ 32))
    exact (answers_word (UInt32.ofNat x)).bind (hrest.map hval)

/-! ## Numbers -/

/-- The high half of a draw times the size is below the size, and a carry from the second draw does
not lead out of it either. -/
theorem yields_below {w : Width} {size : Nat} (hpos : 0 < size) (hsize : size ≤ w.modulus) :
    Yields (below w size : StateM σ Nat) fun k n => k < size ∧ 1 ≤ n := by
  refine (yields_draw w).bind fun x n hx => ?_
  have hlt : x * size / w.modulus < size := mul_div_lt hx.1 hpos
  dsimp only
  split
  · next hlow =>
    refine (yields_draw w).bind fun y k hy => ?_
    split
    · exact Yields.pure ⟨carry_lt hx.1 hsize hlow, by omega⟩
    · exact Yields.pure ⟨hlt, by omega⟩
  · exact Yields.pure ⟨hlt, by omega⟩

/-- Where the low half leaves room for any carry, the first draw is the only one. -/
theorem answers_below_of_le {w : Width} {size x : Nat} (hx : x < w.modulus)
    (hlow : x * size % w.modulus ≤ w.modulus - size) :
    Answers (below w size : StateM σ Nat) (wordsOf w x) (x * size / w.modulus) := by
  rw [← List.append_nil (wordsOf w x)]
  refine (answers_draw hx).bind ?_
  dsimp only
  rw [if_neg (Nat.not_lt.2 hlow)]
  exact Answers.pure _

/-- Where it does not, the second draw decides whether there is a carry. -/
theorem answers_below_of_lt {w : Width} {size x y : Nat} (hx : x < w.modulus) (hy : y < w.modulus)
    (hlow : w.modulus - size < x * size % w.modulus) :
    Answers (below w size : StateM σ Nat) (wordsOf w x ++ wordsOf w y)
      (x * size / w.modulus +
        if w.modulus ≤ x * size % w.modulus + y * size / w.modulus then 1 else 0) := by
  rw [← List.append_nil (wordsOf w y)]
  refine (answers_draw hx).bind ?_
  dsimp only
  rw [if_pos hlow]
  refine (answers_draw hy).bind ?_
  split
  · exact Answers.pure _
  · exact Answers.pure _

/-- Every number below the size comes out for some words. -/
theorem exists_answers_below {w : Width} {size k : Nat} (hk : k < size)
    (hsize : size ≤ w.modulus) :
    ∃ ws, ∀ {σ : Type} [WordSource σ], Answers (below w size : StateM σ Nat) ws k := by
  obtain ⟨x, hx, rfl, hmod⟩ := exists_mul_div_eq hk hsize
  -- Even the draw with the smallest low half may be asked to decide again, if `size` is large.
  rcases Nat.lt_or_ge (w.modulus - size) (x * size % w.modulus) with hlow | hlow
  · refine ⟨wordsOf w x ++ wordsOf w 0, fun {σ} _ => ?_⟩
    have hanswer := answers_below_of_lt (σ := σ) hx w.modulus_pos hlow
    -- A second draw of zero adds nothing to the low half.
    have hmod_lt := Nat.mod_lt (x * size) w.modulus_pos
    rwa [Nat.zero_mul, Nat.zero_div, if_neg (by omega), Nat.add_zero] at hanswer
  · exact ⟨wordsOf w x, fun {σ} _ => answers_below_of_le hx hlow⟩

/-- A number from a range lies in it. This holds of ranges of any size: one that is a multiple of
the modulus takes a plain draw, which is no larger than the range. -/
theorem yields_between {lo hi : Nat} (h : lo ≤ hi) :
    Yields (between lo hi : StateM σ Nat) fun k n => (lo ≤ k ∧ k ≤ hi) ∧ 1 ≤ n := by
  have hM := (Width.ofUpper hi).modulus_pos
  have hmod := Nat.mod_le (hi - lo + 1) (Width.ofUpper hi).modulus
  unfold between
  dsimp only
  split
  · -- The range is as large as the modulus or larger, and the draw is taken as it is.
    next hzero =>
    have hle : (Width.ofUpper hi).modulus ≤ hi - lo + 1 :=
      Nat.le_of_dvd (by omega) (Nat.dvd_of_mod_eq_zero hzero)
    exact (yields_draw _).bind fun x n hx => Yields.pure ⟨by omega, by omega⟩
  · next hzero =>
    have hlt := Nat.mod_lt (hi - lo + 1) hM
    refine (yields_below (by omega) (Nat.le_of_lt hlt)).bind fun k n hk => ?_
    exact Yields.pure ⟨by omega, by omega⟩

/-- Every number of a range comes out for some words. -/
theorem exists_answers_between {lo hi k : Nat} (hlo : lo ≤ k) (hhi : k ≤ hi)
    (hbound : hi < 2 ^ 64) :
    ∃ ws, ∀ {σ : Type} [WordSource σ], Answers (between lo hi : StateM σ Nat) ws k := by
  have hsize : hi - lo + 1 ≤ (Width.ofUpper hi).modulus := by
    unfold Width.ofUpper
    split <;> simp only [Width.modulus] <;> omega
  have hk : lo + (k - lo) = k := by omega
  by_cases hzero : (hi - lo + 1) % (Width.ofUpper hi).modulus = 0
  · -- The range is as large as the modulus, so the draw itself is the distance.
    have hfull : (Width.ofUpper hi).modulus ≤ hi - lo + 1 :=
      Nat.le_of_dvd (by omega) (Nat.dvd_of_mod_eq_zero hzero)
    refine ⟨wordsOf (Width.ofUpper hi) (k - lo), fun {σ} _ => ?_⟩
    unfold between
    dsimp only
    rw [if_pos hzero]
    exact (answers_draw (by omega)).map hk
  · have hlt : hi - lo + 1 < (Width.ofUpper hi).modulus := by
      rcases Nat.lt_or_ge (hi - lo + 1) (Width.ofUpper hi).modulus with hlt | hge
      · exact hlt
      · exact absurd (by rw [Nat.le_antisymm hsize hge]; exact Nat.mod_self _) hzero
    -- In a smaller range the distance from its start is what is drawn.
    have hdistance : k - lo < hi - lo + 1 := by omega
    obtain ⟨ws, hws⟩ := exists_answers_below hdistance (Nat.le_of_lt hlt)
    refine ⟨ws, fun {σ} _ => ?_⟩
    unfold between
    dsimp only
    rw [if_neg hzero, Nat.mod_eq_of_lt hlt]
    exact hws.map hk

/-! ## Lengths -/

/-- A length lies between its bounds, or is the lower one where they are the wrong way round. -/
theorem yields_lengthBetween (min max : Nat) :
    Yields (lengthBetween min max : StateM σ Nat) fun k _ =>
      min ≤ k ∧ (k ≤ max ∨ k = min) := by
  unfold lengthBetween
  split
  · exact Yields.pure ⟨Nat.le_refl _, Or.inr rfl⟩
  · next h =>
    exact (yields_between (by omega)).mono fun k n hk => ⟨hk.1.1, Or.inl hk.1.2⟩

/-- Every length between the bounds comes out for some words. -/
theorem exists_answers_lengthBetween {min max k : Nat} (hmin : min ≤ k) (hmax : k ≤ max)
    (hbound : max < 2 ^ 64) :
    ∃ ws, ∀ {σ : Type} [WordSource σ], Answers (lengthBetween min max : StateM σ Nat) ws k := by
  unfold lengthBetween
  split
  · next h =>
    obtain rfl : min = k := by omega
    exact ⟨[], fun {σ} _ => Answers.pure min⟩
  · exact exists_answers_between hmin hmax hbound

/-! ## Characters of a pool -/

/-- From a pool with a character one comes out. -/
theorem yields_choose {pool : List Char} (h : pool ≠ []) :
    Yields (choose pool : StateM σ (Option Char)) fun r n => (∃ c ∈ pool, r = some c) ∧ 1 ≤ n := by
  cases pool with
  | nil => exact absurd rfl h
  | cons c rest =>
    refine (yields_between (Nat.zero_le _)).bind fun k n hk => Yields.pure ⟨?_, by omega⟩
    have hlt : k < (c :: rest).length := by
      rw [List.length_cons] at hk ⊢
      omega
    exact ⟨(c :: rest)[k], List.getElem_mem hlt, List.getElem?_eq_getElem hlt⟩

/-- Every character of a pool comes out for some words. -/
theorem exists_answers_choose {pool : List Char} {c : Char} (hc : c ∈ pool)
    (hbound : pool.length ≤ 2 ^ 64) :
    ∃ ws, ∀ {σ : Type} [WordSource σ],
      Answers (choose pool : StateM σ (Option Char)) ws (some c) := by
  obtain ⟨k, hk, rfl⟩ := List.getElem_of_mem hc
  obtain ⟨ws, hws⟩ := exists_answers_between (Nat.zero_le k) (Nat.le_sub_one_of_lt hk) (by omega)
  refine ⟨ws, fun {σ} _ => ?_⟩
  cases pool with
  | nil => exact absurd hk (Nat.not_lt_zero k)
  | cons d rest => exact hws.map (List.getElem?_eq_getElem hk)

/-- As many characters come out as are asked for, all from the pool, with a word for each at least.
An empty pool will do where none is asked for. -/
theorem yields_chooseMany {pool : List Char} {n : Nat} (h : n = 0 ∨ pool ≠ []) :
    Yields (chooseMany pool n : StateM σ (Option (List Char))) fun r k =>
      (∃ chars, r = some chars ∧ chars.length = n ∧ ∀ c ∈ chars, c ∈ pool) ∧ n ≤ k := by
  induction n with
  | zero => exact Yields.pure ⟨⟨[], rfl, rfl, by simp⟩, Nat.le_refl _⟩
  | succ n ih =>
    have hpool : pool ≠ [] := h.resolve_left (Nat.succ_ne_zero n)
    refine (yields_choose hpool).bind ?_
    rintro _ i ⟨⟨c, hc, rfl⟩, hi⟩
    refine (ih (Or.inr hpool)).bind ?_
    rintro _ j ⟨⟨chars, rfl, hlen, hmem⟩, hj⟩
    refine Yields.pure ⟨⟨c :: chars, rfl, ?_, ?_⟩, by omega⟩
    · rw [List.length_cons, hlen]
    · exact List.forall_mem_cons.2 ⟨hc, hmem⟩

/-- Any characters of a pool, in any order and number, come out for some words. -/
theorem exists_answers_chooseMany {pool chars : List Char} (hmem : ∀ c ∈ chars, c ∈ pool)
    (hbound : pool.length ≤ 2 ^ 64) :
    ∃ ws, ∀ {σ : Type} [WordSource σ],
      Answers (chooseMany pool chars.length : StateM σ (Option (List Char))) ws (some chars) := by
  induction chars with
  | nil => exact ⟨[], fun {σ} _ => Answers.pure (some [])⟩
  | cons c chars ih =>
    obtain ⟨hc, hrest⟩ := List.forall_mem_cons.1 hmem
    obtain ⟨vs, hvs⟩ := exists_answers_choose hc hbound
    obtain ⟨ws, hws⟩ := ih hrest
    exact ⟨vs ++ (ws ++ []), fun {σ} _ => hvs.bind (hws.bind (Answers.pure (some (c :: chars))))⟩

/-! ## Every outcome -/

/-- Where the bounds leave no choice nothing is drawn. -/
theorem lengthBetween_of_le {min max : Nat} (h : max ≤ min) (s : σ) :
    lengthBetween min max s = (min, s) := by
  unfold lengthBetween
  rw [if_pos h]
  rfl

/-- At any state a length lies between bounds that are in order. -/
theorem lengthBetween_mem {min max : Nat} (h : min ≤ max) (s : σ) :
    min ≤ (lengthBetween min max s).1 ∧ (lengthBetween min max s).1 ≤ max := by
  obtain ⟨hmin, hmax⟩ := (yields_lengthBetween min max).result s
  omega

/-- The two outcomes of choosing characters: none where some are asked for and there is none to
choose, and as many as are asked for, all of them from the pool, in every other case. -/
theorem chooseMany_cases (pool : List Char) (n : Nat) (s : σ) :
    (0 < n ∧ pool = []) ∧ (chooseMany pool n s).1 = none ∨
      ¬ (0 < n ∧ pool = []) ∧ ∃ chars, (chooseMany pool n s).1 = some chars ∧
        chars.length = n ∧ ∀ c ∈ chars, c ∈ pool := by
  by_cases hnone : 0 < n ∧ pool = []
  · left
    refine ⟨hnone, ?_⟩
    obtain ⟨m, rfl⟩ : ∃ m, n = m + 1 := ⟨n - 1, by omega⟩
    rw [hnone.2]
    rfl
  · right
    refine ⟨hnone, ?_⟩
    have hpool : n = 0 ∨ pool ≠ [] :=
      n.eq_zero_or_pos.imp_right fun hpos hnil => hnone ⟨hpos, hnil⟩
    exact ((yields_chooseMany hpool).mono fun _ _ hr => hr.1).result s

/-- **Sampling stays in its range and covers it.** A length between two bounds is the lower one,
without any draw, if the upper one is not above it, and from one to the other otherwise, whatever
source hands out the words. Each of these lengths comes out for some words: with bounds below
`2 ^ 32`, where a draw is one word, with larger ones, where it is two, and also where the range is
so large that its size is zero in the width of the draw. Characters chosen from a pool are as many
as were asked for and all of the pool; only of an empty one none can be chosen. -/
theorem sampling_range :
    (∀ min max : Nat, max ≤ min → ∀ {σ : Type} [WordSource σ] (s : σ),
        lengthBetween min max s = (min, s)) ∧
      (∀ min max : Nat, min < max → ∀ {σ : Type} [WordSource σ] (s : σ),
        min ≤ (lengthBetween min max s).1 ∧ (lengthBetween min max s).1 ≤ max) ∧
      (∀ min max k : Nat, min ≤ k → k ≤ max → max < 2 ^ 64 → ∃ ws : List UInt32,
        (∀ {σ : Type} [WordSource σ] (s t : σ), Hands s ws t →
          lengthBetween min max s = (k, t)) ∧
        (lengthBetween min max (CyclicWords.ofList ws)).1 = k) ∧
      ∀ (pool : List Char) (n : Nat) {σ : Type} [WordSource σ] (s : σ),
        ((chooseMany pool n s).1 = none ↔ 0 < n ∧ pool = []) ∧
          ∀ chars ∈ (chooseMany pool n s).1, chars.length = n ∧ ∀ c ∈ chars, c ∈ pool := by
  refine ⟨fun min max h σ _ s => lengthBetween_of_le h s,
    fun min max h σ _ s => lengthBetween_mem (Nat.le_of_lt h) s, ?_, ?_⟩
  · intro min max k hmin hmax hbound
    obtain ⟨ws, hws⟩ := exists_answers_lengthBetween hmin hmax hbound
    exact ⟨ws, fun s t => hws s t, Answers.result_cyclicWords hws⟩
  · intro pool n σ _ s
    obtain ⟨hempty, hnone⟩ | ⟨hpool, chars, hchars, hresult⟩ := chooseMany_cases pool n s
    · rw [hnone]
      exact ⟨iff_of_true rfl hempty, nofun⟩
    · rw [hchars]
      refine ⟨iff_of_false nofun hpool, ?_⟩
      rintro _ ⟨⟩
      exact hresult

/-- A range of two lengths on both sides of `2 ^ 32`, the largest range of all, and a pool from
which more characters are chosen than it has. -/
theorem sampling_range_extremes :
    lengthBetween 9 4 (CyclicWords.ofList [7]) = (9, CyclicWords.ofList [7]) ∧
      2 ^ 32 - 1 ≤ (lengthBetween (2 ^ 32 - 1) (2 ^ 32) (CyclicWords.ofList [7])).1 ∧
      (∃ ws : List UInt32,
        (lengthBetween (2 ^ 32 - 1) (2 ^ 32) (CyclicWords.ofList ws)).1 = 2 ^ 32) ∧
      (∃ ws : List UInt32,
        (lengthBetween 0 (2 ^ 64 - 1) (CyclicWords.ofList ws)).1 = 2 ^ 64 - 1) ∧
      (chooseMany ['x', 'é'] 3 (CyclicWords.ofList [0, 4294967295])).1 = some ['x', 'é', 'x'] ∧
      ∀ c ∈ ['x', 'é', 'x'], c ∈ ['x', 'é'] := by
  obtain ⟨hleast, hrange, hall, hchosen⟩ := sampling_range
  have hchars : (chooseMany ['x', 'é'] 3 (CyclicWords.ofList [0, 4294967295])).1 =
      some ['x', 'é', 'x'] := by decide
  obtain ⟨ws, -, hws⟩ := hall (2 ^ 32 - 1) (2 ^ 32) (2 ^ 32) (by decide) (by decide) (by decide)
  obtain ⟨vs, -, hvs⟩ := hall 0 (2 ^ 64 - 1) (2 ^ 64 - 1) (by decide) (by decide) (by decide)
  exact ⟨hleast 9 4 (by decide) _, (hrange _ _ (by decide) _).1, ⟨ws, hws⟩, ⟨vs, hvs⟩, hchars,
    ((hchosen _ 3 _).2 _ hchars).2⟩

end CredentialPolicy.Random
