import CredentialPolicy.Proofs.Random.Range
import Mathlib.Algebra.Order.Floor.Div
import Mathlib.Data.Set.Card
import Mathlib.Order.Interval.Finset.Nat

/-!
How evenly a character is drawn from a pool.

Which numbers come out of a draw is settled in the module on ranges; here it is counted for how many
words each of them does. The argument has two steps. The high half of a product, with the carry of a
second one, is nothing but one division: the two draws are the digits of a number below the square
of the modulus, and what is drawn is that number scaled down to the size (`result_below`), whether
the second draw was taken or not. And scaling `N` numbers down to `n` meets each of the `n` results
`N / n` times or once more (`card_filter_scaled`).

Characters follow through their places. In a pool without repetitions each character has one place,
so it is drawn where the number of that place is. A character with two places would be drawn for
both their numbers. So the pools that are drawn from evenly are just those without repetitions
(`evenlyDrawn_iff_nodup`).
-/

set_option autoImplicit false

namespace CredentialPolicy.Random

variable {σ : Type} [WordSource σ]

/-! ## Scaling down -/

/-- Scaling down two digits to the size is scaling down the first and carrying from the second. -/
theorem scaled_eq {M size x y : Nat} (hpos : 0 < size) (hsize : size ≤ M) (hy : y < M) :
    (x * M + y) * size / (M * M) =
      x * size / M + if M ≤ x * size % M + y * size / M then 1 else 0 := by
  have hM : 0 < M := Nat.lt_of_lt_of_le hpos hsize
  have hcarry : y * size / M < M := Nat.lt_of_lt_of_le (mul_div_lt hy hpos) hsize
  have hsplit : (x * M + y) * size = M * (x * size) + y * size := by
    rw [Nat.add_mul, Nat.mul_right_comm, Nat.mul_comm M]
  rw [← Nat.div_div_eq_div_mul, hsplit, Nat.mul_add_div hM, Nat.add_div hM,
    Nat.div_eq_of_lt hcarry, Nat.mod_eq_of_lt hcarry, Nat.add_zero]

/-- The numbers below `N` that are scaled down to `k` go from `k * N / n` to `(k + 1) * N / n`, both
rounded up, the latter excluded. -/
theorem filter_scaled_eq {N n k : Nat} (hN : 0 < N) (hk : k < n) :
    ((Finset.range N).filter fun z => z * n / N = k) =
      Finset.Ico ((k * N) ⌈/⌉ n) (((k + 1) * N) ⌈/⌉ n) := by
  have hn : 0 < n := Nat.lt_of_le_of_lt (Nat.zero_le k) hk
  -- All that is scaled down to a number below `n` is below `N` itself.
  have hlast : (k + 1) * N ≤ n * N := Nat.mul_le_mul_right N hk
  ext z
  have hbelow : n * z < (k + 1) * N → z < N := fun h =>
    Nat.lt_of_mul_lt_mul_left (Nat.lt_of_lt_of_le h hlast)
  have hupper : z < ((k + 1) * N) ⌈/⌉ n ↔ n * z < (k + 1) * N := by
    rw [← Nat.not_le, ceilDiv_le_iff_le_mul hn, Nat.not_le]
  rw [Finset.mem_filter, Finset.mem_range, Finset.mem_Ico, ceilDiv_le_iff_le_mul hn, hupper,
    Nat.mul_comm z, Nat.div_eq_iff hN]
  rw [Nat.add_one_mul] at hbelow ⊢
  omega

/-- Scaling down meets every number below `n` as often as `n` goes into `N`, or once more. -/
theorem card_filter_scaled {N n k : Nat} (hN : 0 < N) (hk : k < n) :
    N / n ≤ ((Finset.range N).filter fun z => z * n / N = k).card ∧
      ((Finset.range N).filter fun z => z * n / N = k).card ≤ N / n + 1 := by
  have hn : 0 < n := Nat.lt_of_le_of_lt (Nat.zero_le k) hk
  have hsucc : (k + 1) * N + n - 1 = k * N + n - 1 + N := by
    rw [Nat.add_one_mul]
    omega
  rw [filter_scaled_eq hN hk, Nat.card_Ico, Nat.ceilDiv_eq_add_pred_div,
    Nat.ceilDiv_eq_add_pred_div, hsucc, Nat.add_div hn, Nat.add_assoc, Nat.add_sub_cancel_left]
  refine ⟨Nat.le_add_right _ _, Nat.add_le_add_left ?_ _⟩
  split <;> omega

/-! ## Draws as scaled numbers -/

/-- **What a number below the size is.** The two draws are the digits of a number, which is scaled
down to the size. Where the first draw settles it, the second is not taken. -/
theorem result_below {w : Width} {size x y : Nat} (hpos : 0 < size) (hsize : size ≤ w.modulus)
    (hx : x < w.modulus) (hy : y < w.modulus) {s t : σ}
    (h : Hands s (wordsOf w x ++ wordsOf w y) t) :
    (below w size s).1 = (x * w.modulus + y) * size / (w.modulus * w.modulus) := by
  rw [scaled_eq hpos hsize hy]
  rcases Nat.lt_or_ge (w.modulus - size) (x * size % w.modulus) with hlow | hlow
  · rw [answers_below_of_lt hx hy hlow s t h]
  · -- The second draw is not taken, and it could not carry.
    have hcarry : y * size / w.modulus < size := mul_div_lt hy hpos
    obtain ⟨u, hfirst, -⟩ := hands_append.1 h
    rw [answers_below_of_le hx hlow s u hfirst, if_neg (by omega), Nat.add_zero]

/-- Two words as one number, the first above the second. -/
def joined (v w : UInt32) : Nat := v.toNat * 2 ^ 32 + w.toNat

/-- Two words can be told from the number that they make. -/
theorem joined_injective : Function.Injective fun ws : UInt32 × UInt32 => joined ws.1 ws.2 := by
  rintro ⟨v, w⟩ ⟨v', w'⟩ h
  have hw := w.toNat_lt
  have hw' := w'.toNat_lt
  simp only [joined] at h
  rw [Prod.mk.injEq, ← UInt32.toNat_inj, ← UInt32.toNat_inj]
  omega

/-- Every number below `2 ^ 64` is that of two words, and no other is. -/
theorem exists_joined_iff {z : Nat} : (∃ v w, joined v w = z) ↔ z < 2 ^ 64 := by
  constructor
  · rintro ⟨v, w, rfl⟩
    have hv := v.toNat_lt
    have hw := w.toNat_lt
    unfold joined
    omega
  · intro hz
    have hhigh : z / 2 ^ 32 < 2 ^ 32 := Nat.div_lt_of_lt_mul hz
    refine ⟨UInt32.ofNat (z / 2 ^ 32), UInt32.ofNat z, ?_⟩
    rw [joined, UInt32.toNat_ofNat_of_lt' hhigh, UInt32.toNat_ofNat', Nat.mul_comm]
    exact Nat.div_add_mod z (2 ^ 32)

/-- Of the pairs of words, each number below the size is drawn for as many as the size goes into
`2 ^ 64`, or for one more. -/
theorem ncard_scaled {n k : Nat} (hk : k < n) :
    2 ^ 64 / n ≤ {ws : UInt32 × UInt32 | joined ws.1 ws.2 * n / 2 ^ 64 = k}.ncard ∧
      {ws : UInt32 × UInt32 | joined ws.1 ws.2 * n / 2 ^ 64 = k}.ncard ≤ 2 ^ 64 / n + 1 := by
  have himage : (fun ws : UInt32 × UInt32 => joined ws.1 ws.2) ''
      {ws | joined ws.1 ws.2 * n / 2 ^ 64 = k} =
      ↑((Finset.range (2 ^ 64)).filter fun z => z * n / 2 ^ 64 = k) := by
    ext z
    rw [Finset.mem_coe, Finset.mem_filter, Finset.mem_range, ← exists_joined_iff]
    constructor
    · rintro ⟨⟨v, w⟩, hws, rfl⟩
      exact ⟨⟨v, w, rfl⟩, hws⟩
    · rintro ⟨⟨v, w, rfl⟩, hz⟩
      exact ⟨(v, w), hz, rfl⟩
  rw [← Set.ncard_image_of_injective _ joined_injective, himage, Set.ncard_coe_finset]
  exact card_filter_scaled (by decide) hk

/-- A number from a range that starts at zero takes one word, or two. -/
theorem result_between_zero {hi : Nat} (hbound : hi + 1 < 2 ^ 32) {s t : σ} {v w : UInt32}
    (h : Hands s [v, w] t) : (between 0 hi s).1 = joined v w * (hi + 1) / 2 ^ 64 := by
  have hwidth : Width.ofUpper hi = .single := if_pos (Nat.lt_of_succ_lt hbound)
  have hmod : (hi - 0 + 1) % Width.single.modulus = hi + 1 := Nat.mod_eq_of_lt hbound
  have hwords : Hands s (wordsOf .single v.toNat ++ wordsOf .single w.toNat) t := by
    simpa only [wordsOf, UInt32.ofNat_toNat, List.cons_append, List.nil_append] using h
  have hsize : hi + 1 ≤ Width.single.modulus := Nat.le_of_lt hbound
  have hresult : (below .single (hi + 1) s).1 = joined v w * (hi + 1) / 2 ^ 64 :=
    result_below (Nat.succ_pos hi) hsize v.toNat_lt w.toNat_lt hwords
  unfold between
  rw [hwidth, hmod, if_neg (Nat.succ_ne_zero hi)]
  show 0 + (below Width.single (hi + 1) s).1 = _
  rw [Nat.zero_add, hresult]

/-! ## Characters -/

/-- The pairs of words for which a draw from the pool gives the character. -/
def pairsFor (pool : List Char) (c : Char) : Set (UInt32 × UInt32) :=
  {ws | (choose pool (CyclicWords.ofList [ws.1, ws.2])).1 = some c}

/-- No character of the pool is preferred by a draw, whatever source hands out the words. -/
structure EvenlyDrawn (pool : List Char) : Prop where
  /-- Characters drawn together are drawn one after the other, each from the whole pool. -/
  each : ∀ {σ : Type} [WordSource σ] {s : σ} {n i : Nat} {chars : List Char},
    (chooseMany pool n s).1 = some chars → i < n →
      chars[i]? = (choose pool (chooseMany pool i s).2).1
  /-- A character is drawn exactly where the number of its one place is drawn. -/
  place : ∀ {σ : Type} [WordSource σ] {s : σ} {c : Char}, c ∈ pool →
    ((choose pool s).1 = some c ↔ (between 0 (pool.length - 1) s).1 = pool.idxOf c)
  /-- Which character is drawn depends on the next two words and on nothing else. -/
  words : ∀ {σ : Type} [WordSource σ] {s t : σ} {v w : UInt32} {c : Char}, Hands s [v, w] t →
    ((choose pool s).1 = some c ↔ (v, w) ∈ pairsFor pool c)
  /-- Each character has its share of all pairs of words, but for one pair at most. -/
  share : ∀ {c : Char}, c ∈ pool → 2 ^ 64 / pool.length ≤ (pairsFor pool c).ncard ∧
    (pairsFor pool c).ncard ≤ 2 ^ 64 / pool.length + 1

section

variable {pool : List Char}

/-- Characters are drawn one by one, each from where the one before it leaves the source. -/
theorem chooseMany_succ {n : Nat} {s t : σ} {c : Char} (h : choose pool s = (some c, t)) :
    chooseMany pool (n + 1) s =
      ((chooseMany pool n t).1.map (c :: ·), (chooseMany pool n t).2) := by
  simp only [chooseMany, bind, StateT.bind, h]
  cases hrest : chooseMany pool n t with
  | mk rest u => cases rest <;> rfl

/-- What is drawn for place `i` of several characters is one draw after the first `i`. -/
theorem getElem?_chooseMany {s : σ} {n i : Nat} {chars : List Char}
    (h : (chooseMany pool n s).1 = some chars) (hi : i < n) :
    chars[i]? = (choose pool (chooseMany pool i s).2).1 := by
  -- Behind the first draw the same holds of the other places, from the state that it has left.
  induction n generalizing s i chars with
  | zero => exact absurd hi (Nat.not_lt_zero i)
  | succ n ih =>
    cases hfirst : choose pool s with
    | mk first t =>
      cases first with
      | none =>
        simp only [chooseMany, bind, StateT.bind, hfirst] at h
        cases h
      | some c =>
        rw [chooseMany_succ hfirst] at h
        obtain ⟨rest, hrest, rfl⟩ := Option.map_eq_some_iff.1 h
        cases i with
        | zero =>
          show some c = (choose pool s).1
          rw [hfirst]
        | succ i =>
          rw [chooseMany_succ hfirst]
          exact ih hrest (Nat.lt_of_succ_lt_succ hi)

/-- A character is drawn by the number of its place. -/
theorem result_choose (h : pool ≠ []) (s : σ) :
    (choose pool s).1 = pool[(between 0 (pool.length - 1) s).1]? := by
  cases pool with
  | nil => exact absurd rfl h
  | cons c rest => rfl

/-- In a list without repetitions a member stands at one place. -/
theorem getElem?_eq_some_iff_of_nodup (hnodup : pool.Nodup) {c : Char} (hc : c ∈ pool) {k : Nat} :
    pool[k]? = some c ↔ k = pool.idxOf c := by
  constructor
  · intro h
    obtain ⟨hk, rfl⟩ := List.getElem?_eq_some_iff.1 h
    exact (hnodup.idxOf_getElem k hk).symm
  · rintro rfl
    exact List.getElem?_idxOf hc

/-- Where no character stands twice, that number decides for one character and no other. -/
theorem choose_eq_some_iff (hnodup : pool.Nodup) {c : Char} (hc : c ∈ pool) {s : σ} :
    (choose pool s).1 = some c ↔ (between 0 (pool.length - 1) s).1 = pool.idxOf c := by
  rw [result_choose (List.ne_nil_of_mem hc), getElem?_eq_some_iff_of_nodup hnodup hc]

/-- The draw of a character as a scaled number. -/
theorem result_choose_of_hands (hpool : pool ≠ []) (hshort : pool.length < 2 ^ 32) {s t : σ}
    {v w : UInt32} (h : Hands s [v, w] t) :
    (choose pool s).1 = pool[joined v w * pool.length / 2 ^ 64]? := by
  have hlen : pool.length - 1 + 1 = pool.length :=
    Nat.sub_one_add_one (Nat.ne_of_gt (List.length_pos_iff.2 hpool))
  rw [result_choose hpool, result_between_zero (by rwa [hlen]) h, hlen]

/-- The pairs of words for a character are those whose number, scaled to the pool, is its place. -/
theorem pairsFor_eq (hnodup : pool.Nodup) (hshort : pool.length < 2 ^ 32) {c : Char}
    (hc : c ∈ pool) :
    pairsFor pool c = {ws | joined ws.1 ws.2 * pool.length / 2 ^ 64 = pool.idxOf c} := by
  ext ⟨v, w⟩
  obtain ⟨t, ht⟩ := exists_hands_cyclicWords [v, w]
  show (choose pool (CyclicWords.ofList [v, w])).1 = some c ↔ _
  rw [result_choose_of_hands (List.ne_nil_of_mem hc) hshort ht]
  exact getElem?_eq_some_iff_of_nodup hnodup hc

/-- A pool without repetitions is drawn from evenly. -/
theorem evenlyDrawn_of_nodup (hnodup : pool.Nodup) (hshort : pool.length < 2 ^ 32) :
    EvenlyDrawn pool where
  each := getElem?_chooseMany
  place hc := choose_eq_some_iff hnodup hc
  words {σ _ s t v w c} h := by
    show _ ↔ (choose pool (CyclicWords.ofList [v, w])).1 = some c
    obtain ⟨u, hu⟩ := exists_hands_cyclicWords [v, w]
    -- An empty pool gives nothing, whatever the words are.
    by_cases hpool : pool = []
    · subst hpool
      exact iff_of_false nofun nofun
    · rw [result_choose_of_hands hpool hshort h, result_choose_of_hands hpool hshort hu]
  share hc := by
    rw [pairsFor_eq hnodup hshort hc]
    exact ncard_scaled (List.idxOf_lt_length_iff.2 hc)

/-- Where every number is drawn for some words, a character with two places spoils the draw. -/
theorem EvenlyDrawn.nodup (h : EvenlyDrawn pool) (hbound : pool.length ≤ 2 ^ 64) :
    pool.Nodup := by
  -- The words that draw the number of a place draw the character that stands there.
  have hplace : ∀ k (hk : k < pool.length), pool.idxOf pool[k] = k := by
    intro k hk
    obtain ⟨ws, hws⟩ :=
      exists_answers_between (Nat.zero_le k) (Nat.le_sub_one_of_lt hk) (by omega)
    have hnumber : (between 0 (pool.length - 1) (CyclicWords.ofList ws)).1 = k :=
      Answers.result_cyclicWords hws
    have hdrawn : (choose pool (CyclicWords.ofList ws)).1 = some pool[k] := by
      rw [result_choose (List.ne_nil_of_mem (List.getElem_mem hk)), hnumber,
        List.getElem?_eq_getElem hk]
    rw [← (h.place (List.getElem_mem hk)).1 hdrawn, hnumber]
  refine List.pairwise_iff_getElem.2 fun i j hi hj hij heq => ?_
  have hi' := hplace i hi
  rw [heq, hplace j hj] at hi'
  omega

/-- **Even draws.** A pool is drawn from evenly exactly if no character stands in it twice. -/
theorem evenlyDrawn_iff_nodup (hshort : pool.length < 2 ^ 32) : EvenlyDrawn pool ↔ pool.Nodup :=
  ⟨fun h => h.nodup (by omega), fun h => evenlyDrawn_of_nodup h hshort⟩

end

end CredentialPolicy.Random
