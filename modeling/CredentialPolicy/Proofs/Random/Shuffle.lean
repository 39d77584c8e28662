import CredentialPolicy.Proofs.Random.Range
import CredentialPolicy.Random.Shuffle
import Mathlib.Data.Nat.Factorial.Basic

/-!
The shuffle gives permutations only, and all of them.

The places handed out are the digits of chunks in a mixed radix: place `i` has radix `i + 1`. Three
layers carry the argument.

* A chunk with `k` digits to give at places from `n` on is below `(n + 1) ⋯ (n + k)`
  (`IndexChunk.Fits`). Giving a digit keeps this, and it makes the digit at most its place.
* Conversely, `chunkOf` writes given places into one number, and a chunk that holds them gives them
  out again (`IndexChunk.Pending`). A list that ends within a chunk is continued by zeros, which is
  why the last chunk needs no case of its own.
* Swapping each place with a place not behind it reaches every arrangement (`exists_swaps`): the
  last swap is undone first, by the place at which its character has to arrive.

The first two are about the draws of a shuffle alone and the third about its swaps alone. That a
shuffle takes all of its places from the chunks and then does nothing but swap (`shuffle_eq_swaps`)
puts them together.
-/

set_option autoImplicit false

namespace CredentialPolicy.Random

variable {σ : Type} [WordSource σ]

/-! ## Bounds of chunks -/

/-- A rising product, its first factor split off. -/
theorem ascFactorial_succ_left (m k : Nat) :
    m.ascFactorial (k + 1) = m * (m + 1).ascFactorial k := by
  rw [Nat.ascFactorial_succ]
  exact (Nat.succ_ascFactorial m k).symm

/-- The bound is the rising product of as many factors as are counted, and it still fits. -/
theorem extendBound_spec {m product factor count : Nat} (hproduct : product = m.ascFactorial count)
    (hfactor : factor = m + count) (hcount : 0 < count) :
    (extendBound product factor count).1 = m.ascFactorial (extendBound product factor count).2 ∧
      0 < (extendBound product factor count).2 ∧
      (product < 2 ^ 32 → (extendBound product factor count).1 < 2 ^ 32) := by
  induction product, factor, count using extendBound.induct with
  | case1 product factor count h ih =>
    -- One more factor, and the bound on the product is what the test just made sure of.
    rw [extendBound, if_pos h]
    obtain ⟨heq, hpos, hlt⟩ := ih
      (by rw [Nat.ascFactorial_succ, hproduct, hfactor, Nat.mul_comm]) (by omega) (by omega)
    exact ⟨heq, hpos, fun _ => hlt h.2.2⟩
  | case2 product factor count h =>
    rw [extendBound, if_neg h]
    exact ⟨hproduct, hcount, fun hlt => hlt⟩

/-- A chunk has one digit at least, and its bound fits into 32 bits if its first radix does. -/
theorem chunkBound_spec (m : Nat) :
    (chunkBound m).1 = m.ascFactorial (chunkBound m).2 ∧ 0 < (chunkBound m).2 ∧
      (m < 2 ^ 32 → (chunkBound m).1 < 2 ^ 32) := by
  apply extendBound_spec _ rfl Nat.one_pos
  rw [Nat.ascFactorial_succ, Nat.ascFactorial_zero]
  omega

/-! ## Places handed out -/

namespace IndexChunk

/-- What is left of the chunk is below the product of the radices of its digits. -/
def Fits (c : IndexChunk) : Prop := c.digits = 0 ∨ c.chunk < (c.places + 1).ascFactorial c.digits

/-- The chunk at the start has the one digit whose radix is one. -/
theorem fits_start : ({} : IndexChunk).Fits := Or.inr (by decide)

/-- A chunk that fits gives a place that is not behind the next one, and what is left fits. -/
theorem peel_fits {c : IndexChunk} (hfits : c.Fits) (hdigits : 0 < c.digits) :
    c.peel.1 ≤ c.places ∧ c.peel.2.places = c.places + 1 ∧ c.peel.2.Fits := by
  have hlt : c.chunk < (c.places + 1).ascFactorial c.digits := hfits.resolve_left (by omega)
  unfold peel
  dsimp only
  split
  · next h =>
    -- The last digit is the rest of the chunk, which is below its radix alone.
    obtain hone : c.digits = 1 := by omega
    rw [hone, Nat.ascFactorial_succ, Nat.ascFactorial_zero] at hlt
    exact ⟨by dsimp only; omega, rfl, Or.inl rfl⟩
  · next h =>
    obtain ⟨d, hd⟩ : ∃ d, c.digits = d + 1 := ⟨c.digits - 1, by omega⟩
    rw [hd, ascFactorial_succ_left] at hlt
    refine ⟨?_, rfl, Or.inr ?_⟩
    · exact Nat.le_of_lt_succ (Nat.mod_lt _ (Nat.succ_pos _))
    · rw [hd]
      exact Nat.div_lt_of_lt_mul hlt

/-- A chunk is drawn below its bound, so a fresh one fits, and so does one that has not been used
up. -/
theorem yields_refill {c : IndexChunk} (hfits : c.Fits) :
    Yields (c.refill : StateM σ IndexChunk) fun d _ =>
      d.Fits ∧ 0 < d.digits ∧ d.places = c.places := by
  obtain ⟨hbound, hcount, -⟩ := chunkBound_spec (c.places + 1)
  unfold refill
  split
  · next h => exact Yields.pure ⟨hfits, h, rfl⟩
  · dsimp only
    refine (yields_between (Nat.zero_le _)).bind fun k n hk => Yields.pure ⟨Or.inr ?_, hcount, rfl⟩
    have hpos := Nat.ascFactorial_pos c.places (chunkBound (c.places + 1)).2
    show k < (c.places + 1).ascFactorial (chunkBound (c.places + 1)).2
    rw [← hbound] at hpos ⊢
    omega

/-- The next place comes out of a chunk that fits, so it is not behind the one with which it is
swapped. -/
theorem yields_next {c : IndexChunk} (hfits : c.Fits) :
    Yields (c.next : StateM σ (Nat × IndexChunk)) fun r _ =>
      r.1 ≤ c.places ∧ r.2.places = c.places + 1 ∧ r.2.Fits := by
  refine (yields_refill hfits).bind fun d n hd => Yields.pure ?_
  obtain ⟨hd, hdigits, hplaces⟩ := hd
  rw [← hplaces]
  exact peel_fits hd hdigits

/-- The places that a chunk and those after it hand out next, `n` of them. -/
def handOut (c : IndexChunk) : Nat → StateM σ (List Nat)
  | 0 => pure []
  | n + 1 => do
    let (j, c) ← c.next
    return j :: (← c.handOut n)

/-- No place that is handed out stands behind the one with which it is swapped. -/
theorem yields_handOut {c : IndexChunk} (hfits : c.Fits) (n : Nat) :
    Yields (c.handOut n : StateM σ (List Nat)) fun js _ =>
      js.length = n ∧ ∀ i j, js[i]? = some j → j ≤ c.places + i := by
  induction n generalizing c with
  | zero => exact Yields.pure ⟨rfl, nofun⟩
  | succ n ih =>
    refine (yields_next hfits).bind ?_
    rintro ⟨j, d⟩ _ ⟨hj, hplaces, hd⟩
    refine (ih hd).bind fun js _ hjs => Yields.pure ⟨?_, ?_⟩
    · rw [List.length_cons, hjs.1]
    · intro i k hk
      cases i with
      | zero =>
        obtain rfl : j = k := Option.some.inj hk
        exact hj
      | succ i =>
        have hle := hjs.2 i k hk
        rw [hplaces] at hle
        omega

end IndexChunk

/-! ## Places written into a chunk -/

/-- The places can be given out in order from radix `m` on. -/
def Below : Nat → List Nat → Prop
  | _, [] => True
  | m, j :: js => j < m ∧ Below (m + 1) js

/-- The number whose digits, from radix `m` on, are the places of a list. -/
def chunkOf : Nat → List Nat → Nat
  | _, [] => 0
  | m, j :: js => j + m * chunkOf (m + 1) js

/-- A chunk of some digits that holds the first places of a list is below its bound. -/
theorem chunkOf_take_lt {m : Nat} {js : List Nat} (hm : 0 < m) (hjs : Below m js) (k : Nat) :
    chunkOf m (js.take k) < m.ascFactorial k := by
  induction js generalizing m k with
  | nil =>
    obtain ⟨n, rfl⟩ : ∃ n, m = n + 1 := ⟨m - 1, by omega⟩
    rw [List.take_nil]
    exact Nat.ascFactorial_pos n k
  | cons j js ih =>
    cases k with
    | zero => exact Nat.one_pos
    | succ k =>
      have hrest := ih (Nat.succ_pos m) hjs.2 k
      have hle : m * (chunkOf (m + 1) (js.take k) + 1) ≤ m * (m + 1).ascFactorial k :=
        Nat.mul_le_mul_left m hrest
      rw [Nat.mul_add_one] at hle
      have hj : j < m := hjs.1
      rw [List.take_succ_cons, chunkOf, ascFactorial_succ_left]
      omega

namespace IndexChunk

/-- What is left of the chunk holds the next places of the list. -/
def Pending (c : IndexChunk) (js : List Nat) : Prop :=
  c.digits = 0 ∨ c.chunk = chunkOf (c.places + 1) (js.take c.digits)

/-- The first place can only be the first one, which the chunk at the start gives. -/
theorem pending_start {js : List Nat} (hjs : Below 1 js) : ({} : IndexChunk).Pending js := by
  right
  cases js with
  | nil => rfl
  | cons j js =>
    obtain rfl : j = 0 := Nat.lt_one_iff.1 hjs.1
    rfl

/-- A chunk that holds the next places gives the first of them and then holds the others. -/
theorem peel_pending {c : IndexChunk} {j : Nat} {js : List Nat} (hj : j ≤ c.places)
    (hpending : c.Pending (j :: js)) (hdigits : 0 < c.digits) :
    c.peel.1 = j ∧ c.peel.2.places = c.places + 1 ∧ c.peel.2.Pending js := by
  obtain ⟨d, hd⟩ : ∃ d, c.digits = d + 1 := ⟨c.digits - 1, by omega⟩
  have hchunk := hpending.resolve_left (by omega)
  rw [hd, List.take_succ_cons, chunkOf] at hchunk
  unfold peel
  dsimp only
  split
  · next h =>
    obtain rfl : d = 0 := by omega
    refine ⟨?_, rfl, Or.inl rfl⟩
    rw [hchunk, List.take_zero, chunkOf, Nat.mul_zero, Nat.add_zero]
  · refine ⟨?_, rfl, Or.inr ?_⟩
    · dsimp only
      rw [hchunk, Nat.add_mul_mod_self_left, Nat.mod_eq_of_lt (Nat.lt_succ_of_le hj)]
    · dsimp only
      rw [hchunk, hd, Nat.add_mul_div_left _ _ (Nat.succ_pos _),
        Nat.div_eq_of_lt (Nat.lt_succ_of_le hj), Nat.zero_add, Nat.add_sub_cancel]

/-- For some words there is a chunk that holds the next places: the one at hand if it has places
left, or else a fresh one. -/
theorem exists_answers_refill {c : IndexChunk} {js : List Nat} (hpending : c.Pending js)
    (hjs : Below (c.places + 1) js) (hbound : c.places + 1 < 2 ^ 32) :
    ∃ ws d, d.Pending js ∧ 0 < d.digits ∧ d.places = c.places ∧
      ∀ {σ : Type} [WordSource σ], Answers (c.refill : StateM σ IndexChunk) ws d := by
  obtain ⟨hproduct, hcount, hfit⟩ := chunkBound_spec (c.places + 1)
  by_cases hdigits : 0 < c.digits
  · -- What is left of the chunk was settled when it was drawn, so no word is needed for it.
    refine ⟨[], c, hpending, hdigits, rfl, fun {σ} _ => ?_⟩
    unfold refill
    rw [if_pos hdigits]
    exact Answers.pure c
  · -- A fresh chunk: any number below its bound can be drawn, also the one that holds the places.
    have hlt := chunkOf_take_lt (Nat.succ_pos _) hjs (chunkBound (c.places + 1)).2
    rw [← hproduct] at hlt
    have hfit := hfit hbound
    obtain ⟨ws, hws⟩ := exists_answers_between (Nat.zero_le _) (Nat.le_sub_one_of_lt hlt) (by omega)
    refine ⟨ws, ⟨c.places, chunkOf (c.places + 1) (js.take _), (chunkBound (c.places + 1)).2⟩,
      Or.inr rfl, hcount, rfl, fun {σ} _ => ?_⟩
    unfold refill
    rw [if_neg hdigits]
    exact hws.map rfl

/-- For some words the next place is the first of the list, and the others are still held. -/
theorem exists_answers_next {c : IndexChunk} {j : Nat} {js : List Nat}
    (hpending : c.Pending (j :: js)) (hjs : Below (c.places + 1) (j :: js))
    (hbound : c.places + 1 < 2 ^ 32) :
    ∃ ws d, d.Pending js ∧ d.places = c.places + 1 ∧
      ∀ {σ : Type} [WordSource σ], Answers (c.next : StateM σ (Nat × IndexChunk)) ws (j, d) := by
  obtain ⟨ws, d, hd, hdigits, hplaces, hws⟩ := exists_answers_refill hpending hjs hbound
  obtain ⟨hplace, hnext, hrest⟩ :=
    peel_pending (by rw [hplaces]; exact Nat.le_of_lt_succ hjs.1) hd hdigits
  refine ⟨ws, d.peel.2, hrest, by rw [hnext, hplaces], fun {σ} _ => ?_⟩
  exact hws.map (Prod.ext hplace rfl)

/-- Any places that can be given out in order are handed out for some words. -/
theorem exists_answers_handOut {c : IndexChunk} {js : List Nat} (hpending : c.Pending js)
    (hjs : Below (c.places + 1) js) (hbound : c.places + js.length < 2 ^ 32) :
    ∃ ws, ∀ {σ : Type} [WordSource σ],
      Answers (c.handOut js.length : StateM σ (List Nat)) ws js := by
  induction js generalizing c with
  | nil => exact ⟨[], fun {σ} _ => Answers.pure []⟩
  | cons j js ih =>
    rw [List.length_cons] at hbound
    obtain ⟨vs, d, hd, hplaces, hvs⟩ := exists_answers_next hpending hjs (by omega)
    obtain ⟨ws, hws⟩ := ih hd (by rw [hplaces]; exact hjs.2) (by omega)
    exact ⟨vs ++ ws, fun {σ} _ => hvs.bind (hws.map rfl)⟩

end IndexChunk

/-! ## Swaps -/

/-- Swapping two places keeps the characters. -/
theorem swapIfInBounds_perm (chars : Array Char) (i j : Nat) :
    (chars.swapIfInBounds i j).Perm chars := by
  rw [Array.swapIfInBounds_def]
  split
  · split
    · exact Array.swap_perm _ _
    · exact Array.Perm.refl _
  · exact Array.Perm.refl _

/-- What stands where after a swap. -/
theorem getElem?_swapIfInBounds {chars : Array Char} {i j : Nat} (hi : i < chars.size)
    (hj : j < chars.size) (t : Nat) :
    (chars.swapIfInBounds i j)[t]? =
      if j = t then chars[i]? else if i = t then chars[j]? else chars[t]? := by
  rw [Array.swapIfInBounds_def, dif_pos hi, dif_pos hj, Array.getElem?_swap,
    Array.getElem?_eq_getElem hi, Array.getElem?_eq_getElem hj]

/-- The same swap again undoes it. -/
theorem swapIfInBounds_twice {chars : Array Char} {i j : Nat} (hi : i < chars.size)
    (hj : j < chars.size) : (chars.swapIfInBounds i j).swapIfInBounds i j = chars := by
  apply Array.ext_getElem?
  intro t
  rw [getElem?_swapIfInBounds (by rwa [Array.size_swapIfInBounds])
    (by rwa [Array.size_swapIfInBounds])]
  rw [getElem?_swapIfInBounds hi hj, getElem?_swapIfInBounds hi hj, getElem?_swapIfInBounds hi hj]
  -- Only the two places that are swapped are touched, and one of them may be the other.
  by_cases hjt : j = t
  · rw [if_pos hjt, ← hjt]
    by_cases hji : j = i
    · rw [if_pos hji, hji]
    · rw [if_neg hji, if_pos rfl]
  · by_cases hit : i = t
    · rw [if_neg hjt, if_pos hit, if_pos rfl, hit]
    · rw [if_neg hjt, if_neg hit, if_neg hjt, if_neg hit]

/-- Swaps the places from `i` on, each with the place that the list names for it. -/
def swaps (i : Nat) (chars : Array Char) : List Nat → Array Char
  | [] => chars
  | j :: js => swaps (i + 1) (chars.swapIfInBounds i j) js

/-- Swaps keep the characters, each as often as before. -/
theorem swaps_perm (i : Nat) (chars : Array Char) (js : List Nat) :
    (swaps i chars js).Perm chars := by
  induction js generalizing i chars with
  | nil => exact Array.Perm.refl _
  | cons j js ih => exact (ih _ _).trans (swapIfInBounds_perm chars i j)

/-- The first swaps are made, and the others go on where they end. -/
theorem swaps_append (i : Nat) (chars : Array Char) (js ks : List Nat) :
    swaps i chars (js ++ ks) = swaps (i + js.length) (swaps i chars js) ks := by
  induction js generalizing i chars with
  | nil => rfl
  | cons j js ih =>
    rw [List.cons_append, swaps, ih, List.length_cons, swaps]
    congr 1
    omega

/-- One more place may be given out behind the others. -/
theorem below_append {m : Nat} {js : List Nat} {j : Nat} (hjs : Below m js)
    (hj : j < m + js.length) : Below m (js ++ [j]) := by
  induction js generalizing m with
  | nil => exact ⟨hj, trivial⟩
  | cons k js ih =>
    rw [List.length_cons] at hj
    exact ⟨hjs.1, ih hjs.2 (by omega)⟩

/-- Every arrangement of the places below `k` is reached by swapping each of them with a place not
behind it. The induction is on `k`, from the last swap backwards: the character that stands at `k`
before it is the one that started there. -/
theorem exists_swaps {k : Nat} {chars target : Array Char} (hperm : target.Perm chars)
    (hk : k ≤ chars.size) (htail : ∀ t, k ≤ t → target[t]? = chars[t]?) :
    ∃ js, js.length = k ∧ Below 1 js ∧ swaps 0 chars js = target := by
  induction k generalizing target with
  | zero =>
    refine ⟨[], rfl, trivial, ?_⟩
    exact (Array.ext_getElem? fun t => htail t (Nat.zero_le t)).symm
  | succ k ih =>
    have hsize : target.size = chars.size := hperm.size_eq
    -- Both lists agree from place `k + 1` on, so their fronts are permutations of each other.
    have hfront : (target.toList.take (k + 1)).Perm (chars.toList.take (k + 1)) := by
      have hdrop : target.toList.drop (k + 1) = chars.toList.drop (k + 1) := by
        apply List.ext_getElem?
        intro t
        have := htail (k + 1 + t) (by omega)
        rw [List.getElem?_drop, List.getElem?_drop]
        simpa using this
      have hwhole := Array.perm_iff_toList_perm.1 hperm
      rw [← List.take_append_drop (k + 1) target.toList,
        ← List.take_append_drop (k + 1) chars.toList, hdrop] at hwhole
      exact (List.perm_append_right_iff _).1 hwhole
    -- The character that starts at `k` has arrived at some place `j` that is not behind it.
    have hmem : chars[k] ∈ target.toList.take (k + 1) := by
      apply hfront.mem_iff.2
      rw [List.mem_take_iff_getElem]
      exact ⟨k, by rw [Array.length_toList]; omega, Array.getElem_toList _⟩
    rw [List.mem_take_iff_getElem] at hmem
    obtain ⟨j, hj, hjk⟩ := hmem
    rw [Array.length_toList] at hj
    rw [Array.getElem_toList] at hjk
    -- With that swap undone it stands at `k` again, and the places behind `k` were not touched.
    have hswapped : ∀ t, k ≤ t → (target.swapIfInBounds k j)[t]? = chars[t]? := by
      intro t ht
      rw [getElem?_swapIfInBounds (by omega) (by omega)]
      rcases Nat.eq_or_lt_of_le ht with rfl | ht
      · have hjk? : target[j]? = chars[k]? := by
          rw [Array.getElem?_eq_getElem (by omega), hjk, Array.getElem?_eq_getElem]
        rw [if_pos rfl]
        split
        · next heq => rw [← hjk?, heq]
        · exact hjk?
      · rw [if_neg (by omega), if_neg (by omega)]
        exact htail t ht
    obtain ⟨js, hlen, hbelow, hswaps⟩ :=
      ih ((swapIfInBounds_perm target k j).trans hperm) (by omega) hswapped
    refine ⟨js ++ [j], by rw [List.length_append, hlen, List.length_singleton],
      below_append hbelow (by omega), ?_⟩
    rw [swaps_append, hswaps, hlen, Nat.zero_add]
    exact swapIfInBounds_twice (by omega) (by omega)

/-! ## Shuffles -/

/-- A shuffle takes the places from its chunks and then does nothing but swap. -/
theorem shuffleFrom_eq_swaps (i : Nat) (c : IndexChunk) (chars : Array Char) (n : Nat) :
    (shuffleFrom i c chars n : StateM σ (Array Char)) = do
      return swaps i chars (← c.handOut n) := by
  induction n generalizing i c chars with
  | zero => rfl
  | succ n ih =>
    funext s
    show shuffleFrom (i + 1) (c.next s).1.2 _ n (c.next s).2 = _
    rw [ih]
    rfl

/-- The whole shuffle is such a run of swaps from the first place on, also where it draws
nothing. -/
theorem shuffle_eq_swaps (chars : List Char) :
    (shuffle chars : StateM σ (List Char)) = do
      return (swaps 0 chars.toArray (← ({} : IndexChunk).handOut chars.length)).toList := by
  unfold shuffle
  split
  · next h =>
    -- The place of a single character is the one that the chunk at the start gives without a draw.
    match chars, h with
    | [], _ => rfl
    | [c], _ => rfl
  · rw [shuffleFrom_eq_swaps]
    rfl

/-- A shuffled list has the same characters as before, each as often. -/
theorem yields_shuffle (chars : List Char) :
    Yields (shuffle chars : StateM σ (List Char)) fun out _ => out.Perm chars := by
  rw [shuffle_eq_swaps]
  refine (IndexChunk.yields_handOut IndexChunk.fits_start _).bind fun js _ _ => Yields.pure ?_
  exact Array.perm_iff_toList_perm.1 (swaps_perm 0 chars.toArray js)

/-- Every arrangement of a list comes out for some words. -/
theorem exists_answers_shuffle {chars target : List Char} (hperm : target.Perm chars)
    (hbound : chars.length < 2 ^ 32) :
    ∃ ws, ∀ {σ : Type} [WordSource σ],
      Answers (shuffle chars : StateM σ (List Char)) ws target := by
  -- Behind the end of the list the two agree, so all the places that differ are swapped.
  have htail : ∀ t, chars.length ≤ t → target.toArray[t]? = chars.toArray[t]? := by
    intro t ht
    have hsize := hperm.length_eq
    rw [Array.getElem?_eq_none (by simpa using by omega),
      Array.getElem?_eq_none (by simpa using ht)]
  obtain ⟨js, hlen, hbelow, hswaps⟩ :=
    exists_swaps (Array.perm_iff_toList_perm.2 hperm) (Nat.le_refl chars.length) htail
  obtain ⟨ws, hws⟩ := IndexChunk.exists_answers_handOut (IndexChunk.pending_start hbelow) hbelow (by
    show 0 + js.length < 2 ^ 32
    omega)
  refine ⟨ws, fun {σ} _ => ?_⟩
  rw [shuffle_eq_swaps, ← hlen]
  exact hws.map (by rw [hswaps])

/-- **A shuffle gives permutations only, and all of them.** Whatever source hands out the words, a
shuffle is as many swaps as there are characters: of each place `i` with the place that is handed
out for it, which is not behind `i`, so that both are inside the list. The characters stay the same,
each as often as before. And every arrangement of them comes out for some words, whatever source
hands these out; a source that starts with them exists. -/
theorem shuffle_arrangements (chars : List Char) (hbound : chars.length < 2 ^ 32) :
    (∀ {σ : Type} [WordSource σ] (s : σ), ∃ (places : List Nat) (t : σ),
        ({} : IndexChunk).handOut chars.length s = (places, t) ∧
          places.length = chars.length ∧
          (∀ i j : Nat, places[i]? = some j → j ≤ i ∧ i < chars.length) ∧
          shuffle chars s = ((swaps 0 chars.toArray places).toList, t) ∧
          (shuffle chars s).1.Perm chars) ∧
      ∀ target : List Char, target.Perm chars → ∃ ws : List UInt32,
        (∀ {σ : Type} [WordSource σ] (s t : σ), Hands s ws t → shuffle chars s = (target, t)) ∧
          (shuffle chars (CyclicWords.ofList ws)).1 = target := by
  constructor
  · intro σ _ s
    obtain ⟨hlength, hplaces⟩ :=
      (IndexChunk.yields_handOut IndexChunk.fits_start chars.length).result s
    refine ⟨_, _, rfl, hlength, fun i j hj => ⟨?_, ?_⟩, ?_, (yields_shuffle chars).result s⟩
    · have hle := hplaces i j hj
      rwa [Nat.zero_add] at hle
    · rw [← hlength]
      exact (List.getElem?_eq_some_iff.1 hj).1
    · rw [shuffle_eq_swaps]
      rfl
  · intro target hperm
    obtain ⟨ws, hws⟩ := exists_answers_shuffle hperm hbound
    exact ⟨ws, fun s t => hws s t, Answers.result_cyclicWords hws⟩

/-- Fifteen characters take three chunks, of which the second has eleven places to give. -/
theorem shuffle_arrangements_threeChunks :
    "abracadabra Σ12".toList.length < 2 ^ 32 ∧
      "21Σ arbadacarba".toList.Perm "abracadabra Σ12".toList ∧
      (shuffle "abracadabra Σ12".toList (CyclicWords.ofList [7])).1.Perm
        "abracadabra Σ12".toList ∧
      ∃ ws : List UInt32,
        (shuffle "abracadabra Σ12".toList (CyclicWords.ofList ws)).1 =
          "21Σ arbadacarba".toList := by
  have hlength : "abracadabra Σ12".toList.length < 2 ^ 32 := by decide
  have hperm : "21Σ arbadacarba".toList.Perm "abracadabra Σ12".toList := by decide
  obtain ⟨hruns, harrangements⟩ := shuffle_arrangements _ hlength
  obtain ⟨_, _, -, -, -, -, hshuffled⟩ := hruns (CyclicWords.ofList [7])
  obtain ⟨ws, -, hws⟩ := harrangements _ hperm
  exact ⟨hlength, hperm, hshuffled, ws, hws⟩

end CredentialPolicy.Random
