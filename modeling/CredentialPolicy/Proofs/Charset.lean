import CredentialPolicy.Charset
import Mathlib.Data.Char
import Mathlib.Data.Finset.Sort
import Mathlib.Data.List.Perm.Subperm

/-!
The pools from which passwords are drawn.

A class of characters is listed by code ranges and tested by comparisons. Both say that the code
lies in one of the ranges, so the listing and the test agree (`CharClass.mem_members`), and a pool
holds the characters of its classes that are not excluded (`mem_pool`). A pool is ascending, hence
no longer than there are characters, which keeps every number drawn for it within 64 bits.

There is one ascending list only with given members, so what a pool holds settles which list it is
(`eq_pool_iff`). That the order and the repetitions of the classes do not matter (`pool_congr`), and
how the pools of two lists of classes make up the pool of both (`pool_append`), is read off the
members.
-/

set_option autoImplicit false

namespace CredentialPolicy

/-! ## Characters and their codes -/

/-- A number below the surrogates is the code of a character. -/
theorem toNat_ofNat_of_lt {n : Nat} (h : n < 0xD800) : (Char.ofNat n).toNat = n := by
  have hvalid : n.isValidChar := Or.inl h
  rw [Char.ofNat, dif_pos hvalid]
  rfl

/-- There are no codes from the bound on. -/
theorem toNat_lt_bound (c : Char) : c.toNat < 0x110000 := by
  rcases c.valid with h | h
  · exact Nat.lt_trans h (by decide)
  · exact h.2

/-- An ascending list of characters is no longer than there are codes. -/
theorem length_le_of_ascending {l : List Char} (h : l.Pairwise (· < ·)) :
    l.length ≤ 0x110000 := by
  -- The codes are pairwise different and all below the bound.
  have hnodup : (l.map Char.toNat).Nodup := by
    refine List.pairwise_map.2 (h.imp ?_)
    intro a b hab
    exact Nat.ne_of_lt hab
  have hsubset : l.map Char.toNat ⊆ List.range 0x110000 := by
    intro n hn
    obtain ⟨c, -, rfl⟩ := List.mem_map.1 hn
    exact List.mem_range.2 (toNat_lt_bound c)
  have hle := (hnodup.subperm hsubset).length_le
  rwa [List.length_map, List.length_range] at hle

/-! ## Classes -/

namespace CharClass

/-- The code ranges of every class lie below the surrogates. -/
theorem lt_of_mem_ranges {k : CharClass} {r : Nat × Nat} (h : r ∈ k.ranges) : r.2 < 0xD800 := by
  have hall : ∀ r ∈ k.ranges, r.2 < 0xD800 := by cases k <;> decide
  exact hall r h

/-- A class lists the characters whose codes are in its ranges. -/
theorem mem_members_iff_ranges {k : CharClass} {c : Char} :
    c ∈ k.members ↔ ∃ r ∈ k.ranges, r.1 ≤ c.toNat ∧ c.toNat ≤ r.2 := by
  rw [members, List.mem_flatMap]
  constructor
  · rintro ⟨r, hr, hc⟩
    obtain ⟨n, hn, rfl⟩ := List.mem_map.1 hc
    -- No code in the ranges is a surrogate's, so each is that of a character.
    have hbound := lt_of_mem_ranges hr
    rw [List.mem_range'_1] at hn
    refine ⟨r, hr, ?_⟩
    rw [toNat_ofNat_of_lt (by omega)]
    omega
  · rintro ⟨r, hr, hlo, hhi⟩
    refine ⟨r, hr, List.mem_map.2 ⟨c.toNat, ?_, c.ofNat_toNat⟩⟩
    rw [List.mem_range'_1]
    omega

/-- The test of a class accepts the characters whose codes are in its ranges. -/
theorem contains_iff_ranges {k : CharClass} {c : Char} :
    k.contains c = true ↔ ∃ r ∈ k.ranges, r.1 ≤ c.toNat ∧ c.toNat ≤ r.2 := by
  have hle : ∀ a b : Char, a ≤ b ↔ a.toNat ≤ b.toNat := fun _ _ => Iff.rfl
  cases k <;> simp [contains, ranges, hle, or_assoc]

/-- The listing of a class and its test agree. -/
theorem mem_members {k : CharClass} {c : Char} : c ∈ k.members ↔ k.contains c = true := by
  rw [mem_members_iff_ranges, contains_iff_ranges]

/-- The ranges of a class stand in ascending order and do not touch. -/
theorem pairwise_ranges (k : CharClass) : k.ranges.Pairwise fun r q => r.2 < q.1 := by
  cases k <;> decide

/-- A class lists its members in strictly ascending order. -/
theorem pairwise_members (k : CharClass) : k.members.Pairwise (· < ·) := by
  have hlt : ∀ {m n : Nat}, m < n → n < 0xD800 → Char.ofNat m < Char.ofNat n := by
    intro m n hmn hn
    show (Char.ofNat m).toNat < (Char.ofNat n).toNat
    rwa [toNat_ofNat_of_lt (Nat.lt_trans hmn hn), toNat_ofNat_of_lt hn]
  rw [members, List.pairwise_flatMap]
  constructor
  · -- Within a range the codes are counted up.
    intro r hr
    have hbound := lt_of_mem_ranges hr
    refine List.pairwise_map.2 ((List.pairwise_lt_range' 1).imp_of_mem ?_)
    intro m n _ hn hmn
    rw [List.mem_range'_1] at hn
    exact hlt hmn (by omega)
  · -- A later range starts above the end of an earlier one.
    refine (pairwise_ranges k).imp_of_mem ?_
    intro r q _ hq hrq c hc d hd
    obtain ⟨m, hm, rfl⟩ := List.mem_map.1 hc
    obtain ⟨n, hn, rfl⟩ := List.mem_map.1 hd
    have hbound := lt_of_mem_ranges hq
    rw [List.mem_range'_1] at hm hn
    exact hlt (by omega) (by omega)

/-- No character is in two classes. -/
theorem eq_of_contains {k l : CharClass} {c : Char} (hk : k.contains c = true)
    (hl : l.contains c = true) : k = l := by
  rw [contains_iff_ranges] at hk hl
  obtain ⟨r, hr, hrlo, hrhi⟩ := hk
  obtain ⟨q, hq, hqlo, hqhi⟩ := hl
  by_contra hne
  -- Ranges of two classes have no code in common, and there are finitely many ranges.
  have hdisjoint : ∀ k l : CharClass, k ≠ l → ∀ r ∈ k.ranges, ∀ q ∈ l.ranges,
      r.2 < q.1 ∨ q.2 < r.1 := by
    intro k l
    cases k <;> cases l <;> decide
  have := hdisjoint k l hne r hr q hq
  omega

/-- The class that is found for a character has it. -/
theorem contains_of_of? {k : CharClass} {c : Char} (h : of? c = some k) : k.contains c = true := by
  have hfound := List.find?_some h
  exact hfound

/-- A character's class is the one that has it. -/
theorem of?_eq_some_iff {k : CharClass} {c : Char} : of? c = some k ↔ k.contains c = true := by
  refine ⟨contains_of_of?, fun hk => ?_⟩
  have hall : k ∈ all := by cases k <;> decide
  have hsome : (of? c).isSome = true := List.find?_isSome.2 ⟨k, hall, hk⟩
  obtain ⟨l, hl⟩ := Option.isSome_iff_exists.1 hsome
  -- What is found first is the only class with the character, so its place among all is no matter.
  rw [hl, eq_of_contains (contains_of_of? hl) hk]

/-- To count the characters of a class in a text is to count those that the class lists. -/
theorem countIn_eq (k : CharClass) (text : List Char) :
    k.countIn text = text.countP (· ∈ k.members) := by
  refine List.countP_congr fun c _ => ?_
  rw [decide_eq_true_eq, mem_members]

end CharClass

/-! ## Pools -/

/-- A pool holds the characters of its classes that are not excluded. -/
theorem mem_pool {classes : List CharClass} {excluded : Ascending Char} {c : Char} :
    c ∈ pool classes excluded ↔ (∃ k ∈ classes, k.contains c = true) ∧ ¬ c ∈ excluded := by
  rw [pool, ← Ascending.mem_def, Ascending.mem_filter, Ascending.mem_ofList, List.mem_flatMap]
  simp only [CharClass.mem_members, decide_eq_true_eq]

/-- The letters of a pool are those of both cases that are not excluded. -/
theorem mem_letterPool {excluded : Ascending Char} {c : Char} :
    c ∈ letterPool excluded ↔
      (CharClass.lowercase.contains c = true ∨ CharClass.uppercase.contains c = true) ∧
        ¬ c ∈ excluded := by
  rw [letterPool, mem_pool]
  simp only [List.exists_mem_cons_iff, List.not_mem_nil, false_and, exists_false, or_false]

/-- A pool lists its characters in strictly ascending order, so none stands in it twice. -/
theorem pairwise_pool (classes : List CharClass) (excluded : Ascending Char) :
    (pool classes excluded).Pairwise (· < ·) :=
  Ascending.ascending _

/-- **What a pool is.** The pool is the ascending list of what it holds, and there is no other. -/
theorem eq_pool_iff {classes : List CharClass} {excluded : Ascending Char} {l : List Char} :
    l = pool classes excluded ↔ l.Pairwise (· < ·) ∧
      ∀ c, c ∈ l ↔ (∃ k ∈ classes, k.contains c = true) ∧ ¬ c ∈ excluded := by
  constructor
  · rintro rfl
    exact ⟨pairwise_pool classes excluded, fun c => mem_pool⟩
  · rintro ⟨hascending, hmem⟩
    refine Ascending.eq_of_mem_iff_of_pairwise hascending (pairwise_pool classes excluded) ?_
    intro c
    rw [hmem, mem_pool]

/-- Classes in another order, or some of them more than once, give the same pool. -/
theorem pool_congr {classes others : List CharClass} (excluded : Ascending Char)
    (h : ∀ k, k ∈ classes ↔ k ∈ others) : pool classes excluded = pool others excluded := by
  refine eq_pool_iff.2 ⟨pairwise_pool classes excluded, fun c => ?_⟩
  simp only [mem_pool, h]

/-- The pool of two lists of classes together is the sorted union of their pools. -/
theorem pool_append (classes others : List CharClass) (excluded : Ascending Char) :
    pool (classes ++ others) excluded =
      ((pool classes excluded).toFinset ∪ (pool others excluded).toFinset).sort := by
  refine (eq_pool_iff.2 ⟨(Finset.sortedLT_sort _).pairwise, fun c => ?_⟩).symm
  rw [Finset.mem_sort, Finset.mem_union, List.mem_toFinset, List.mem_toFinset, mem_pool, mem_pool,
    ← or_and_right]
  simp only [List.mem_append, or_and_right, exists_or]

/-- A pool has no more characters than there are codes, so its size fits a word. -/
theorem length_pool_le (classes : List CharClass) (excluded : Ascending Char) :
    (pool classes excluded).length ≤ 0x110000 :=
  length_le_of_ascending (Ascending.ascending _)

end CredentialPolicy
