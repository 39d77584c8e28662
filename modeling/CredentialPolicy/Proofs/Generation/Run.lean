import CredentialPolicy.Generation.Plan
import Mathlib.Order.Bounds.Basic

/-!
The longest run is the longest block of one character.

The loop remembers the run at the end of what it read, so its invariant speaks of the text with that
run still in front: `List.replicate run c ++ text`. A character that continues the run moves over
into it and the list stays the same; one that breaks it starts a run of its own, and no block
reaches across the break.

A block can be cut down to any smaller length, so the longest run reaches a length exactly if some
block has it (`le_longestRun_iff`). What the longest run says of a candidate and how it behaves when
two texts are joined are statements about blocks, and follow from this one.
-/

set_option autoImplicit false

namespace CredentialPolicy.Generation

/-- A block of one character does not reach across a change of character. -/
theorem replicate_infix_append_cons {c d e : Char} {run k : Nat} {text : List Char} (hce : c ≠ e)
    (h : List.replicate k d <:+: List.replicate run c ++ e :: text) :
    k ≤ run ∨ List.replicate k d <:+: e :: text := by
  rw [List.infix_append_iff_ne_nil] at h
  rcases h with hleft | hright | ⟨l₁, l₂, hne₁, hne₂, happ, hend, hstart⟩
  · left
    have := hleft.length_le
    rwa [List.length_replicate, List.length_replicate] at this
  · exact Or.inr hright
  · -- The part before the change consists of `c`, the part after it starts with `e`.
    obtain ⟨x, l₁', rfl⟩ := List.exists_cons_of_ne_nil hne₁
    obtain ⟨y, l₂', rfl⟩ := List.exists_cons_of_ne_nil hne₂
    have hx : x = c := List.eq_of_mem_replicate (hend.subset List.mem_cons_self)
    have hy : y = e := (List.cons_prefix_cons.1 hstart).1
    have hxd : x = d := List.eq_of_mem_replicate (n := k) (by rw [happ]; simp)
    have hyd : y = d := List.eq_of_mem_replicate (n := k) (by rw [happ]; simp)
    exact absurd (by rw [← hx, ← hy, hxd, hyd]) hce

/-- **The scan of a text**, with the run that ends where it stands and the longest one so far. The
induction is on the text, and the run in progress stands in front of what is left of it. -/
theorem longestRunFrom_le_iff {c : Char} {run longest m : Nat} {text : List Char}
    (hrun : run ≤ longest) :
    longestRunFrom (some c) run longest text ≤ m ↔
      longest ≤ m ∧ ∀ d k, List.replicate k d <:+: List.replicate run c ++ text → k ≤ m := by
  induction text generalizing c run longest with
  | nil =>
    rw [longestRunFrom, List.append_nil]
    refine ⟨fun h => ⟨h, fun d k hk => ?_⟩, fun h => h.1⟩
    have := hk.length_le
    rw [List.length_replicate, List.length_replicate] at this
    omega
  | cons e text ih =>
    rw [longestRunFrom]
    by_cases hce : c = e
    · -- The run goes on: the same list, split one place later.
      subst hce
      have hmove : List.replicate (run + 1) c ++ text = List.replicate run c ++ c :: text := by
        rw [List.replicate_succ', List.append_assoc, List.singleton_append]
      rw [if_pos rfl, ih (Nat.le_max_right _ _), hmove, Nat.max_le]
      refine ⟨fun h => ⟨h.1.1, h.2⟩, fun h => ⟨⟨h.1, h.2 c (run + 1) ?_⟩, h.2⟩⟩
      rw [← hmove]
      exact (List.prefix_append _ _).isInfix
    · rw [if_neg (by simpa using hce), ih (Nat.le_max_right _ _), Nat.max_le]
      constructor
      · rintro ⟨⟨hlongest, -⟩, hblocks⟩
        refine ⟨hlongest, fun d k hk => ?_⟩
        rcases replicate_infix_append_cons hce hk with hk | hk
        · omega
        · exact hblocks d k hk
      · rintro ⟨hlongest, hblocks⟩
        have hafter : ∀ d k, List.replicate k d <:+: e :: text → k ≤ m :=
          fun d k hk => hblocks d k (hk.trans (List.suffix_append _ _).isInfix)
        refine ⟨⟨hlongest, hafter e 1 ?_⟩, hafter⟩
        exact (List.prefix_append [e] text).isInfix

/-- The longest run is bounded by exactly what bounds every block of one character. -/
theorem longestRun_le_iff {m : Nat} {text : List Char} :
    longestRun text ≤ m ↔ ∀ c k, List.replicate k c <:+: text → k ≤ m := by
  cases text with
  | nil =>
    refine ⟨fun _ c k hk => ?_, fun _ => Nat.zero_le m⟩
    have := hk.length_le
    rw [List.length_replicate, List.length_nil] at this
    omega
  | cons c text =>
    rw [longestRun, longestRunFrom, if_neg (by simp), longestRunFrom_le_iff (Nat.le_max_right _ _)]
    -- The first character is a block of one, so the scan of the others starts with that.
    have hone : List.replicate 1 c ++ text = c :: text := rfl
    rw [hone]
    refine ⟨fun h => h.2, fun h => ⟨?_, h⟩⟩
    rw [Nat.zero_max]
    exact h c 1 (List.prefix_append [c] text).isInfix

/-! ## The longest block -/

/-- The front of a block is a block of its own. -/
theorem replicate_infix_of_le {c : Char} {j k : Nat} {text : List Char} (hjk : j ≤ k)
    (h : List.replicate k c <:+: text) : List.replicate j c <:+: text := by
  have hfront : List.replicate j c <+: List.replicate k c := by
    rw [List.prefix_replicate_iff, List.length_replicate]
    exact ⟨hjk, rfl⟩
  exact hfront.isInfix.trans h

/-- The longest run reaches exactly the lengths that blocks of one character have. -/
theorem le_longestRun_iff {k : Nat} {text : List Char} :
    k ≤ longestRun text ↔ ∃ c, List.replicate k c <:+: text := by
  cases k with
  | zero => exact iff_of_true (Nat.zero_le _) ⟨default, List.nil_infix⟩
  | succ m =>
    constructor
    · intro h
      -- If no block is as long as that, all of them are bounded by `m`, and so is the longest run.
      by_contra hnone
      have hle : longestRun text ≤ m := by
        rw [longestRun_le_iff]
        intro c k hk
        by_contra hlong
        exact hnone ⟨c, replicate_infix_of_le (by omega) hk⟩
      omega
    · rintro ⟨c, hblock⟩
      exact longestRun_le_iff.1 (Nat.le_refl _) c (m + 1) hblock

/-- The longest run is one that the text has, and no run of it is longer. -/
theorem isGreatest_longestRun (text : List Char) :
    IsGreatest {k | ∃ c, List.replicate k c <:+: text} (longestRun text) :=
  ⟨le_longestRun_iff.1 (Nat.le_refl _), fun _ hk => le_longestRun_iff.2 hk⟩

/-- Runs of a part are runs of the whole. -/
theorem longestRun_le_of_infix {s t : List Char} (h : s <:+: t) : longestRun s ≤ longestRun t := by
  obtain ⟨c, hblock⟩ := le_longestRun_iff.1 (Nat.le_refl (longestRun s))
  exact le_longestRun_iff.2 ⟨c, hblock.trans h⟩

/-- Where two texts meet, a run of the one can go on in the other, and no further. -/
theorem longestRun_append_le (s t : List Char) :
    longestRun (s ++ t) ≤ longestRun s + longestRun t := by
  obtain ⟨c, hblock⟩ := le_longestRun_iff.1 (Nat.le_refl (longestRun (s ++ t)))
  rw [List.infix_append_iff] at hblock
  rcases hblock with hleft | hright | ⟨l₁, l₂, happ, hend, hstart⟩
  · have := le_longestRun_iff.2 ⟨c, hleft⟩
    omega
  · have := le_longestRun_iff.2 ⟨c, hright⟩
    omega
  · -- Both pieces of a block that is cut in two are blocks of the same character.
    obtain ⟨hlength, hl₁, hl₂⟩ := List.replicate_eq_append_iff.1 happ
    rw [hl₁] at hend
    rw [hl₂] at hstart
    have hs := le_longestRun_iff.2 ⟨c, hend.isInfix⟩
    have ht := le_longestRun_iff.2 ⟨c, hstart.isInfix⟩
    omega

/-! ## Repeated characters -/

/-- A plan finds fault with the runs of a candidate if it limits them and some character occurs once
more in a row than the limit permits. No other fault of a candidate is reported in its place. -/
theorem rejection?_eq_repeatedCharacters_iff {p : Plan} {candidate : List Char} :
    p.rejection? candidate = some .repeatedCharacters ↔
      0 < p.repeatSame ∧ ∃ c, List.replicate (p.repeatSame + 1) c <:+: candidate := by
  rw [← le_longestRun_iff, Nat.succ_le_iff]
  unfold Plan.rejection?
  dsimp only
  split
  · next hlong => exact iff_of_true rfl hlong
  · next hshort =>
    refine iff_of_false ?_ hshort
    split <;> nofun

/-- **The longest run.** It is the greatest number of times that some character occurs in a row, and
none in a text without characters. So a plan rejects a candidate for repeated characters exactly if
it limits them and some character occurs more often in a row than that. Of two texts one after the
other, the longest run is at least the longer one of theirs, and at most both of them together. -/
theorem longestRun_blocks :
    (∀ text : List Char, IsGreatest {k | ∃ c, List.replicate k c <:+: text} (longestRun text)) ∧
      longestRun [] = 0 ∧
      (∀ (p : Plan) (candidate : List Char),
        p.rejection? candidate = some .repeatedCharacters ↔
          0 < p.repeatSame ∧ ∃ c, List.replicate (p.repeatSame + 1) c <:+: candidate) ∧
      ∀ s t : List Char,
        max (longestRun s) (longestRun t) ≤ longestRun (s ++ t) ∧
          longestRun (s ++ t) ≤ longestRun s + longestRun t := by
  refine ⟨isGreatest_longestRun, rfl, fun p candidate => rejection?_eq_repeatedCharacters_iff,
    fun s t => ⟨Nat.max_le.2 ⟨?_, ?_⟩, longestRun_append_le s t⟩⟩
  · exact longestRun_le_of_infix (List.prefix_append s t).isInfix
  · exact longestRun_le_of_infix (List.suffix_append s t).isInfix

end CredentialPolicy.Generation
