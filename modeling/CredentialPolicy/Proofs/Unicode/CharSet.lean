import CredentialPolicy.Unicode.CharSet

/-!
Sets of one character.

A character and its rank determine each other (`rankOfCode_eq_iff`), so a set whose bounds hold just
one rank holds just one character: the one that `CharSet.single` was given, or that
`CharSet.single?` finds.
-/

set_option autoImplicit false

namespace CredentialPolicy.Unicode

/-- Characters are ranked by their codes without the gap of the surrogates. -/
theorem rankOfCode_lt (c : Char) : rankOfCode c.toNat < rankBound := by
  unfold rankOfCode rankBound
  rcases c.valid with h | h
  · have hlow : c.toNat < 0xD800 := h
    rw [if_pos hlow]
    omega
  · have hhigh : 0xDFFF < c.toNat ∧ c.toNat < 0x110000 := h
    split <;> omega

theorem toNat_ofNat_of_isValidChar {n : Nat} (h : n.isValidChar) : (Char.ofNat n).toNat = n := by
  rw [Char.ofNat, dif_pos h]
  rfl

/-- The rank of a character says which one it is. -/
theorem rankOfCode_eq_iff {c : Char} {rank : Nat} (h : rank < rankBound) :
    rankOfCode c.toNat = rank ↔ c = Char.ofNat (if rank < 0xD800 then rank else rank + 0x800) := by
  unfold rankBound at h
  have hvalid : (if rank < 0xD800 then rank else rank + 0x800).isValidChar := by
    split
    · exact Or.inl (by assumption)
    · exact Or.inr ⟨by omega, by omega⟩
  have hcode : c = Char.ofNat (if rank < 0xD800 then rank else rank + 0x800) ↔
      c.toNat = if rank < 0xD800 then rank else rank + 0x800 := by
    rw [← Char.toNat_inj, toNat_ofNat_of_isValidChar hvalid]
  rw [hcode]
  unfold rankOfCode
  -- No code lies among the surrogates, so only one of the four cases is left to each side.
  rcases c.valid with hc | hc
  · have hlow : c.toNat < 0xD800 := hc
    split <;> split <;> omega
  · have hhigh : 0xDFFF < c.toNat ∧ c.toNat < 0x110000 := hc
    split <;> split <;> omega

theorem rankOfCode_inj {c d : Char} : rankOfCode c.toNat = rankOfCode d.toNat ↔ c = d := by
  rw [rankOfCode_eq_iff (rankOfCode_lt d), ← (rankOfCode_eq_iff (rankOfCode_lt d)).1 rfl]

/-- A single bound is where a set starts that goes on to the end. -/
theorem isInside_singleton_iff {a n : Nat} : isInside false [a] n = true ↔ a ≤ n := by
  simp only [isInside]
  split
  · simp
    omega
  · simp
    omega

/-- Two bounds are where a set starts and where it ends. -/
theorem isInside_pair_iff {a b n : Nat} : isInside false [a, b] n = true ↔ a ≤ n ∧ n < b := by
  simp only [isInside]
  split
  · simp
    omega
  · split
    · simp
      omega
    · simp
      omega

namespace CharSet

/-- A character is in a set if its rank is inside the bounds. -/
theorem mem_iff_isInside {s : CharSet} {c : Char} :
    c ∈ s ↔ isInside false s.bounds (rankOfCode c.toNat) = true := Iff.rfl

theorem contains_iff {s : CharSet} {c : Char} : s.contains c = true ↔ c ∈ s := decide_eq_true_iff

theorem not_mem_empty (c : Char) : ¬ c ∈ (∅ : CharSet) := Bool.false_ne_true

/-- The set of a character has one run, of that character's rank alone. No bound is needed behind
the last rank of all. -/
theorem mem_single {c d : Char} : d ∈ single c ↔ d = c := by
  have hc := rankOfCode_lt c
  have hd := rankOfCode_lt d
  rw [mem_iff_isInside, ← rankOfCode_inj]
  unfold single ofCodes
  dsimp only
  rw [dif_pos (Nat.lt_succ_self _)]
  split
  · rw [isInside_pair_iff]
    omega
  · rw [isInside_singleton_iff]
    omega

/-- The only member found is the only member. -/
theorem mem_iff_of_single? {s : CharSet} {c : Char} (h : s.single? = some c) (d : Char) :
    d ∈ s ↔ d = c := by
  have hd := rankOfCode_lt d
  unfold single? at h
  split at h
  · next lo hi hruns =>
    split at h
    · next hone =>
      obtain ⟨rfl, hbound⟩ := hone
      rw [← Option.some.inj h, ← rankOfCode_eq_iff hbound, mem_iff_isInside]
      have hascending := s.ascending
      -- One run comes from two bounds, or from one that no other follows.
      match hb : s.bounds with
      | [] =>
        rw [hb] at hruns
        cases hruns
      | [a] =>
        rw [hb] at hruns
        obtain ⟨rfl, hlast⟩ : a = lo ∧ rankBound - 1 = lo := by simpa [runs] using hruns
        rw [isInside_singleton_iff]
        omega
      | [a, b] =>
        rw [hb] at hruns hascending
        obtain ⟨rfl, hnext⟩ : a = lo ∧ b - 1 = lo := by simpa [runs] using hruns
        have hab : a < b := by simpa using hascending
        rw [isInside_pair_iff]
        omega
      | [a, b, x] =>
        rw [hb] at hruns
        cases hruns
      | a :: b :: x :: y :: r =>
        rw [hb] at hruns
        cases hruns
    · cases h
  · cases h

end CharSet

end CredentialPolicy.Unicode
