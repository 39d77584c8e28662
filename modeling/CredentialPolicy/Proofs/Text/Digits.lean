import CredentialPolicy.Text.Digits
import CredentialPolicy.Text.Double
import Mathlib.Algebra.Group.Nat.Defs
import Mathlib.Data.List.TakeDrop

/-!
Digits that are written read as the number they were written from.

Both notations are read by the same fold (`ofDigits`), one digit at a time from the left, so each
round trip is an induction that takes the last digit off: for hexadecimal digits of a fixed width it
runs on the width and keeps what fits into it (`ofDigits_hexOfWidth`), for decimal ones on the
number (`ofDigits_toDigits`). The letter case of a hexadecimal digit makes no difference.

The other facts are those that readers look at: written digits are digits, and only zero is written
with a zero in front.
-/

set_option autoImplicit false

namespace CredentialPolicy.Text

/-- A character that passes a test is none that fails it. -/
theorem ne_of_test {p : Char → Bool} {c d : Char} (hc : p c = true) (hd : p d = false) : c ≠ d := by
  rintro rfl
  exact absurd hc (Bool.eq_false_iff.1 hd)

/-- What a reader takes as long as a test holds, where it fails right behind. -/
theorem span_append_of_all {p : Char → Bool} {taken rest : List Char}
    (htaken : ∀ c ∈ taken, p c = true) (hrest : ∀ c ∈ rest.head?, p c = false) :
    (taken ++ rest).span p = (taken, rest) := by
  have hstop : rest.takeWhile p = [] ∧ rest.dropWhile p = rest := by
    cases rest with
    | nil => exact ⟨rfl, rfl⟩
    | cons c r =>
      have hc : ¬ p c = true := Bool.eq_false_iff.1 (hrest c rfl)
      exact ⟨List.takeWhile_cons_of_neg hc, List.dropWhile_cons_of_neg hc⟩
  rw [List.span_eq_takeWhile_dropWhile, List.takeWhile_append_of_pos htaken,
    List.dropWhile_append_of_pos htaken, hstop.1, hstop.2, List.append_nil]

/-- One more digit multiplies what is read so far by the radix, and adds its value. -/
theorem ofDigits_concat (radix : Nat) (digits : List Char) (c : Char) :
    ofDigits radix (digits ++ [c]) = ofDigits radix digits * radix + (digitValue? c).getD 0 := by
  simp only [ofDigits, List.foldl_append, List.foldl_cons, List.foldl_nil]

/-! ## Hexadecimal digits -/

theorem digitValue?_hexDigit {n : Nat} (h : n < 16) : digitValue? (hexDigit n) = some n := by
  have hall : ∀ n < 16, digitValue? (hexDigit n) = some n := by decide
  exact hall n h

/-- Whatever has a value below sixteen is a hexadecimal digit. -/
theorem isHex_of_digitValue? {c : Char} {n : Nat} (hc : digitValue? c = some n) (hn : n < 16) :
    isHex c = true := by
  unfold isHex isDigitOf
  rw [hc]
  exact decide_eq_true hn

theorem isHex_hexDigit {n : Nat} (h : n < 16) : isHex (hexDigit n) = true :=
  isHex_of_digitValue? (digitValue?_hexDigit h) h

/-- A capital digit has the value of the small one. -/
theorem digitValue?_toUpper_hexDigit {n : Nat} (h : n < 16) :
    digitValue? (hexDigit n).toUpper = some n := by
  have hall : ∀ n < 16, digitValue? (hexDigit n).toUpper = some n := by decide
  exact hall n h

/-- A number is written with as many digits as it is asked for. -/
@[simp] theorem length_hexOfWidth (width n : Nat) : (hexOfWidth width n).length = width := by
  induction width generalizing n with
  | zero => rfl
  | succ width ih => rw [hexOfWidth, List.length_append, ih, List.length_singleton]

/-- Nothing but digits is written. -/
theorem exists_eq_hexDigit_of_mem {width n : Nat} {c : Char} (h : c ∈ hexOfWidth width n) :
    ∃ d < 16, c = hexDigit d := by
  induction width generalizing n with
  | zero => exact absurd h List.not_mem_nil
  | succ width ih =>
    rw [hexOfWidth, List.mem_append, List.mem_singleton] at h
    rcases h with h | rfl
    · exact ih h
    · exact ⟨n % 16, Nat.mod_lt n (by decide), rfl⟩

/-- So all that is written can be read as hexadecimal digits. -/
theorem all_isHex_hexOfWidth (width n : Nat) : (hexOfWidth width n).all isHex = true := by
  refine List.all_eq_true.2 fun c hc => ?_
  obtain ⟨d, hd, rfl⟩ := exists_eq_hexDigit_of_mem hc
  exact isHex_hexDigit hd

/-- Digits of a fixed width keep of a number what fits into the width. -/
theorem ofDigits_hexOfWidth (width n : Nat) :
    ofDigits 16 (hexOfWidth width n) = n % 16 ^ width := by
  induction width generalizing n with
  | zero => rw [Nat.pow_zero, Nat.mod_one]; rfl
  | succ width ih =>
    have hlast : n % 16 < 16 := Nat.mod_lt n (by decide)
    rw [hexOfWidth, ofDigits_concat, ih, digitValue?_hexDigit hlast, Option.getD_some,
      Nat.pow_succ', Nat.mod_mul]
    omega

/-- Capital digits read as the small ones do. -/
theorem ofDigits_upperHex_hexOfWidth (width n : Nat) :
    ofDigits 16 (upperHex (hexOfWidth width n)) = ofDigits 16 (hexOfWidth width n) := by
  induction width generalizing n with
  | zero => rfl
  | succ width ih =>
    have hlast : n % 16 < 16 := Nat.mod_lt n (by decide)
    have hupper : upperHex (hexOfWidth (width + 1) n) =
        upperHex (hexOfWidth width (n / 16)) ++ [(hexDigit (n % 16)).toUpper] := by
      rw [hexOfWidth, upperHex, List.map_append, List.map_singleton]
      rfl
    rw [hupper, hexOfWidth, ofDigits_concat, ofDigits_concat, ih, digitValue?_hexDigit hlast,
      digitValue?_toUpper_hexDigit hlast]

/-- Capital digits can be read as hexadecimal digits too. -/
theorem all_isHex_upperHex_hexOfWidth (width n : Nat) :
    (upperHex (hexOfWidth width n)).all isHex = true := by
  refine List.all_eq_true.2 fun c hc => ?_
  obtain ⟨b, hb, rfl⟩ := List.mem_map.1 hc
  obtain ⟨d, hd, rfl⟩ := exists_eq_hexDigit_of_mem hb
  exact isHex_of_digitValue? (digitValue?_toUpper_hexDigit hd) hd

/-- The code of a character, written with enough capital digits, reads as the character. -/
theorem charOfHex?_upperHex {c : Char} {width : Nat} (h : c.toNat < 16 ^ width) :
    charOfHex? (upperHex (hexOfWidth width c.toNat)) = some c := by
  have hvalid : c.toNat.isValidChar := c.valid
  unfold charOfHex?
  rw [if_pos (all_isHex_upperHex_hexOfWidth width c.toNat), ofDigits_upperHex_hexOfWidth,
    ofDigits_hexOfWidth, Nat.mod_eq_of_lt h]
  simp only [if_pos hvalid, c.ofNat_toNat]

/-! ## Decimal digits -/

/-- A decimal digit is worth its distance from zero. -/
theorem digitValue?_of_isDecimal {c : Char} (h : isDecimal c = true) :
    digitValue? c = some (c.toNat - '0'.toNat) := by
  rw [isDecimal, Bool.and_eq_true, decide_eq_true_eq, decide_eq_true_eq] at h
  rw [digitValue?, if_pos h]
  rfl

/-- The digits of radix ten are the decimal ones: the letters have values from ten on. -/
theorem isDigitOf_ten_iff {c : Char} : isDigitOf 10 c = true ↔ isDecimal c = true := by
  by_cases h : '0' ≤ c ∧ c ≤ '9'
  · have hle : c.toNat ≤ '9'.toNat := Char.le_def.1 h.2
    have hlt : c.toNat - 0x30 < 10 := Nat.lt_of_le_of_lt (Nat.sub_le_sub_right hle 0x30) (by decide)
    have hvalue : digitValue? c = some (c.toNat - 0x30) := if_pos h
    simp only [isDigitOf, hvalue, isDecimal, h.1, h.2, hlt, decide_true, Bool.and_self]
  · have hdecimal : ¬ isDecimal c = true := by
      rw [isDecimal, Bool.and_eq_true, decide_eq_true_eq, decide_eq_true_eq]
      exact h
    refine iff_of_false ?_ hdecimal
    unfold isDigitOf digitValue?
    rw [if_neg h]
    -- The letters, in either case, are worth ten and more, and what is none of them is worth
    -- nothing.
    split_ifs
    · simp
    · simp
    · simp

/-- Nothing but decimal digits is written in radix ten. -/
theorem isDecimal_of_mem_toDigits {n : Nat} {c : Char} (h : c ∈ Nat.toDigits 10 n) :
    isDecimal c = true := by
  have hdigit := Nat.isDigit_of_mem_toDigits (by decide) (by decide) h
  rw [Char.isDigit, Bool.and_eq_true, decide_eq_true_eq, decide_eq_true_eq] at hdigit
  rw [isDecimal, Bool.and_eq_true, decide_eq_true_eq, decide_eq_true_eq]
  exact hdigit

/-- A number is written with one digit at least. -/
theorem exists_toDigits_eq_decimal_cons (n : Nat) :
    ∃ c r, Nat.toDigits 10 n = c :: r ∧ isDecimal c = true := by
  obtain ⟨c, r, hcr⟩ := List.exists_cons_of_ne_nil (Nat.toDigits_ne_nil (n := n) (b := 10))
  refine ⟨c, r, hcr, isDecimal_of_mem_toDigits (n := n) ?_⟩
  rw [hcr]
  exact List.mem_cons_self

theorem digitValue?_digitChar {n : Nat} (h : n < 10) : digitValue? n.digitChar = some n := by
  have hall : ∀ n < 10, digitValue? n.digitChar = some n := by decide
  exact hall n h

/-- Decimal digits read as the number they were written from. -/
theorem ofDigits_toDigits (n : Nat) : ofDigits 10 (Nat.toDigits 10 n) = n := by
  induction n using Nat.strongRecOn with
  | ind n ih =>
    by_cases h : n < 10
    · rw [Nat.toDigits_of_lt_base h]
      show 0 * 10 + (digitValue? n.digitChar).getD 0 = n
      rw [digitValue?_digitChar h, Option.getD_some]
      omega
    · have hlast : n % 10 < 10 := Nat.mod_lt n (by decide)
      rw [Nat.toDigits_of_base_le (by decide) (Nat.not_lt.1 h), ofDigits_concat,
        ih (n / 10) (by omega), digitValue?_digitChar hlast, Option.getD_some]
      omega

/-- No number but zero is written with a zero in front. -/
theorem exists_toDigits_eq_cons {n : Nat} (hn : 0 < n) :
    ∃ c r, Nat.toDigits 10 n = c :: r ∧ c ≠ '0' := by
  induction n using Nat.strongRecOn with
  | ind n ih =>
    by_cases h : n < 10
    · have hall : ∀ m < 10, 0 < m → m.digitChar ≠ '0' := by decide
      exact ⟨n.digitChar, [], Nat.toDigits_of_lt_base h, hall n h hn⟩
    · obtain ⟨c, r, hcr, hc⟩ := ih (n / 10) (by omega) (by omega)
      rw [Nat.toDigits_of_base_le (by decide) (Nat.not_lt.1 h), hcr]
      exact ⟨c, _, rfl, hc⟩

theorem toList_toString_natCast (n : Nat) : (toString (n : Int)).toList = Nat.toDigits 10 n := by
  show (Nat.repr n).toList = _
  rw [Nat.repr_eq_ofList_toDigits, String.toList_ofList]

/-- A number below zero is written with a minus sign in front of them. -/
theorem toList_toString_negSucc (n : Nat) :
    (toString (Int.negSucc n)).toList = '-' :: Nat.toDigits 10 (n + 1) := by
  show ("-" ++ Nat.repr (n + 1)).toList = _
  rw [Nat.repr_eq_ofList_toDigits, String.toList_append]
  exact congrArg ('-' :: ·) String.toList_ofList

/-- So a number starts with a digit or a minus sign, by which a reader knows it. -/
theorem exists_toString_eq_cons (i : Int) :
    ∃ c r, (toString i).toList = c :: r ∧ (isDecimal c = true ∨ c = '-') := by
  cases i with
  | ofNat n =>
    obtain ⟨c, r, hcr, hc⟩ := exists_toDigits_eq_decimal_cons n
    exact ⟨c, r, (toList_toString_natCast n).trans hcr, Or.inl hc⟩
  | negSucc n => exact ⟨'-', _, toList_toString_negSucc n, Or.inr rfl⟩

/-- A number of few digits is no number that a double cannot hold. -/
theorem overflowsDouble_of_lt {n width : Nat} (hwidth : width < 300) (h : n < 10 ^ width) :
    overflowsDouble n 0 = false := by
  unfold overflowsDouble
  refine if_pos ?_
  rcases Nat.eq_zero_or_pos n with hn | hn
  · exact Or.inl hn
  · -- A number of no digits is zero, which has been dealt with.
    have hpos : 0 < width := by
      refine Nat.pos_of_ne_zero fun hzero => ?_
      rw [hzero, Nat.pow_zero] at h
      omega
    have hlength := (Nat.length_toDigits_le_iff (by decide) hpos).2 h
    right
    omega

end CredentialPolicy.Text
