import CredentialPolicy.Json.Token
import CredentialPolicy.Json.Writer
import CredentialPolicy.Proofs.Text.Digits

/-!
Written texts and numbers are read as one token.

A text is read character by character: whatever a character is written as, it is read as the one
code unit of that character (`readUnits_escapeChar`), and since no character is a surrogate, the
code units make up the text again (`decodeUnits_map_toNat`). An integer is read as far as its digits
go, so what follows it must not continue it (`EndsNumber`).
-/

set_option autoImplicit false

namespace CredentialPolicy.Json

open Document (Value)
open Text (isDecimal isHex ofDigits)

/-! ## Texts -/

/-- An escape of one letter stands for one code unit. -/
theorem readUnits_shortEscape {c e : Char} (hc : c ≠ 'u') (he : escaped? c = some e)
    (s : List Char) :
    readUnits ('\\' :: c :: s) =
      (readUnits s).map fun (units, rest) => (e.toNat :: units, rest) := by
  rw [readUnits, he]
  rintro a b d f r rfl
  exact absurd rfl hc

/-- Whatever a character is written as, it is read as its own code. -/
theorem readUnits_escapeChar (c : Char) (s : List Char) :
    readUnits (escapeChar c ++ s) =
      (readUnits s).map fun (units, rest) => (c.toNat :: units, rest) := by
  unfold escapeChar
  split
  case h_8 hquote hbackslash _ _ _ _ _ =>
    split
    · next hcontrol =>
      -- Four digits hold the code of every control character.
      obtain ⟨d₁, d₂, d₃, d₄, hdigits⟩ :
          ∃ d₁ d₂ d₃ d₄, Text.hexOfWidth 4 c.toNat = [d₁, d₂, d₃, d₄] := ⟨_, _, _, _, rfl⟩
      have hhex := Text.all_isHex_hexOfWidth 4 c.toNat
      have hvalue := Text.ofDigits_hexOfWidth 4 c.toNat
      have hsmall : c.toNat % 16 ^ 4 = c.toNat := Nat.mod_eq_of_lt (by omega)
      rw [hdigits] at hhex hvalue ⊢
      rw [hsmall] at hvalue
      simp only [List.cons_append, List.nil_append, readUnits]
      rw [if_pos hhex, hvalue]
    · next hplain =>
      rw [List.singleton_append, readUnits]
      · rw [if_neg (not_or.2 ⟨hplain, hbackslash⟩)]
      all_goals simp_all
  all_goals exact readUnits_shortEscape (by decide) rfl s

/-- A written text is read up to the quote behind it. No quote inside can end it, since that is
escaped. -/
theorem readUnits_flatMap_escapeChar (s rest : List Char) :
    readUnits (s.flatMap escapeChar ++ '"' :: rest) = some (s.map Char.toNat, rest) := by
  induction s with
  | nil => rfl
  | cons c s ih =>
    rw [List.flatMap_cons, List.append_assoc, readUnits_escapeChar, ih]
    rfl

/-- No character is half of a surrogate pair. -/
theorem isSurrogate_toNat (c : Char) :
    isHighSurrogate c.toNat = false ∧ isLowSurrogate c.toNat = false := by
  have hvalid : c.toNat < 0xD800 ∨ 0xDFFF < c.toNat := c.valid.imp id And.left
  simp only [isHighSurrogate, isLowSurrogate, Bool.and_eq_false_iff, decide_eq_false_iff_not]
  omega

/-- The codes of characters make up the text again, since no two of them are taken for a pair. -/
theorem decodeUnits_map_toNat (s : List Char) : decodeUnits (s.map Char.toNat) = some s := by
  induction s with
  | nil => rfl
  | cons c s ih =>
    obtain ⟨hhigh, hlow⟩ := isSurrogate_toNat c
    rw [List.map_cons, decodeUnits.eq_def]
    simp only [hhigh, hlow, ih, Bool.false_eq_true, if_false, Option.map_some, c.ofNat_toNat]

/-- A text between quotes is read as itself, whatever follows it. -/
theorem readToken_quote (s : String) (rest : List Char) :
    readToken (quote s ++ rest) = some (.text (some s), rest) := by
  have hread : readText (s.toList.flatMap escapeChar ++ '"' :: rest) = some (some s, rest) := by
    simp only [readText, readUnits_flatMap_escapeChar, decodeUnits_map_toNat, Option.map_some,
      String.ofList_toList]
  rw [quote, List.cons_append, List.cons_append, List.append_assoc, List.singleton_append,
    readToken, hread, Option.map_some]

/-! ## Integers -/

/-- The text does not continue a number that stands before it. -/
def EndsNumber (rest : List Char) : Prop :=
  ∀ c ∈ rest.head?, isDecimal c = false ∧ c ≠ '.' ∧ c ≠ 'e' ∧ c ≠ 'E'

theorem endsNumber_nil : EndsNumber [] := fun _ hc => nomatch hc

theorem endsNumber_cons {c : Char} (h : isDecimal c = false ∧ c ≠ '.' ∧ c ≠ 'e' ∧ c ≠ 'E')
    (rest : List Char) : EndsNumber (c :: rest) := fun _ hd => Option.some.inj hd ▸ h

/-- Digits are read to the last. -/
theorem readDigits_toDigits (n : Nat) {rest : List Char} (hrest : EndsNumber rest) :
    readDigits (Nat.toDigits 10 n ++ rest) = some (Nat.toDigits 10 n, rest) := by
  unfold readDigits
  rw [Text.span_append_of_all (fun _ => Text.isDecimal_of_mem_toDigits)
    fun c hc => (hrest c hc).1]
  have hne : (Nat.toDigits 10 n).isEmpty = false := List.isEmpty_eq_false_iff.2 Nat.toDigits_ne_nil
  simp only [hne, Bool.false_eq_true, if_false]

/-- A written number has no leading zero, so its digits are all read. -/
theorem readWhole_toDigits (n : Nat) {rest : List Char} (hrest : EndsNumber rest) :
    readWhole (Nat.toDigits 10 n ++ rest) = some (Nat.toDigits 10 n, rest) := by
  rcases Nat.eq_zero_or_pos n with rfl | hpos
  · rw [Nat.toDigits_zero]
    rfl
  · obtain ⟨c, r, hcr, hc⟩ := Text.exists_toDigits_eq_cons hpos
    have hdigits := readDigits_toDigits n hrest
    rw [hcr, List.cons_append] at hdigits ⊢
    rw [readWhole]
    · exact hdigits
    · intro r' heq
      exact hc (List.cons.inj heq).1

/-- There is no fraction without a point. -/
theorem readFraction_of_endsNumber {rest : List Char} (hrest : EndsNumber rest) :
    readFraction rest = some (none, rest) := by
  rw [readFraction]
  rintro r rfl
  exact (hrest '.' rfl).2.1 rfl

/-- There is no exponent without its letter. -/
theorem readExponent_of_endsNumber {rest : List Char} (hrest : EndsNumber rest) :
    readExponent rest = some (none, rest) := by
  rw [readExponent]
  · rintro r rfl
    exact (hrest 'e' rfl).2.2.1 rfl
  · rintro r rfl
    exact (hrest 'E' rfl).2.2.2 rfl

/-- Digits without a fraction or an exponent make an integer. Minus zero is the exception: it is a
double. -/
theorem numberValue_toDigits {n : Nat} (negative : Bool) (hn : Text.overflowsDouble n 0 = false)
    (hzero : negative = true → n ≠ 0) :
    numberValue negative (Nat.toDigits 10 n) none none =
      .int (if negative then -(n : Int) else n) := by
  have hscale : (0 : Int) - (([] : List Char).length : Nat) = 0 := rfl
  simp only [numberValue, Option.getD_none, List.append_nil, Text.ofDigits_toDigits, hscale, hn]
  cases negative with
  | false => rfl
  | true =>
    have hne : (n == 0) = false := beq_false_of_ne (hzero rfl)
    rw [hne]
    rfl

/-- A number without a fraction or an exponent is its sign and its whole part. -/
theorem readNumber_of_readWhole {s digits rest : List Char}
    (hwhole : readWhole s = some (digits, rest)) (hrest : EndsNumber rest) :
    readNumber ('-' :: s) = some (numberValue true digits none none, rest) ∧
      ((∀ r, s ≠ '-' :: r) →
        readNumber s = some (numberValue false digits none none, rest)) := by
  have hfraction := readFraction_of_endsNumber hrest
  have hexponent := readExponent_of_endsNumber hrest
  constructor
  · rw [readNumber, hwhole]
    simp only [Option.bind_eq_bind, Option.bind_some, hfraction, hexponent]
    rfl
  · intro hsign
    rw [readNumber, hwhole]
    · simp only [Option.bind_eq_bind, Option.bind_some, hfraction, hexponent]
      rfl
    · exact hsign

/-- An integer that a double can hold is read as itself. -/
theorem readNumber_toString (i : Int) (hi : Text.overflowsDouble i.natAbs 0 = false)
    {rest : List Char} (hrest : EndsNumber rest) :
    readNumber ((toString i).toList ++ rest) = some (.int i, rest) := by
  cases i with
  | ofNat n =>
    rw [Int.ofNat_eq_natCast, Text.toList_toString_natCast]
    -- A digit is no sign.
    have hsign : ∀ r, Nat.toDigits 10 n ++ rest ≠ '-' :: r := by
      obtain ⟨c, r, hcr, hc⟩ := Text.exists_toDigits_eq_decimal_cons n
      rw [hcr]
      rintro r' heq
      obtain ⟨rfl, -⟩ := List.cons.inj heq
      exact absurd hc (by decide)
    rw [(readNumber_of_readWhole (readWhole_toDigits n hrest) hrest).2 hsign,
      numberValue_toDigits (n := n) false hi nofun]
    rfl
  | negSucc n =>
    rw [Text.toList_toString_negSucc, List.cons_append,
      (readNumber_of_readWhole (readWhole_toDigits (n + 1) hrest) hrest).1,
      numberValue_toDigits (n := n + 1) true hi fun _ => Nat.succ_ne_zero n]
    rfl

/-- A token that starts with a digit or a sign is a number. -/
theorem readToken_of_number {c : Char} (hc : isDecimal c = true ∨ c = '-') (r : List Char) :
    readToken (c :: r) = (readNumber (c :: r)).map fun (v, rest) => (.scalar v, rest) := by
  rw [readToken]
  all_goals
    intros
    rename_i heq
    obtain ⟨rfl, -⟩ := List.cons.inj heq
    exact absurd hc (by decide)

/-- A written integer is one token. -/
theorem readToken_toString (i : Int) (hi : Text.overflowsDouble i.natAbs 0 = false)
    {rest : List Char} (hrest : EndsNumber rest) :
    readToken ((toString i).toList ++ rest) = some (.scalar (.int i), rest) := by
  obtain ⟨c, r, hcr, hc⟩ := Text.exists_toString_eq_cons i
  have hread := readNumber_toString i hi hrest
  rw [hcr, List.cons_append] at hread ⊢
  rw [readToken_of_number hc, hread]
  rfl

end CredentialPolicy.Json
