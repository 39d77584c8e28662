import CredentialPolicy.Proofs.Toml.Text
import CredentialPolicy.Toml.Scalar

/-!
Written TOML scalars are read as themselves.

Numbers are what takes work. Digits may begin a date or a time as well as a number, so the reader
tries these first, and then a number with a fraction or an exponent. None of them finds what it
needs before the line ends: a date needs a hyphen behind four digits and a time a colon behind two,
and where the digits end there is a line feed (`after?_append`).
-/

set_option autoImplicit false

namespace CredentialPolicy.Toml

open Document (Value)
open Text (isDecimal isDigitOf digitValue? ofDigits)

/-- A scalar that a line holds: a truth value, an integer of 64 bits or a text. -/
inductive IsScalar : Value → Prop where
  | bool (b : Bool) : IsScalar (.bool b)
  | int (i : Int) (h : -0x8000000000000000 ≤ i ∧ i < 0x8000000000000000) : IsScalar (.int i)
  | text (s : String) : IsScalar (.text s)

/-! ## Digits at the end of a line -/

/-- Digits go on to the end of the line, since nothing joins them to what is behind it. -/
theorem moreDigits_append {ds : List Char} (h : ∀ c ∈ ds, isDecimal c = true) (rest : List Char) :
    moreDigits 10 (ds ++ '\n' :: rest) = (ds, '\n' :: rest) := by
  induction ds with
  | nil =>
    rw [List.nil_append, moreDigits]
    · rfl
    · exact nofun
  | cons c ds ih =>
    obtain ⟨hc, hds⟩ := List.forall_mem_cons.1 h
    rw [List.cons_append, moreDigits, if_pos (Text.isDigitOf_ten_iff.2 hc), ih hds]
    exact fun _ _ heq => absurd heq (Text.ne_of_test hc rfl)

/-- The digits at the end of a line are read to the last. -/
theorem readDigits_append {ds : List Char} (h : ∀ c ∈ ds, isDecimal c = true) (hne : ds ≠ [])
    (rest : List Char) : readDigits 10 (ds ++ '\n' :: rest) = some (ds, '\n' :: rest) := by
  cases ds with
  | nil => exact absurd rfl hne
  | cons c ds =>
    obtain ⟨hc, hds⟩ := List.forall_mem_cons.1 h
    rw [List.cons_append, readDigits, if_pos (Text.isDigitOf_ten_iff.2 hc), moreDigits_append hds]

/-! ## Neither dates nor times -/

/-- What some digits before the end of a line start with is some of the digits, if it is digits. -/
theorem exists_append_of_append_eq {ds p rest r : List Char} (hp : ∀ c ∈ p, isDecimal c = true)
    (h : ds ++ '\n' :: rest = p ++ r) : ∃ ds', ds = p ++ ds' ∧ r = ds' ++ '\n' :: rest := by
  obtain ⟨t, hpt, ht⟩ | ⟨ds', hds, hr⟩ := List.append_eq_append_iff.1 h
  · cases t with
    | nil => exact ⟨[], by rw [hpt, List.append_nil, List.append_nil], ht.symm⟩
    | cons c t =>
      have hc : c ∈ p := hpt ▸ List.mem_append_right ds List.mem_cons_self
      exact absurd (List.cons.inj ht).1.symm (Text.ne_of_test (hp c hc) rfl)
  · exact ⟨ds', hds, hr⟩

/-- Among digits and at the end of their line stands no other character. -/
theorem after?_append {ds : List Char} (h : ∀ c ∈ ds, isDecimal c = true) {c : Char}
    (hc : isDecimal c = false) (hbreak : c ≠ '\n') (rest : List Char) :
    after? c (ds ++ '\n' :: rest) = none := by
  cases ds with
  | nil => exact if_neg (Ne.symm hbreak)
  | cons d ds => exact if_neg (Text.ne_of_test (h d List.mem_cons_self) hc)

/-- Behind four digits a date has a dash, and here are only digits. -/
theorem afterDate?_append {ds : List Char} (h : ∀ c ∈ ds, isDecimal c = true) (rest : List Char) :
    afterDate? (ds ++ '\n' :: rest) = none := by
  unfold afterDate?
  split
  case h_1 a b c d r heq =>
    split_ifs with hdigits
    · obtain ⟨ds', rfl, rfl⟩ := exists_append_of_append_eq (List.all_eq_true.1 hdigits) heq
      rw [after?_append (List.forall_mem_append.1 h).2 rfl (by decide)]
      rfl
    · rfl
  case h_2 => rfl

/-- Behind two digits that are read there are more digits, and then the end of the line. -/
theorem exists_append_of_readTwo {ds : List Char} (h : ∀ c ∈ ds, isDecimal c = true)
    {lo hi n : Nat} {rest r : List Char}
    (hread : readTwo lo hi (ds ++ '\n' :: rest) = some (n, r)) :
    ∃ ds', (∀ c ∈ ds', isDecimal c = true) ∧ r = ds' ++ '\n' :: rest := by
  unfold readTwo at hread
  split at hread
  case h_1 a b r heq =>
    dsimp only at hread
    split_ifs at hread with hdigits
    cases hread
    simp only [Bool.and_eq_true] at hdigits
    have hall : ∀ c ∈ [a, b], isDecimal c = true := by simp [hdigits]
    obtain ⟨ds', rfl, hr⟩ := exists_append_of_append_eq (p := [a, b]) hall heq
    exact ⟨ds', (List.forall_mem_append.1 h).2, hr⟩
  case h_2 => exact absurd hread nofun

/-- Behind two digits a time has a colon, and here are only digits. -/
theorem afterTime?_append {ds : List Char} (h : ∀ c ∈ ds, isDecimal c = true) (rest : List Char) :
    afterTime? (ds ++ '\n' :: rest) = none := by
  unfold afterTime?
  cases hread : readTwo 0 23 (ds ++ '\n' :: rest) with
  | none => rfl
  | some hour =>
    obtain ⟨n, r⟩ := hour
    obtain ⟨ds', hds', rfl⟩ := exists_append_of_readTwo h hread
    simp only [Option.bind_eq_bind, Option.bind_some,
      after?_append hds' (c := ':') rfl (by decide) rest, Option.bind_none]

/-- A minus starts neither a date nor a time. -/
theorem afterDateTime?_minus (s : List Char) : afterDateTime? ('-' :: s) = none := by
  have hdate : afterDate? ('-' :: s) = none := by
    unfold afterDate?
    split
    case h_1 a b c d r heq =>
      rw [← (List.cons.inj heq).1]
      rfl
    case h_2 => rfl
  have hhour : readTwo 0 23 ('-' :: s) = none := by
    unfold readTwo
    split
    case h_1 a b r heq =>
      rw [← (List.cons.inj heq).1]
      rfl
    case h_2 => rfl
  rw [afterDateTime?, hdate]
  simp only [afterTime?, hhour, Option.bind_eq_bind, Option.bind_none]

/-- Digits are neither a date nor a time. -/
theorem afterDateTime?_append {ds : List Char} (h : ∀ c ∈ ds, isDecimal c = true)
    (rest : List Char) : afterDateTime? (ds ++ '\n' :: rest) = none := by
  rw [afterDateTime?, afterDate?_append h rest]
  exact afterTime?_append h rest

/-! ## Integers -/

/-- Behind an optional sign, the digits of a number are read as a whole number. -/
theorem readWhole_of_readSign {s rest : List Char} {negative : Bool} {n : Nat}
    (h : readSign s = (negative, Nat.toDigits 10 n ++ '\n' :: rest)) :
    readWhole s = some (negative, Nat.toDigits 10 n, '\n' :: rest) := by
  have hdigits : readDigits 10 (Nat.toDigits 10 n ++ '\n' :: rest) =
      some (Nat.toDigits 10 n, '\n' :: rest) :=
    readDigits_append (fun _ => Text.isDecimal_of_mem_toDigits) Nat.toDigits_ne_nil rest
  rw [readWhole, h]
  -- A zero in front may only stand alone.
  rcases Nat.eq_zero_or_pos n with rfl | hpos
  · rfl
  · obtain ⟨c, r, hcr, hc⟩ := Text.exists_toDigits_eq_cons hpos
    rw [hcr] at hdigits ⊢
    split
    case h_1 r' heq => exact absurd (List.cons.inj (Prod.ext_iff.1 heq).2).1 hc
    case h_2 heq =>
      cases heq
      rw [hdigits]
      rfl

/-- A whole number at the end of a line is neither another number nor the start of one. -/
theorem readNumber_of_readSign {s rest : List Char} {negative : Bool} {n : Nat} {v : Value}
    (hsign : readSign s = (negative, Nat.toDigits 10 n ++ '\n' :: rest))
    (hdate : afterDateTime? s = none) (hzero : ∀ c r, s = '0' :: c :: r → c = '\n')
    (hv : int64? negative n = some v) : readNumber s = some (v, '\n' :: rest) := by
  have hwhole := readWhole_of_readSign hsign
  -- The other forms of a number are tried first, and none of them is there.
  have hreal : readReal s = none := by
    rw [readReal, hwhole]
    rfl
  have hfinite : readNotFinite s = none := by
    obtain ⟨c, r, hcr, hc⟩ := Text.exists_toDigits_eq_decimal_cons n
    rw [readNotFinite, hsign, hcr]
    split
    case h_1 r' heq => exact absurd (List.cons.inj heq).1 (Text.ne_of_test hc rfl)
    case h_2 r' heq => exact absurd (List.cons.inj heq).1 (Text.ne_of_test hc rfl)
    case h_3 => rfl
  have hinteger : readInteger s = some (v, '\n' :: rest) := by
    rw [readInteger, hwhole]
    · simp only [Option.bind_eq_bind, Option.bind_some, Text.ofDigits_toDigits, hv]
      rfl
    all_goals
      intro r heq
      exact absurd (hzero _ r heq) (by decide)
  rw [readNumber, readDateTime, hdate, hreal, hfinite, hinteger]
  rfl

/-- A written integer is read as itself at the end of a line. -/
theorem readNumber_toString {i : Int} (h : -0x8000000000000000 ≤ i ∧ i < 0x8000000000000000)
    (rest : List Char) :
    readNumber ((toString i).toList ++ '\n' :: rest) = some (.int i, '\n' :: rest) := by
  cases i with
  | ofNat n =>
    rw [Int.ofNat_eq_natCast] at h ⊢
    have hi : int64? false n = some (.int n) :=
      (if_neg Bool.false_ne_true).trans (if_pos (by omega))
    have hdate := afterDateTime?_append (fun _ => Text.isDecimal_of_mem_toDigits (n := n)) rest
    rw [Text.toList_toString_natCast]
    refine readNumber_of_readSign ?_ hdate ?_ hi
    · obtain ⟨d, r, hdr, hd⟩ := Text.exists_toDigits_eq_decimal_cons n
      rw [hdr, List.cons_append, readSign]
      · exact fun _ heq => absurd (List.cons.inj heq).1 (Text.ne_of_test hd rfl)
      · exact fun _ heq => absurd (List.cons.inj heq).1 (Text.ne_of_test hd rfl)
    · -- A zero at the start is the whole number, so the line ends behind it.
      intro c r heq
      rcases Nat.eq_zero_or_pos n with rfl | hpos
      · exact (List.cons.inj (List.cons.inj heq).2).1.symm
      · obtain ⟨d, r', hdr, hd⟩ := Text.exists_toDigits_eq_cons hpos
        rw [hdr] at heq
        exact absurd (List.cons.inj heq).1 hd
  | negSucc n =>
    have hi : int64? true (n + 1) = some (.int (Int.negSucc n)) :=
      (if_pos rfl).trans (if_pos (by omega))
    rw [Text.toList_toString_negSucc]
    exact readNumber_of_readSign rfl (afterDateTime?_minus _)
      (fun c r heq => absurd (List.cons.inj heq).1 (by decide)) hi

/-! ## Scalars -/

/-- A written text stands between quotes or apostrophes. -/
theorem exists_writeText_eq_cons (s : List Char) :
    ∃ c r, writeText s = c :: r ∧ (c = '"' ∨ c = '\'') := by
  unfold writeText
  cases TextForm.ofText s with
  | basic => exact ⟨_, _, rfl, Or.inl rfl⟩
  | literal => exact ⟨_, _, rfl, Or.inr rfl⟩
  | basicLines => exact ⟨_, _, rfl, Or.inl rfl⟩
  | literalLines => exact ⟨_, _, rfl, Or.inr rfl⟩

theorem ne_of_number {c d : Char} (h : isDecimal c = true ∨ c = '-')
    (hd : isDecimal d = false ∧ d ≠ '-') : c ≠ d := by
  rintro rfl
  exact h.elim (Bool.eq_false_iff.1 hd.1) hd.2

/-- No number starts with a quote, so it is not read as a text. -/
theorem readText_of_number {c : Char} (h : isDecimal c = true ∨ c = '-') (r : List Char) :
    readText (c :: r) = none := by
  rw [readText]
  all_goals
    intro r' heq
    exact ne_of_number h (by decide) (List.cons.inj heq).1

/-- No scalar starts with a blank or the bracket of a list or a record. -/
theorem exists_writeScalar_eq_cons {v : Value} (h : IsScalar v) :
    ∃ c r, writeScalar v = c :: r ∧ isBlank c = false ∧ c ≠ '[' ∧ c ≠ '{' := by
  cases h with
  | bool b =>
    cases b with
    | false => exact ⟨_, _, rfl, by decide⟩
    | true => exact ⟨_, _, rfl, by decide⟩
  | int i h =>
    obtain ⟨c, r, hcr, hc⟩ := Text.exists_toString_eq_cons i
    have hspace : c ≠ ' ' := ne_of_number hc (by decide)
    have htab : c ≠ '\t' := ne_of_number hc (by decide)
    have hblank : isBlank c = false := by simp [isBlank, hspace, htab]
    exact ⟨c, r, hcr, hblank, ne_of_number hc (by decide), ne_of_number hc (by decide)⟩
  | text s =>
    obtain ⟨c, r, hcr, rfl | rfl⟩ := exists_writeText_eq_cons s.toList
    · exact ⟨_, r, hcr, by decide⟩
    · exact ⟨_, r, hcr, by decide⟩

/-- A written scalar is read as itself at the end of a line. -/
theorem readScalar_writeScalar {v : Value} (h : IsScalar v) (rest : List Char) :
    readScalar (writeScalar v ++ '\n' :: rest) = some (v, '\n' :: rest) := by
  cases h with
  | bool b =>
    cases b with
    | false => rfl
    | true => rfl
  | int i h =>
    have hread := readNumber_toString h rest
    obtain ⟨c, r, hcr, hc⟩ := Text.exists_toString_eq_cons i
    rw [hcr, List.cons_append] at hread
    rw [writeScalar, hcr, List.cons_append, readScalar, readText_of_number hc, hread]
    -- No number starts like a truth value.
    all_goals
      intro r' heq
      exact ne_of_number hc (by decide) (List.cons.inj heq).1
  | text s =>
    have hread := readText_writeText s.toList rest
    obtain ⟨c, r, hcr, hc⟩ := exists_writeText_eq_cons s.toList
    -- No text starts like a truth value.
    have hletter : c ≠ 't' ∧ c ≠ 'f' := by
      obtain rfl | rfl := hc
      · decide
      · decide
    rw [writeScalar, readScalar, hread]
    · simp only [String.ofList_toList]
    · rw [hcr]
      exact fun r' heq => hletter.1 (List.cons.inj heq).1
    · rw [hcr]
      exact fun r' heq => hletter.2 (List.cons.inj heq).1

end CredentialPolicy.Toml
