import CredentialPolicy.Proofs.Text.Digits
import CredentialPolicy.Toml.Text
import CredentialPolicy.Toml.Writer

/-!
Written TOML texts are read as themselves.

The writer has four forms to choose from. Those with escapes suit every text: both readers of basic
texts know the same escapes (`ReadsEscapes`), so whatever a character is written as, it is read as
that character. Those without escapes suit only some texts, and these are the ones that they are
chosen for (`TextForm.ofText_eq_literal`, `TextForm.ofText_eq_literalLines`).

Over several lines, delimiters may stand in the text as they are. A reader takes three of them for
the end of the text, and one or two right before the last three as part of it. So what counts is
that at most two stand in a row; the induction over the text keeps those that have just been passed
in front of what is still to be read (`readBasicLines_escaped`, `readLiteralLines_append`).
-/

set_option autoImplicit false

namespace CredentialPolicy.Toml

open Text (charOfHex? hexOfWidth upperHex)

/-! ## Characters -/

/-- Characters that need no escape are plain, but for the line feed. -/
theorem isPlain_of_needsEscape {c : Char} (h : needsEscape c = false) (hbreak : c ≠ '\n') :
    isPlain c = true := by
  by_cases htab : c = '\t'
  · rw [htab]
    decide
  · simp only [needsEscape, Bool.and_eq_false_iff, Bool.or_eq_false_iff, decide_eq_false_iff_not,
      htab, hbreak, not_true_eq_false, ne_eq, not_false_eq_true, or_false] at h
    simp only [isPlain, Bool.or_eq_true, Bool.and_eq_true, decide_eq_true_eq]
    omega

theorem escaped?_quote : escaped? '"' = some '"' := rfl

/-- The letter that is written for a character is read as that character. -/
theorem escaped?_of_shortEscape? {c letter : Char} (h : shortEscape? c = some letter) :
    escaped? letter = some c := by
  unfold shortEscape? at h
  split at h
  all_goals
    cases h
    try rfl

/-- The ways in which a character other than a quote is written in a text with escapes. -/
inductive Written (lines : Bool) (c : Char) : List Char → Prop where
  /-- A line feed as it is, over several lines. -/
  | lineFeed (hlines : lines = true) (hc : c = '\n') : Written lines c ['\n']
  /-- An escape of one letter. -/
  | short {letter : Char} (h : escaped? letter = some c) : Written lines c ['\\', letter]
  /-- An escape by its code. -/
  | code (h : c.toNat < 16 ^ 4) :
    Written lines c ('\\' :: 'u' :: upperHex (hexOfWidth 4 c.toNat))
  /-- The character as it is. -/
  | plain (h : isPlain c = true) (hbackslash : c ≠ '\\') : Written lines c [c]

theorem escaped_quote (lines : Bool) {allowed quotes : Nat} (h : quotes < allowed)
    (r : List Char) :
    escaped lines allowed quotes ('"' :: r) = '"' :: escaped lines allowed (quotes + 1) r := by
  rw [escaped, if_pos rfl, if_pos h]

/-- A quote that would be one too many is escaped, and the count starts anew behind it. -/
theorem escaped_quote_of_le (lines : Bool) {allowed quotes : Nat} (h : allowed ≤ quotes)
    (r : List Char) :
    escaped lines allowed quotes ('"' :: r) = '\\' :: '"' :: escaped lines allowed 0 r := by
  rw [escaped, if_pos rfl, if_neg (Nat.not_lt.2 h)]

/-- Every other character is written in one of the ways, whatever stands around it. -/
theorem exists_written (lines : Bool) (allowed quotes : Nat) {c : Char} (h : c ≠ '"')
    (r : List Char) :
    ∃ text, Written lines c text ∧
      escaped lines allowed quotes (c :: r) = text ++ escaped lines allowed 0 r := by
  rw [escaped, if_neg h]
  by_cases hbreak : c = '\n'
  · rw [if_pos hbreak]
    cases lines with
    | true => exact ⟨_, .lineFeed rfl hbreak, rfl⟩
    | false => exact ⟨_, .short (show escaped? 'n' = some c from hbreak ▸ rfl), rfl⟩
  · rw [if_neg hbreak]
    cases hshort : shortEscape? c with
    | some letter => exact ⟨_, .short (escaped?_of_shortEscape? hshort), rfl⟩
    | none =>
      by_cases hcontrol : needsEscape c = true
      · have hcode : c.toNat < 16 ^ 4 := by
          simp only [needsEscape, Bool.and_eq_true, Bool.or_eq_true, decide_eq_true_eq] at hcontrol
          omega
        exact ⟨_, .code hcode, if_pos hcontrol⟩
      · have hbackslash : c ≠ '\\' := by
          rintro rfl
          exact absurd hshort (by decide)
        exact ⟨_, .plain (isPlain_of_needsEscape (Bool.eq_false_iff.2 hcontrol) hbreak) hbackslash,
          if_neg hcontrol⟩

/-- No way of writing a character other than a quote starts with a quote, or with a carriage
return. -/
theorem Written.exists_eq_cons {lines : Bool} {c : Char} {text : List Char}
    (h : Written lines c text) (hc : c ≠ '"') :
    ∃ d r, text = d :: r ∧ d ≠ '"' ∧ d ≠ '\r' ∧ (d = '\n' → c = '\n') := by
  cases h with
  | lineFeed hlines hbreak => exact ⟨_, _, rfl, by decide, by decide, fun _ => hbreak⟩
  | short h => exact ⟨_, _, rfl, by decide, by decide, nofun⟩
  | code h => exact ⟨_, _, rfl, by decide, by decide, nofun⟩
  | plain h hbackslash =>
    refine ⟨_, _, rfl, hc, ?_, id⟩
    rintro rfl
    exact absurd h (by decide)

/-! ## Escapes -/

/-- The reader knows escapes, and takes plain characters as they are. -/
structure ReadsEscapes (read : List Char → Option (List Char × List Char)) : Prop where
  /-- An escape of one letter. -/
  short : ∀ {letter x : Char}, escaped? letter = some x → ∀ r,
    read ('\\' :: letter :: r) = consRead x (read r)
  /-- An escape by the code of the character. -/
  code : ∀ {a b c d x : Char}, charOfHex? [a, b, c, d] = some x → ∀ r,
    read ('\\' :: 'u' :: a :: b :: c :: d :: r) = consRead x (read r)
  /-- A plain character. -/
  plain : ∀ {c : Char}, isPlain c = true → c ≠ '\\' → c ≠ '"' → ∀ r,
    read (c :: r) = consRead c (read r)

/-- Whatever a character is written as, it is read as itself. -/
theorem ReadsEscapes.read_written {read : List Char → Option (List Char × List Char)}
    (h : ReadsEscapes read) {lines : Bool} {c : Char} {text : List Char}
    (htext : Written lines c text) (hc : c ≠ '"')
    (hlines : lines = true → ∀ r, read ('\n' :: r) = consRead '\n' (read r)) (r : List Char) :
    read (text ++ r) = consRead c (read r) := by
  cases htext with
  | lineFeed hover hbreak => exact hbreak ▸ hlines hover r
  | short hletter => exact h.short hletter r
  | plain hplain hbackslash => exact h.plain hplain hbackslash hc r
  | code hcode =>
    have hread := Text.charOfHex?_upperHex hcode
    obtain ⟨d₁, d₂, d₃, d₄, hdigits⟩ :
        ∃ d₁ d₂ d₃ d₄, upperHex (hexOfWidth 4 c.toNat) = [d₁, d₂, d₃, d₄] := ⟨_, _, _, _, rfl⟩
    rw [hdigits] at hread ⊢
    exact h.code hread r

/-- Texts on one line are read by escapes. -/
theorem readsEscapes_readBasic : ReadsEscapes readBasic where
  short := by
    intro letter x h r
    rw [readBasic, h]
    · rintro a b c d r rfl
      exact absurd h nofun
    · rintro a b c d e f g i r rfl
      exact absurd h nofun
  code := by
    intro a b c d x h r
    rw [readBasic, h]
  plain := by
    intro c hplain hbackslash hquote r
    rw [readBasic]
    · simp [hplain, hbackslash]
    all_goals simp [hbackslash, hquote]

/-- Only a line feed or a carriage return breaks a line. -/
theorem afterBreak?_of_ne {c : Char} (hn : c ≠ '\n') (hr : c ≠ '\r') (r : List Char) :
    afterBreak? (c :: r) = none := by
  rw [afterBreak?]
  · exact fun _ heq => hn (List.cons.inj heq).1
  · exact fun _ heq => hr (List.cons.inj heq).1

/-- The letter of an escape does not end a line. -/
theorem endsLine_of_escaped? {letter x : Char} (h : escaped? letter = some x) (r : List Char) :
    endsLine (letter :: r) = false := by
  have hblank : ¬ isBlank letter = true := by
    intro hblank
    simp only [isBlank, Bool.or_eq_true, decide_eq_true_eq] at hblank
    obtain rfl | rfl := hblank
    all_goals exact absurd h nofun
  rw [endsLine, skipBlanks, List.dropWhile_cons_of_neg hblank, afterBreak?_of_ne]
  · rfl
  · rintro rfl
    exact absurd h nofun
  · rintro rfl
    exact absurd h nofun

/-- Texts over several lines are read by escapes as well. A backslash at the end of a line would be
no escape, but no letter of an escape ends a line. -/
theorem readsEscapes_readBasicLines : ReadsEscapes (readBasicLines false) where
  short := by
    intro letter x h r
    rw [readBasicLines, endsLine_of_escaped? h, h]
    · rfl
    · rintro a b c d r rfl
      exact absurd h nofun
    · rintro a b c d e f g i r rfl
      exact absurd h nofun
  code := by
    intro a b c d x h r
    rw [readBasicLines, h]
  plain := by
    intro c hplain hbackslash hquote r
    have hbreak : c ≠ '\n' ∧ c ≠ '\r' := by
      constructor
      · rintro rfl
        exact absurd hplain (by decide)
      · rintro rfl
        exact absurd hplain (by decide)
    rw [readBasicLines]
    · simp [hplain, hbackslash]
    all_goals simp [hbackslash, hquote, hbreak]

/-! ## Texts on one line -/

/-- A text on one line may hold no quote unescaped, so the first one ends it. -/
theorem readBasic_escaped (s rest : List Char) :
    readBasic (escaped false 0 0 s ++ '"' :: rest) = some (s, rest) := by
  induction s with
  | nil => rfl
  | cons c s ih =>
    by_cases hc : c = '"'
    · rw [hc, escaped_quote_of_le false (Nat.le_refl 0), List.cons_append, List.cons_append,
        readsEscapes_readBasic.short escaped?_quote, ih]
      rfl
    · obtain ⟨text, htext, heq⟩ := exists_written false 0 0 hc s
      rw [heq, List.append_assoc, readsEscapes_readBasic.read_written htext hc nofun, ih]
      rfl

/-- A text without escapes is read as it stands, up to the first apostrophe. -/
theorem readLiteral_append {s : List Char} (h : ∀ c ∈ s, isPlain c = true ∧ c ≠ '\'')
    (rest : List Char) : readLiteral (s ++ '\'' :: rest) = some (s, rest) := by
  induction s with
  | nil => rfl
  | cons c s ih =>
    obtain ⟨⟨hplain, hc⟩, hs⟩ := List.forall_mem_cons.1 h
    rw [List.cons_append, readLiteral, if_pos hplain, ih hs]
    · rfl
    · exact hc

/-! ## Texts over several lines -/

/-- Up to two delimiters are read as they are where none follows them. -/
theorem read_replicate {read : List Char → Option (List Char × List Char)} {delimiter : Char}
    (hread : ∀ r, (∀ r', r ≠ delimiter :: delimiter :: r') →
      read (delimiter :: r) = consRead delimiter (read r))
    {k : Nat} (hk : k ≤ 2) {c : Char} (hc : c ≠ delimiter) {r text rest : List Char}
    (h : read (c :: r) = some (text, rest)) :
    read (List.replicate k delimiter ++ c :: r) =
      some (List.replicate k delimiter ++ text, rest) := by
  have hone : read (delimiter :: c :: r) = some (delimiter :: text, rest) := by
    rw [hread _ fun r' heq => hc (List.cons.inj heq).1, h]
    rfl
  match k, hk with
  | 0, _ => exact h
  | 1, _ => exact hone
  | 2, _ =>
    show read (delimiter :: delimiter :: c :: r) = some (delimiter :: delimiter :: text, rest)
    rw [hread _ fun r' heq => hc (List.cons.inj (List.cons.inj heq).2).1, hone]
    rfl

/-- A quote belongs to the text if two more do not follow it. -/
theorem readBasicLines_quote {r : List Char} (h : ∀ r', r ≠ '"' :: '"' :: r') :
    readBasicLines false ('"' :: r) = consRead '"' (readBasicLines false r) := by
  rw [readBasicLines]
  · rfl
  · exact fun r' _ heq => h _ heq
  · exact fun r' _ heq => h _ heq
  · exact fun r' _ heq => h _ heq
  all_goals simp

theorem readBasicLines_lineFeed (r : List Char) :
    readBasicLines false ('\n' :: r) = consRead '\n' (readBasicLines false r) := by
  rw [readBasicLines]
  rfl

/-- A text with escapes, read after some quotes that its writer has counted. -/
theorem readBasicLines_escaped (s : List Char) {k : Nat} (hk : k ≤ 2) (rest : List Char) :
    readBasicLines false (List.replicate k '"' ++
        (escaped true 2 k s ++ '"' :: '"' :: '"' :: '\n' :: rest)) =
      some (List.replicate k '"' ++ s, '\n' :: rest) := by
  induction s generalizing k with
  | nil =>
    match k, hk with
    | 0, _ => rfl
    | 1, _ => rfl
    | 2, _ => rfl
  | cons c s ih =>
    have htail := ih (Nat.zero_le 2)
    by_cases hc : c = '"'
    · subst hc
      rcases Nat.lt_or_ge k 2 with hlt | hge
      · -- The quote joins those in front of it.
        have hmore := ih (Nat.succ_le_of_lt hlt)
        rw [List.replicate_succ', List.append_assoc, List.append_assoc] at hmore
        rw [escaped_quote true hlt]
        exact hmore
      · -- Two quotes stand there already, so the third one is escaped.
        rw [escaped_quote_of_le true hge]
        refine read_replicate (fun r => readBasicLines_quote) hk (by decide) ?_
        exact (readsEscapes_readBasicLines.short escaped?_quote _).trans
          (congrArg (consRead '"') htail)
    · obtain ⟨text, htext, heq⟩ := exists_written true 2 k hc s
      have hread := readsEscapes_readBasicLines.read_written htext hc
        (fun _ => readBasicLines_lineFeed) (escaped true 2 0 s ++ '"' :: '"' :: '"' :: '\n' :: rest)
      obtain ⟨d, r, rfl, hd, -⟩ := htext.exists_eq_cons hc
      rw [heq, List.append_assoc]
      exact read_replicate (fun r => readBasicLines_quote) hk hd
        (hread.trans (congrArg (consRead c) htail))

/-- An apostrophe belongs to the text if two more do not follow it. -/
theorem readLiteralLines_apostrophe {r : List Char} (h : ∀ r', r ≠ '\'' :: '\'' :: r') :
    readLiteralLines ('\'' :: r) = consRead '\'' (readLiteralLines r) := by
  rw [readLiteralLines]
  · rfl
  · exact fun r' _ heq => h _ heq
  · exact fun r' _ heq => h _ heq
  · exact fun r' _ heq => h _ heq
  all_goals simp

theorem ne_carriageReturn {c : Char} (h : needsEscape c = false) : c ≠ '\r' := by
  rintro rfl
  exact absurd h (by decide)

/-- What needs no escape and is no apostrophe is read as it stands. -/
theorem readLiteralLines_of_needsEscape {c : Char} (h : needsEscape c = false) (hc : c ≠ '\'')
    (r : List Char) : readLiteralLines (c :: r) = consRead c (readLiteralLines r) := by
  by_cases hbreak : c = '\n'
  · rw [hbreak, readLiteralLines]
  · rw [readLiteralLines, if_pos (isPlain_of_needsEscape h hbreak)]
    all_goals simp [hc, hbreak, ne_carriageReturn h]

/-- The run that is going on counts as well. -/
theorem le_longestRunOf (d : Char) (k : Nat) (s : List Char) : k ≤ longestRunOf d k s := by
  induction s generalizing k with
  | nil => exact Nat.le_refl k
  | cons c s ih =>
    rw [longestRunOf]
    split_ifs
    · exact Nat.le_trans (Nat.le_succ k) (ih (k + 1))
    · exact Nat.le_max_left _ _

/-- Without a run there is no such character at all. -/
theorem ne_of_longestRunOf {d : Char} {s : List Char} (h : longestRunOf d 0 s = 0) :
    ∀ c ∈ s, c ≠ d := by
  induction s with
  | nil => exact nofun
  | cons c s ih =>
    rw [longestRunOf] at h
    split_ifs at h with hc
    · have hle := le_longestRunOf d (0 + 1) s
      omega
    · exact List.forall_mem_cons.2 ⟨hc, ih (by omega)⟩

/-- A text without escapes, read after some apostrophes that count with those in front of it. -/
theorem readLiteralLines_append {s : List Char} (hs : ∀ c ∈ s, needsEscape c = false) {k : Nat}
    (hk : longestRunOf '\'' k s ≤ 2) (rest : List Char) :
    readLiteralLines (List.replicate k '\'' ++
        (s ++ '\'' :: '\'' :: '\'' :: '\n' :: rest)) =
      some (List.replicate k '\'' ++ s, '\n' :: rest) := by
  induction s generalizing k with
  | nil =>
    match k, hk with
    | 0, _ => rfl
    | 1, _ => rfl
    | 2, _ => rfl
  | cons c s ih =>
    obtain ⟨hc, hs⟩ := List.forall_mem_cons.1 hs
    rw [longestRunOf] at hk
    split_ifs at hk with hquote
    · -- The apostrophe joins those in front of it.
      have hmore := ih hs hk
      rw [List.replicate_succ', List.append_assoc, List.append_assoc] at hmore
      rw [hquote]
      exact hmore
    · obtain ⟨hk, htail⟩ := Nat.max_le.1 hk
      exact read_replicate (fun r => readLiteralLines_apostrophe) hk hquote
        ((readLiteralLines_of_needsEscape hc hquote _).trans
          (congrArg (consRead c) (ih hs htail)))

/-! ## The chosen form -/

/-- Apostrophes enclose what has none of its own and stands on one line. -/
theorem TextForm.ofText_eq_literal {s : List Char} (h : TextForm.ofText s = .literal) :
    (∀ c ∈ s, needsEscape c = false) ∧ longestRunOf '\'' 0 s = 0 ∧ '\n' ∉ s := by
  simp only [TextForm.ofText] at h
  split_ifs at h with _ hliteral
  simpa [and_assoc] using hliteral

/-- Three apostrophes enclose what has no more than two of its own in a row. -/
theorem TextForm.ofText_eq_literalLines {s : List Char} (h : TextForm.ofText s = .literalLines) :
    (∀ c ∈ s, needsEscape c = false) ∧ longestRunOf '\'' 0 s ≤ 2 := by
  simp only [TextForm.ofText] at h
  split_ifs at h with _ _ _ hliteral
  simpa using hliteral

/-- The line break that opens a text over several lines is dropped, and no other one. -/
theorem dropBreak_openLines {s text : List Char} (h : '\n' ∉ s → afterBreak? text = none) :
    dropBreak (openLines s ++ text) = text := by
  unfold openLines
  by_cases hs : '\n' ∈ s
  · rw [if_pos (List.contains_iff_mem.2 hs)]
    rfl
  · rw [if_neg fun hcontains => hs (List.contains_iff_mem.1 hcontains), List.nil_append, dropBreak,
      h hs, Option.getD_none]

/-- A text with escapes starts with a quote only where one may stand unescaped, and with a line
break only where it has one of its own. -/
theorem exists_escaped_eq_cons (lines : Bool) (allowed : Nat) {s : List Char} (hs : s ≠ []) :
    ∃ d r, escaped lines allowed 0 s = d :: r ∧ (d = '"' → 0 < allowed) ∧ d ≠ '\r' ∧
      (d = '\n' → '\n' ∈ s) := by
  obtain ⟨c, s, rfl⟩ := List.exists_cons_of_ne_nil hs
  by_cases hc : c = '"'
  · rw [hc]
    rcases Nat.eq_zero_or_pos allowed with hnone | hpos
    · exact ⟨_, _, escaped_quote_of_le lines (Nat.le_of_eq hnone) s, nofun, by decide, nofun⟩
    · exact ⟨_, _, escaped_quote lines hpos s, fun _ => hpos, by decide, nofun⟩
  · obtain ⟨text, htext, heq⟩ := exists_written lines allowed 0 hc s
    obtain ⟨d, r, rfl, hquote, hreturn, hbreak⟩ := htext.exists_eq_cons hc
    refine ⟨d, _, heq, fun hd => absurd hd hquote, hreturn, fun hd => ?_⟩
    exact hbreak hd ▸ List.mem_cons_self

/-- Where the text has no line feed, the reader finds no line break to drop. -/
theorem afterBreak?_escaped {s : List Char} (h : '\n' ∉ s) (allowed : Nat) (rest : List Char) :
    afterBreak? (escaped true allowed 0 s ++ '"' :: rest) = none := by
  by_cases hs : s = []
  · rw [hs]
    rfl
  · obtain ⟨d, r, heq, -, hreturn, hbreak⟩ := exists_escaped_eq_cons true allowed hs
    rw [heq]
    exact afterBreak?_of_ne (fun hd => h (hbreak hd)) hreturn _

/-- Where every quote is escaped, the text does not open one over several lines. -/
theorem escaped_append_ne (lines : Bool) (s rest r : List Char) :
    escaped lines 0 0 s ++ '"' :: '\n' :: rest ≠ '"' :: '"' :: r := by
  intro heq
  by_cases hs : s = []
  · rw [hs] at heq
    exact absurd (List.cons.inj (List.cons.inj heq).2).1 (by decide)
  · obtain ⟨d, r', hcons, hquote, -⟩ := exists_escaped_eq_cons lines 0 hs
    rw [hcons] at heq
    exact absurd (hquote (List.cons.inj heq).1) (Nat.lt_irrefl 0)

/-- A written text is read as itself where the line ends behind it. -/
theorem readText_writeText (s rest : List Char) :
    readText (writeText s ++ '\n' :: rest) = some (s, '\n' :: rest) := by
  unfold writeText
  cases hform : TextForm.ofText s with
  | basic =>
    show readText ('"' :: (escaped false 0 0 s ++ ['"'] ++ '\n' :: rest)) = _
    rw [List.append_assoc, List.singleton_append, readText, readBasic_escaped]
    -- It remains that the text does not start with the three quotes of the longer form.
    exact escaped_append_ne false s rest
  | literal =>
    obtain ⟨hs, hnone, hbreak⟩ := TextForm.ofText_eq_literal hform
    have hplain : ∀ c ∈ s, isPlain c = true ∧ c ≠ '\'' := fun c hc =>
      ⟨isPlain_of_needsEscape (hs c hc) fun heq => hbreak (heq ▸ hc), ne_of_longestRunOf hnone c hc⟩
    show readText ('\'' :: (s ++ ['\''] ++ '\n' :: rest)) = _
    rw [List.append_assoc, List.singleton_append, readText, readLiteral_append hplain]
    -- Neither does it start with three apostrophes.
    intro r heq
    cases s with
    | nil => exact absurd (List.cons.inj (List.cons.inj heq).2).1 (by decide)
    | cons c s => exact (hplain c List.mem_cons_self).2 (List.cons.inj heq).1
  | basicLines =>
    have hread := readBasicLines_escaped s (Nat.zero_le 2) rest
    simp only [List.append_assoc, List.cons_append, List.nil_append, readText]
    -- A line feed was put in front if the text has one, and that is dropped again.
    rw [dropBreak_openLines fun hbreak => afterBreak?_escaped hbreak 2 _]
    exact hread
  | literalLines =>
    obtain ⟨hs, hrun⟩ := TextForm.ofText_eq_literalLines hform
    have hread := readLiteralLines_append hs hrun rest
    -- Without one nothing was put in front, and there is nothing that might be dropped.
    have hstart : '\n' ∉ s →
        afterBreak? (s ++ '\'' :: '\'' :: '\'' :: '\n' :: rest) = none := by
      intro hbreak
      cases s with
      | nil => rfl
      | cons c s =>
        exact afterBreak?_of_ne (fun heq => hbreak (heq ▸ List.mem_cons_self))
          (ne_carriageReturn (hs c List.mem_cons_self)) _
    simp only [List.append_assoc, List.cons_append, List.nil_append, readText]
    rw [dropBreak_openLines hstart]
    exact hread

end CredentialPolicy.Toml
