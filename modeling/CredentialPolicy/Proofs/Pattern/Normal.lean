import CredentialPolicy.Pattern.Normal
import CredentialPolicy.Proofs.Pattern.Language
import CredentialPolicy.Proofs.Unicode.CharSet

/-!
Normal forms match what the expressions themselves match.

Each function that puts together a normal form is compared with the constructor that it stands for:
`sequence` with a sequence, `alternatives` with a choice, `repetition` with a repetition, `ofSet`
with a set. An induction over the expression then takes them together (`matches_normal_iff`). Only
repetitions need their bounds in order: what matches the empty text alone is repeated once at most,
which says the same only where a repetition allows the matches that it requires.

Put between the start and the end of the text, an expression matches there and nowhere else, however
a match is looked for (`matches_anchored_iff`).
-/

set_option autoImplicit false

namespace CredentialPolicy.Pattern.Expr

open Unicode (CharSet)

/-! ## Equality -/

/-- Lists that test as the same are the same, if that is so of their members. -/
theorem eq_of_sameAll {es fs : List Expr}
    (hes : ∀ e ∈ es, ∀ f, same e f = true → e = f) (h : sameAll es fs = true) : es = fs := by
  induction es generalizing fs with
  | nil =>
    cases fs with
    | nil => rfl
    | cons f fs => simp [sameAll] at h
  | cons e es ih =>
    cases fs with
    | nil => simp [sameAll] at h
    | cons f fs =>
      obtain ⟨he, hes⟩ := List.forall_mem_cons.1 hes
      rw [sameAll, Bool.and_eq_true] at h
      rw [he f h.1, ih hes h.2]

/-- What tests as the same is the same, so a common start that is found by the test is one. -/
theorem eq_of_same (e : Expr) : ∀ f, same e f = true → e = f := by
  induction e using induct with
  | text cs =>
    intro f h
    cases f <;> simp_all [same]
  | oneOf set =>
    intro f h
    cases f <;> simp_all [same]
  | look l =>
    intro f h
    cases f <;> simp_all [same]
  | repeated e min max greedy ih =>
    intro f h
    cases f with
    | repeated f min' max' greedy' =>
      -- The bounds are compared as they are, and the parts by induction.
      simp only [same, Bool.and_eq_true, decide_eq_true_eq] at h
      obtain ⟨⟨⟨he, rfl⟩, rfl⟩, rfl⟩ := h
      rw [ih f he]
    | _ => simp [same] at h
  | group e ih =>
    intro f h
    cases f with
    | group f => rw [ih f h]
    | _ => simp [same] at h
  | concat es ih =>
    intro f h
    cases f with
    | concat fs => rw [eq_of_sameAll ih h]
    | _ => simp [same] at h
  | choice es ih =>
    intro f h
    cases f with
    | choice fs => rw [eq_of_sameAll ih h]
    | _ => simp [same] at h

/-! ## Sequences -/

variable {isWord : WordKind → Char → Bool} {w : List Char} {e f : Expr} {es fs : List Expr}
  {i j k : Nat}

/-- An expression may be replaced by the sequence of its parts. -/
theorem matches_concat_parts_iff :
    Matches isWord w (.concat (parts e)) i j ↔ Matches isWord w e i j := by
  unfold parts
  split
  · exact Iff.rfl
  · rw [matches_concat_nil_iff, matches_text_nil_iff]
  · exact matches_concat_singleton_iff

/-- A sequence within a sequence may be taken apart. -/
theorem matches_concat_flatMap_parts_iff :
    Matches isWord w (.concat (es.flatMap parts)) i k ↔ Matches isWord w (.concat es) i k := by
  induction es generalizing i with
  | nil => exact Iff.rfl
  | cons e es ih =>
    simp only [List.flatMap_cons, matches_concat_append_iff, matches_concat_parts_iff, ih,
      matches_concat_cons_iff]

/-- Joining a text with the text behind it does not change what is matched. -/
theorem matches_concat_consPart_iff :
    Matches isWord w (.concat (consPart e es)) i k ↔ Matches isWord w (.concat (e :: es)) i k := by
  unfold consPart
  split
  · simp only [matches_concat_cons_iff, matches_text_append_iff]
    constructor
    · -- The same two texts, with the place between them named before or after the rest is matched.
      rintro ⟨l, ⟨j, hj, hl⟩, hk⟩
      exact ⟨j, hj, l, hl, hk⟩
    · rintro ⟨j, hj, l, hl, hk⟩
      exact ⟨l, ⟨j, hj, hl⟩, hk⟩
  · exact Iff.rfl

/-- Joining all texts that stand next to each other does not either. -/
theorem matches_concat_foldr_consPart_iff :
    Matches isWord w (.concat (es.foldr consPart [])) i k ↔ Matches isWord w (.concat es) i k := by
  induction es generalizing i with
  | nil => exact Iff.rfl
  | cons e es ih =>
    rw [List.foldr_cons, matches_concat_consPart_iff]
    simp only [matches_concat_cons_iff, ih]

/-- A sequence with none but the necessary levels matches what the plain one does. -/
theorem matches_sequence_iff :
    Matches isWord w (sequence es) i j ↔ Matches isWord w (.concat es) i j := by
  rw [← matches_concat_flatMap_parts_iff, ← matches_concat_foldr_consPart_iff]
  unfold sequence
  split
  · next hnil => rw [hnil, matches_concat_nil_iff, matches_text_nil_iff]
  · next hone => rw [hone, matches_concat_singleton_iff]
  · exact Iff.rfl

/-- Parts of a sequence may be replaced by such as match the same. -/
theorem matches_concat_map_iff {a : Expr → Expr}
    (h : ∀ e ∈ es, ∀ i j, Matches isWord w (a e) i j ↔ Matches isWord w e i j) :
    Matches isWord w (.concat (es.map a)) i k ↔ Matches isWord w (.concat es) i k := by
  have hid := List.map_id es
  constructor
  · intro hmatch
    rw [← hid]
    exact Refines.concat_map (fun e he i j => (h e he i j).1) i k hmatch
  · intro hmatch
    rw [← hid] at hmatch
    exact Refines.concat_map (fun e he i j => (h e he i j).2) i k hmatch

/-! ## Choices -/

/-- A text of one character takes one place. -/
theorem matches_text_singleton_iff {c : Char} :
    Matches isWord w (.text [c]) i j ↔ j = i + 1 ∧ w[i]? = some c := by
  rw [matches_text_cons_iff, matches_text_nil_iff]
  constructor
  · rintro ⟨hc, rfl, -⟩
    exact ⟨rfl, hc⟩
  · rintro ⟨rfl, hc⟩
    exact ⟨hc, rfl, (List.getElem?_eq_some_iff.1 hc).1⟩

/-- A set of one character is the text of it. -/
theorem matches_oneOf_iff_of_mem {set : CharSet} {c : Char} (h : ∀ d, d ∈ set ↔ d = c) :
    Matches isWord w (.oneOf set) i j ↔ Matches isWord w (.text [c]) i j := by
  simp [matches_oneOf_iff, matches_text_singleton_iff, h]

/-- A set may be written as the text of its only character. -/
theorem matches_ofSet_iff {set : CharSet} :
    Matches isWord w (ofSet set) i j ↔ Matches isWord w (.oneOf set) i j := by
  unfold ofSet
  split
  · next c hc => exact (matches_oneOf_iff_of_mem (CharSet.mem_iff_of_single? hc)).symm
  · exact Iff.rfl

/-- What stands for a set matches as the set. -/
theorem matches_of_asSet? {set : CharSet} (h : asSet? e = some set) :
    Matches isWord w e i j ↔ Matches isWord w (.oneOf set) i j := by
  unfold asSet? at h
  split at h
  · cases h
    exact (matches_oneOf_iff_of_mem fun d => CharSet.mem_single).symm
  · cases h
    exact Iff.rfl
  · cases h

/-- A union of sets is a choice between them. -/
theorem matches_oneOf_union_iff {s t : CharSet} :
    Matches isWord w (.oneOf (s ∪ t)) i j ↔
      Matches isWord w (.oneOf s) i j ∨ Matches isWord w (.oneOf t) i j := by
  simp only [matches_oneOf_iff, CharSet.mem_union, or_and_right, exists_or, and_or_left]

/-- A choice is between its first expression and the others. -/
theorem matches_choice_cons_iff :
    Matches isWord w (.choice (e :: es)) i j ↔
      Matches isWord w e i j ∨ Matches isWord w (.choice es) i j := by
  simp only [matches_choice_iff, List.mem_cons, exists_eq_or_imp]

/-- A choice between sets is their union, on top of a set that has been found before. -/
theorem matches_oneOf_foldl_iff {sets : List CharSet} (h : es.mapM asSet? = some sets)
    (before : CharSet) :
    Matches isWord w (.oneOf (sets.foldl (· ∪ ·) before)) i j ↔
      Matches isWord w (.oneOf before) i j ∨ Matches isWord w (.choice es) i j := by
  induction es generalizing sets before with
  | nil =>
    cases h
    simp [matches_choice_iff]
  | cons e es ih =>
    rw [List.mapM_cons] at h
    obtain ⟨set, hset, h⟩ := Option.bind_eq_some_iff.1 h
    obtain ⟨others, hothers, h⟩ := Option.bind_eq_some_iff.1 h
    cases h
    rw [List.foldl_cons, ih hothers, matches_oneOf_union_iff, matches_choice_cons_iff,
      matches_of_asSet? hset, or_assoc]

/-- An expression may be replaced by the choice between its choices. -/
theorem matches_choice_choices_iff :
    Matches isWord w (.choice (choices e)) i j ↔ Matches isWord w e i j := by
  unfold choices
  split
  · exact Iff.rfl
  · simp [matches_choice_iff]

/-- A choice within a choice may be taken apart. -/
theorem matches_choice_flatMap_choices_iff :
    Matches isWord w (.choice (es.flatMap choices)) i j ↔ Matches isWord w (.choice es) i j := by
  simp only [matches_choice_iff, List.mem_flatMap]
  constructor
  · rintro ⟨f, ⟨e, he, hf⟩, h⟩
    exact ⟨e, he, matches_choice_choices_iff.1 (.choice hf h)⟩
  · rintro ⟨e, he, h⟩
    obtain ⟨f, hf, h⟩ := matches_choice_iff.1 (matches_choice_choices_iff.2 h)
    exact ⟨f, ⟨e, he, hf⟩, h⟩

/-! ### Common starts -/

/-- A common start of two sequences is at the start of both. -/
theorem commonStart_isPrefix : commonStart es fs <+: es ∧ commonStart es fs <+: fs := by
  induction es generalizing fs with
  | nil => simp [commonStart]
  | cons e es ih =>
    cases fs with
    | nil => simp [commonStart]
    | cons f fs =>
      rw [commonStart]
      split
      · next hsame =>
        -- Only a head that both have goes into the start.
        obtain rfl := eq_of_same e f hsame
        exact ⟨List.prefix_cons_iff.2 (.inr ⟨_, rfl, ih.1⟩),
          List.prefix_cons_iff.2 (.inr ⟨_, rfl, ih.2⟩)⟩
      · exact ⟨List.nil_prefix, List.nil_prefix⟩

/-- A start that is common to all of some sequences is at the start of each. It only gets shorter as
sequences are gone through, so the induction is over them with any first one. -/
theorem foldl_commonStart_isPrefix (first : List Expr) (others : List (List Expr)) :
    ∀ ps ∈ first :: others, others.foldl commonStart first <+: ps := by
  induction others generalizing first with
  | nil => simp
  | cons p others ih =>
    obtain ⟨hstart, hothers⟩ := List.forall_mem_cons.1 (ih (commonStart first p))
    rw [List.foldl_cons, List.forall_mem_cons, List.forall_mem_cons]
    exact ⟨hstart.trans commonStart_isPrefix.1, hstart.trans commonStart_isPrefix.2, hothers⟩

/-- Expressions that all have parts of a sequence are the sequences of these. -/
theorem eq_map_of_sequenceParts? {sequences : List (List Expr)}
    (h : es.mapM sequenceParts? = some sequences) : es = sequences.map .concat := by
  induction es generalizing sequences with
  | nil =>
    cases h
    rfl
  | cons e es ih =>
    rw [List.mapM_cons] at h
    obtain ⟨ps, hps, h⟩ := Option.bind_eq_some_iff.1 h
    obtain ⟨others, hothers, h⟩ := Option.bind_eq_some_iff.1 h
    cases h
    rw [List.map_cons, ← ih hothers]
    unfold sequenceParts? at hps
    split at hps
    · rw [Option.some.inj hps]
    · cases hps

/-- What all sequences of a choice start with may be matched before choosing. -/
theorem matches_concat_start_iff {start : List Expr} {sequences : List (List Expr)}
    (h : ∀ ps ∈ sequences, start <+: ps) {rest : Expr}
    (hrest : ∀ i j, Matches isWord w rest i j ↔
      ∃ ps ∈ sequences, Matches isWord w (.concat (ps.drop start.length)) i j) :
    Matches isWord w (.concat (start ++ [rest])) i k ↔
      ∃ ps ∈ sequences, Matches isWord w (.concat ps) i k := by
  -- Each sequence is the start and what is left behind it.
  have hparts : ∀ ps ∈ sequences, start ++ ps.drop start.length = ps := by
    intro ps hps
    obtain ⟨t, rfl⟩ := h ps hps
    rw [List.drop_left]
  rw [matches_concat_append_iff]
  simp only [matches_concat_singleton_iff, hrest]
  constructor
  · rintro ⟨j, hj, ps, hps, hk⟩
    refine ⟨ps, hps, ?_⟩
    rw [← hparts ps hps]
    exact matches_concat_append_iff.2 ⟨j, hj, hk⟩
  · rintro ⟨ps, hps, hmatch⟩
    rw [← hparts ps hps] at hmatch
    obtain ⟨j, hj, hk⟩ := matches_concat_append_iff.1 hmatch
    exact ⟨j, hj, ps, hps, hk⟩

/-- The fuel bounds how often a common start is looked for, not what is matched. -/
theorem matches_alternatives_iff {fuel : Nat} :
    Matches isWord w (alternatives fuel es) i j ↔ Matches isWord w (.choice es) i j := by
  rw [← matches_choice_flatMap_choices_iff]
  fun_induction alternatives fuel es generalizing i j with
  | case1 _ es hnil => simp [hnil, matches_oneOf_iff, matches_choice_iff, CharSet.not_mem_empty]
  | case2 _ es e hone => simp [hone, matches_choice_iff]
  | case3 _ es sets _ _ hsets =>
    rw [matches_ofSet_iff, matches_oneOf_foldl_iff hsets ∅]
    simp [matches_oneOf_iff, CharSet.not_mem_empty]
  | case4 => exact Iff.rfl
  | case5 es fuel first others _ _ _ hsequences _ rests =>
    -- What all sequences start with is put in front, and the rests are taken by the induction.
    rename_i ih
    have hrest : ∀ i j, Matches isWord w (alternatives fuel rests) i j ↔
        ∃ ps ∈ first :: others, Matches isWord w
          (.concat (ps.drop (others.foldl commonStart first).length)) i j := by
      intro i j
      rw [ih, matches_choice_flatMap_choices_iff, matches_choice_iff]
      constructor
      · rintro ⟨e, he, hmatch⟩
        obtain ⟨ps, hps, rfl⟩ := List.mem_map.1 he
        exact ⟨ps, hps, matches_sequence_iff.1 hmatch⟩
      · rintro ⟨ps, hps, hmatch⟩
        exact ⟨_, List.mem_map.2 ⟨ps, hps, rfl⟩, matches_sequence_iff.2 hmatch⟩
    rw [matches_sequence_iff, eq_map_of_sequenceParts? hsequences, matches_choice_iff,
      matches_concat_start_iff (foldl_commonStart_isPrefix first others) hrest]
    constructor
    · rintro ⟨ps, hps, hmatch⟩
      exact ⟨_, List.mem_map.2 ⟨ps, hps, rfl⟩, hmatch⟩
    · rintro ⟨e, he, hmatch⟩
      obtain ⟨ps, hps, rfl⟩ := List.mem_map.1 he
      exact ⟨ps, hps, hmatch⟩
  | case6 => exact Iff.rfl

/-! ## Repetitions -/

/-- Sequences of, and choices between, expressions without width have none. -/
theorem eq_of_areWidthless {es : List Expr}
    (hes : ∀ e ∈ es, isWidthless e = true → ∀ i j, Matches isWord w e i j → i = j)
    (h : areWidthless es = true) :
    (∀ i j, Matches isWord w (.concat es) i j → i = j) ∧
      ∀ i j, Matches isWord w (.choice es) i j → i = j := by
  induction es with
  | nil =>
    refine ⟨fun i j hmatch => (matches_concat_nil_iff.1 hmatch).1, fun i j hmatch => ?_⟩
    obtain ⟨e, he, -⟩ := matches_choice_iff.1 hmatch
    exact absurd he List.not_mem_nil
  | cons e es ih =>
    obtain ⟨he, hes⟩ := List.forall_mem_cons.1 hes
    rw [areWidthless, Bool.and_eq_true] at h
    obtain ⟨hconcat, hchoice⟩ := ih hes h.2
    constructor
    · intro i k hmatch
      obtain ⟨j, hfirst, hrest⟩ := matches_concat_cons_iff.1 hmatch
      exact (he h.1 i j hfirst).trans (hconcat j k hrest)
    · intro i j hmatch
      rcases matches_choice_cons_iff.1 hmatch with hfirst | hrest
      · exact he h.1 i j hfirst
      · exact hchoice i j hrest

/-- What can match the empty text only ends where it starts. -/
theorem eq_of_isWidthless (e : Expr) (h : isWidthless e = true) :
    ∀ i j, Matches isWord w e i j → i = j := by
  induction e using induct with
  | text cs =>
    obtain rfl : cs = [] := List.isEmpty_iff.1 h
    exact fun i j hmatch => (matches_text_nil_iff.1 hmatch).1
  | oneOf set => cases h
  | look l => exact fun i j hmatch => (matches_look_iff.1 hmatch).1
  | repeated e min max greedy ih =>
    intro i j hmatch
    obtain ⟨-, n, -, hchain⟩ := matches_repeated_iff.1 hmatch
    exact hchain.eq (ih h)
  | group e ih => exact fun i j hmatch => ih h i j (matches_group_iff.1 hmatch)
  | concat es ih => exact (eq_of_areWidthless ih h).1
  | choice es ih => exact (eq_of_areWidthless ih h).2

/-- A chain of matches that stay where they are is none or one over and over. -/
theorem chain_iff_of_isWidthless (h : isWidthless e = true) {n : Nat} :
    Chain (Matches isWord w e) n i j ↔ i = j ∧ (n = 0 ∨ Matches isWord w e i i) := by
  constructor
  · intro hchain
    have hij := hchain.eq (eq_of_isWidthless e h)
    cases n with
    | zero => exact ⟨hij, .inl rfl⟩
    | succ n =>
      obtain ⟨k, hfirst, -⟩ := hchain
      obtain rfl := eq_of_isWidthless e h i k hfirst
      exact ⟨hij, .inr hfirst⟩
  · rintro ⟨rfl, rfl | hone⟩
    · rfl
    · -- The one match that stays where it is can be made as often as is asked for.
      induction n with
      | zero => rfl
      | succ n ih => exact ⟨i, hone, ih⟩

/-- How often something that can be had at will is repeated matters only in whether it must be, and
whether it may be. -/
theorem exists_allows_iff {min : Nat} {max : Option Nat} (h : ∀ m ∈ max, min ≤ m) {p : Prop} :
    (∃ n, Allows min max n ∧ (n = 0 ∨ p)) ↔ min = 0 ∨ max ≠ some 0 ∧ p := by
  constructor
  · rintro ⟨n, hn, rfl | hp⟩
    · exact .inl (Nat.le_zero.1 hn.1)
    · by_cases hmin : min = 0
      · exact .inl hmin
      · refine .inr ⟨?_, hp⟩
        -- What is never allowed is not required, since the bounds are in order.
        rintro rfl
        exact hmin (Nat.le_zero.1 (h 0 rfl))
  · rintro (rfl | ⟨hmax, hp⟩)
    · exact ⟨0, ⟨Nat.le_refl 0, fun m _ => Nat.zero_le m⟩, .inl rfl⟩
    · refine ⟨Nat.max min 1, ⟨Nat.le_max_left min 1, fun m hm => ?_⟩, .inr hp⟩
      have hpos : m ≠ 0 := by
        rintro rfl
        exact hmax hm
      exact Nat.max_le.2 ⟨h m hm, Nat.pos_of_ne_zero hpos⟩

/-- What may not be matched at all is the empty text. -/
theorem matches_repeated_zero_iff {greedy : Bool} :
    Matches isWord w (.repeated e 0 (some 0) greedy) i j ↔ Matches isWord w (.text []) i j := by
  rw [matches_repeated_iff, matches_text_nil_iff]
  constructor
  · rintro ⟨hi, n, hn, hchain⟩
    obtain rfl : n = 0 := Nat.le_zero.1 (hn.2 0 rfl)
    exact ⟨hchain, hi⟩
  · rintro ⟨rfl, hi⟩
    exact ⟨hi, 0, ⟨Nat.le_refl 0, fun m _ => Nat.zero_le m⟩, rfl⟩

/-- What is matched exactly once is the expression itself. -/
theorem matches_repeated_one_iff {greedy : Bool} :
    Matches isWord w (.repeated e 1 (some 1) greedy) i j ↔ Matches isWord w e i j := by
  rw [matches_repeated_iff]
  constructor
  · rintro ⟨-, n, hn, hchain⟩
    obtain rfl : n = 1 := Nat.le_antisymm (hn.2 1 rfl) hn.1
    obtain ⟨k, hfirst, rfl⟩ := hchain
    exact hfirst
  · intro h
    exact ⟨Nat.le_trans h.le h.le_length, 1, ⟨Nat.le_refl 1, by simp⟩, j, h, rfl⟩

/-- The bounds under which an expression is repeated: once at most if it has no width. -/
def boundsFor (e : Expr) (min : Nat) (max : Option Nat) : Nat × Option Nat :=
  if isWidthless e then (Nat.min min 1, some (Nat.min (max.getD 1) 1)) else (min, max)

/-- Bounds stay in order when they are cut down to one. -/
theorem boundsFor_le {min : Nat} {max : Option Nat} (h : ∀ m ∈ max, min ≤ m) :
    ∀ m ∈ (boundsFor e min max).2, (boundsFor e min max).1 ≤ m := by
  unfold boundsFor
  split
  · intro m hm
    obtain rfl := Option.mem_some_iff.1 hm
    cases max with
    | none => exact Nat.min_le_right min 1
    | some max =>
      have hle := h max rfl
      exact Nat.le_min.2 ⟨Nat.le_trans (Nat.min_le_left min 1) hle, Nat.min_le_right min 1⟩
  · exact h

/-- A repetition of what has no width asks whether that must be matched, and whether it may be. -/
theorem matches_repeated_iff_of_isWidthless (hwidthless : isWidthless e = true) {min : Nat}
    {max : Option Nat} {greedy : Bool} (h : ∀ m ∈ max, min ≤ m) :
    Matches isWord w (.repeated e min max greedy) i j ↔
      i ≤ w.length ∧ i = j ∧ (min = 0 ∨ max ≠ some 0 ∧ Matches isWord w e i i) := by
  rw [matches_repeated_iff, ← exists_allows_iff h]
  simp only [chain_iff_of_isWidthless hwidthless, and_left_comm (b := i = j), exists_and_left]

/-- Cutting the bounds of what has no width does not change what is matched. -/
theorem matches_boundsFor_iff {min : Nat} {max : Option Nat} {greedy : Bool}
    (h : ∀ m ∈ max, min ≤ m) :
    Matches isWord w (.repeated e (boundsFor e min max).1 (boundsFor e min max).2 greedy) i j ↔
      Matches isWord w (.repeated e min max greedy) i j := by
  have hbounds := boundsFor_le (e := e) h
  unfold boundsFor at hbounds ⊢
  split
  · next hwidthless =>
    rw [if_pos hwidthless] at hbounds
    -- Whether something must be matched, and whether it may be, is still the same under the cut
    -- bounds.
    have hmin : Nat.min min 1 = 0 ↔ min = 0 := by cases min <;> simp
    have hmax : some (Nat.min (max.getD 1) 1) = some 0 ↔ max = some 0 := by
      rcases max with _ | _ | m <;> simp
    rw [matches_repeated_iff_of_isWidthless hwidthless hbounds,
      matches_repeated_iff_of_isWidthless hwidthless h, hmin, Ne, hmax]
  · exact Iff.rfl

/-- A repetition is dropped where its bounds, once they are cut, leave no choice. -/
theorem repetition_eq (e : Expr) (min : Nat) (max : Option Nat) (greedy : Bool) :
    repetition e min max greedy =
      if (boundsFor e min max).2 = some 0 then .text []
      else if (boundsFor e min max).1 = 1 ∧ (boundsFor e min max).2 = some 1 then e
      else .repeated e (boundsFor e min max).1 (boundsFor e min max).2 greedy := rfl

/-- A repetition with none but the necessary levels matches what the plain one does. -/
theorem matches_repetition_iff {min : Nat} {max : Option Nat} {greedy : Bool}
    (h : ∀ m ∈ max, min ≤ m) :
    Matches isWord w (repetition e min max greedy) i j ↔
      Matches isWord w (.repeated e min max greedy) i j := by
  rw [← matches_boundsFor_iff h, repetition_eq]
  have hbounds := boundsFor_le (e := e) h
  split
  · next hmax =>
    obtain hmin : (boundsFor e min max).1 = 0 := Nat.le_zero.1 (hbounds 0 hmax)
    rw [hmin, hmax, matches_repeated_zero_iff]
  · split
    · next hone => rw [hone.1, hone.2, matches_repeated_one_iff]
    · exact Iff.rfl

/-! ## Bounds stay in order -/

/-- A set repeats nothing. -/
theorem Bounded.ofSet (set : CharSet) : Bounded (ofSet set) := by
  unfold Expr.ofSet
  split
  · exact .text _
  · exact .oneOf _

/-- Parts of an expression have their bounds in order if it has. -/
theorem Bounded.of_mem_parts (h : Bounded e) : ∀ f ∈ parts e, Bounded f := by
  unfold parts
  split
  · cases h with
    | concat hes => exact hes
  · exact nofun
  · exact List.forall_mem_singleton.2 h

/-- So do its choices. -/
theorem Bounded.of_mem_choices (h : Bounded e) : ∀ f ∈ choices e, Bounded f := by
  unfold choices
  split
  · cases h with
    | choice hes => exact hes
  · exact List.forall_mem_singleton.2 h

/-- Joined texts repeat nothing, and the other parts are as they were. -/
theorem Bounded.of_mem_foldr_consPart (h : ∀ e ∈ es, Bounded e) :
    ∀ f ∈ es.foldr consPart [], Bounded f := by
  induction es with
  | nil => exact nofun
  | cons e es ih =>
    obtain ⟨he, hes⟩ := List.forall_mem_cons.1 h
    have hrest := ih hes
    rw [List.foldr_cons]
    -- What stands behind the first part matters only in whether it starts with a text.
    generalize es.foldr consPart [] = rest at hrest
    unfold consPart
    split
    · exact List.forall_mem_cons.2 ⟨.text _, (List.forall_mem_cons.1 hrest).2⟩
    · exact List.forall_mem_cons.2 ⟨he, hrest⟩

/-- The bounds in a sequence are those in its expressions. -/
theorem Bounded.sequence (h : ∀ e ∈ es, Bounded e) : Bounded (sequence es) := by
  have hparts : ∀ f ∈ es.flatMap parts, Bounded f := by
    intro f hf
    obtain ⟨e, he, hf⟩ := List.mem_flatMap.1 hf
    exact (h e he).of_mem_parts f hf
  have hall := of_mem_foldr_consPart hparts
  unfold Expr.sequence
  split
  · exact .text []
  · next e hone =>
    rw [hone] at hall
    exact hall e List.mem_cons_self
  · exact .concat hall

/-- The bounds in a choice are those in its alternatives, however far a common start is taken
out. -/
theorem Bounded.alternatives {fuel : Nat} (h : ∀ e ∈ es, Bounded e) :
    Bounded (alternatives fuel es) := by
  have hchoices : ∀ f ∈ es.flatMap choices, Bounded f := by
    intro f hf
    obtain ⟨e, he, hf⟩ := List.mem_flatMap.1 hf
    exact (h e he).of_mem_choices f hf
  -- The induction takes the rests of the sequences as new alternatives, so it is about the choices
  -- and not about the expressions that they come from.
  clear h
  fun_induction Expr.alternatives fuel es with
  | case1 => exact .oneOf ∅
  | case2 _ _ e hone =>
    rw [hone] at hchoices
    exact hchoices e List.mem_cons_self
  | case3 => exact .ofSet _
  | case4 => exact .choice hchoices
  | case5 es fuel first others _ _ _ hsequences _ rests ih =>
    have hparts : ∀ ps ∈ first :: others, ∀ e ∈ ps, Bounded e := by
      intro ps hps e he
      rw [eq_map_of_sequenceParts? hsequences] at hchoices
      cases hchoices (.concat ps) (List.mem_map.2 ⟨ps, hps, rfl⟩) with
      | concat hes => exact hes e he
    have hrests : ∀ f ∈ rests, Bounded f := by
      intro f hf
      obtain ⟨ps, hps, rfl⟩ := List.mem_map.1 hf
      exact .sequence fun e he => hparts ps hps e (List.mem_of_mem_drop he)
    refine .sequence fun e he => ?_
    rcases List.mem_append.1 he with hstart | hlast
    · have hprefix := foldl_commonStart_isPrefix first others first List.mem_cons_self
      have hfirst := hprefix.subset hstart
      exact hparts first List.mem_cons_self e hfirst
    · obtain rfl := List.mem_singleton.1 hlast
      refine ih fun f hf => ?_
      obtain ⟨e, he, hf⟩ := List.mem_flatMap.1 hf
      exact (hrests e he).of_mem_choices f hf
  | case6 => exact .choice hchoices

/-- The bounds of a repetition stay in order when they are cut. -/
theorem Bounded.repetition (he : Bounded e) {min : Nat} {max : Option Nat} {greedy : Bool}
    (h : ∀ m ∈ max, min ≤ m) : Bounded (repetition e min max greedy) := by
  rw [repetition_eq]
  split
  · exact .text []
  · split
    · exact he
    · exact .repeated greedy (boundsFor_le h) he

/-! ## Normal forms -/

/-- The normal forms of a list of expressions are those of its members. -/
theorem normalAll_eq_map (es : List Expr) : normalAll es = es.map normal := by
  induction es with
  | nil => rfl
  | cons e es ih => rw [normalAll, ih, List.map_cons]

/-- A normal form has its bounds in order if its expression has. -/
theorem Bounded.normal (h : Bounded e) : Bounded (normal e) := by
  have hmap : ∀ {es : List Expr}, (∀ e ∈ es, Bounded e.normal) →
      ∀ f ∈ normalAll es, Bounded f := by
    intro es hes
    rw [normalAll_eq_map]
    exact List.forall_mem_map.2 hes
  induction h with
  | text cs => exact .text cs
  | oneOf set => exact .ofSet set
  | look l => exact .look l
  | repeated greedy hbounds _ ih => exact ih.repetition hbounds
  | group _ ih => exact .group ih
  | concat _ ih => exact .sequence (hmap ih)
  | choice _ ih => exact .alternatives (hmap ih)

/-- **A normal form matches what its expression matches**, in every text and between any places. -/
theorem matches_normal_iff (h : Bounded e) :
    ∀ i j, Matches isWord w (normal e) i j ↔ Matches isWord w e i j := by
  induction h with
  | text cs => exact fun i j => Iff.rfl
  | oneOf set => exact fun i j => matches_ofSet_iff
  | look l => exact fun i j => Iff.rfl
  | repeated greedy hbounds _ ih =>
    intro i j
    rw [normal, matches_repetition_iff hbounds]
    -- A repetition of parts that match the same matches the same, in either direction.
    exact ⟨Refines.repeated (fun i j => (ih i j).1) i j,
      Refines.repeated (fun i j => (ih i j).2) i j⟩
  | group _ ih =>
    intro i j
    rw [normal, matches_group_iff, matches_group_iff]
    exact ih i j
  | concat _ ih =>
    intro i j
    rw [normal, matches_sequence_iff, normalAll_eq_map, matches_concat_map_iff ih]
  | @choice es _ ih =>
    intro i j
    rw [normal, matches_alternatives_iff, normalAll_eq_map]
    simp only [matches_choice_iff, List.mem_map]
    constructor
    · rintro ⟨_, ⟨e, he, rfl⟩, hmatch⟩
      exact ⟨e, he, (ih e he i j).1 hmatch⟩
    · rintro ⟨e, he, hmatch⟩
      exact ⟨_, ⟨e, he, rfl⟩, (ih e he i j).2 hmatch⟩

/-! ## From the start to the end of the text -/

/-- So has the anchored expression. -/
theorem Bounded.anchored (h : Bounded e) : Bounded (anchored e) := by
  refine .sequence ?_
  simp only [List.forall_mem_cons]
  exact ⟨.look _, h.normal, .look _, nofun⟩

/-- The start of a text is where no character stands before. A place past the end has none before it
either, but no match is there. -/
theorem matches_textStart_iff :
    Matches isWord w (.look .textStart) i j ↔ i = 0 ∧ j = 0 := by
  have hholds : Look.textStart.holds isWord (charBefore w i) (charAfter w i) = true ↔
      i = 0 ∨ w.length < i := by
    unfold charBefore
    by_cases h : i = 0
    · simp only [h, if_pos, Look.holds, Option.isNone_none, true_or]
    · rw [if_neg h, Look.holds, Option.isNone_iff_eq_none, List.getElem?_eq_none_iff]
      omega
  rw [matches_look_iff, hholds]
  omega

/-- The end of a text is where no character stands behind. -/
theorem matches_textEnd_iff :
    Matches isWord w (.look .textEnd) i j ↔ i = w.length ∧ j = w.length := by
  have hholds : Look.textEnd.holds isWord (charBefore w i) (charAfter w i) = true ↔
      w.length ≤ i := by
    simp [Look.holds, charAfter]
  rw [matches_look_iff, hholds]
  omega

/-- **An anchored expression matches the whole text or nothing**, wherever a match is looked for. -/
theorem matches_anchored_iff (h : Bounded e) :
    Matches isWord w (anchored e) i j ↔ i = 0 ∧ j = w.length ∧ MatchesWhole isWord e w := by
  rw [anchored, matches_sequence_iff]
  simp only [matches_concat_cons_iff, matches_concat_nil_iff, matches_textStart_iff,
    matches_textEnd_iff, matches_normal_iff h, MatchesWhole]
  constructor
  · rintro ⟨_, ⟨rfl, rfl⟩, _, hmatch, _, ⟨rfl, rfl⟩, rfl, -⟩
    exact ⟨rfl, rfl, hmatch⟩
  · rintro ⟨rfl, rfl, hmatch⟩
    exact ⟨0, ⟨rfl, rfl⟩, w.length, hmatch, w.length, ⟨rfl, rfl⟩, rfl, Nat.le_refl _⟩

end CredentialPolicy.Pattern.Expr
