import CredentialPolicy.Pattern.Expr

/-!
What expressions match, constructor by constructor.

Each constructor has one equation for the places between which it matches. That of a repetition
counts: it is a chain of matches of what is repeated, as many as the repetition allows
(`matches_repeated_iff`). The number of matches is what the other modules argue about, so none of
them takes a derivation of a repetition apart again.

Expressions are compared by what they match in one text, whatever the text is: `Refines` says that
one matches no more than the other. All constructors keep that order.
-/

set_option autoImplicit false

namespace CredentialPolicy.Pattern.Expr

/-! ## Induction -/

/-- Induction over an expression; what holds of all parts holds of the whole. -/
@[elab_as_elim] theorem induct {motive : Expr → Prop} (text : ∀ cs, motive (.text cs))
    (oneOf : ∀ set, motive (.oneOf set)) (look : ∀ l, motive (.look l))
    (repeated : ∀ e min max greedy, motive e → motive (.repeated e min max greedy))
    (group : ∀ e, motive e → motive (.group e))
    (concat : ∀ es, (∀ e ∈ es, motive e) → motive (.concat es))
    (choice : ∀ es, (∀ e ∈ es, motive e) → motive (.choice es)) : ∀ e, motive e
  | .text cs => text cs
  | .oneOf set => oneOf set
  | .look l => look l
  | .repeated e min max greedy =>
    repeated e min max greedy (induct text oneOf look repeated group concat choice e)
  | .group e => group e (induct text oneOf look repeated group concat choice e)
  | .concat es => concat es fun e _ => induct text oneOf look repeated group concat choice e
  | .choice es => choice es fun e _ => induct text oneOf look repeated group concat choice e

/-! ## Chains -/

/-- A relation followed some number of times. -/
def Chain (R : Nat → Nat → Prop) : Nat → Nat → Nat → Prop
  | 0, i, j => i = j
  | n + 1, i, j => ∃ k, R i k ∧ Chain R n k j

namespace Chain

variable {R S : Nat → Nat → Prop} {m n i j k : Nat}

/-- A chain of one relation is one of any relation that holds wherever the first does. -/
theorem mono (h : ∀ i j, R i j → S i j) (hchain : Chain R n i j) : Chain S n i j := by
  induction n generalizing i with
  | zero => exact hchain
  | succ n ih =>
    obtain ⟨k, hfirst, hrest⟩ := hchain
    exact ⟨k, h i k hfirst, ih hrest⟩

/-- Chains that meet make one chain, and their lengths add up. -/
theorem append (hfirst : Chain R m i j) (hrest : Chain R n j k) : Chain R (m + n) i k := by
  induction m generalizing i with
  | zero =>
    obtain rfl : i = j := hfirst
    rwa [Nat.zero_add]
  | succ m ih =>
    obtain ⟨l, hl, hchain⟩ := hfirst
    rw [Nat.succ_add]
    exact ⟨l, hl, ih hchain⟩

/-- A chain can be cut after any number of steps. -/
theorem split (h : Chain R (m + n) i k) : ∃ j, Chain R m i j ∧ Chain R n j k := by
  induction m generalizing i with
  | zero =>
    rw [Nat.zero_add] at h
    exact ⟨i, rfl, h⟩
  | succ m ih =>
    rw [Nat.succ_add] at h
    obtain ⟨l, hl, hchain⟩ := h
    obtain ⟨j, hfirst, hrest⟩ := ih hchain
    exact ⟨j, ⟨l, hl, hfirst⟩, hrest⟩

/-- If no step goes back, neither does a chain. -/
theorem le (h : ∀ i j, R i j → i ≤ j) (hchain : Chain R n i j) : i ≤ j := by
  induction n generalizing i with
  | zero => exact Nat.le_of_eq hchain
  | succ n ih =>
    obtain ⟨k, hfirst, hrest⟩ := hchain
    exact Nat.le_trans (h i k hfirst) (ih hrest)

/-- A chain that starts at one of the first places stays there if each step does. -/
theorem within (h : ∀ i j, R i j → j ≤ m) (hi : i ≤ m) (hchain : Chain R n i j) : j ≤ m := by
  induction n generalizing i with
  | zero =>
    obtain rfl : i = j := hchain
    exact hi
  | succ n ih =>
    obtain ⟨k, hfirst, hrest⟩ := hchain
    exact ih (h i k hfirst) hrest

/-- If no step moves, neither does a chain. -/
theorem eq (h : ∀ i j, R i j → i = j) (hchain : Chain R n i j) : i = j := by
  induction n generalizing i with
  | zero => exact hchain
  | succ n ih =>
    obtain ⟨k, hfirst, hrest⟩ := hchain
    exact (h i k hfirst).trans (ih hrest)

/-- Steps that stay where they are can be left out of a chain that never goes back, and then each of
the others takes a place of its own. -/
theorem shorten (h : ∀ i j, R i j → i ≤ j) (hchain : Chain R n i j) :
    ∃ m, m ≤ n ∧ m ≤ j - i ∧ Chain R m i j := by
  induction n generalizing i with
  | zero =>
    obtain rfl : i = j := hchain
    exact ⟨0, Nat.le_refl 0, Nat.zero_le _, rfl⟩
  | succ n ih =>
    obtain ⟨k, hfirst, hrest⟩ := hchain
    have hik := h i k hfirst
    have hkj := hrest.le h
    obtain ⟨m, hmn, hm, hshort⟩ := ih hrest
    rcases Nat.eq_or_lt_of_le hik with rfl | hlt
    · exact ⟨m, by omega, hm, hshort⟩
    · exact ⟨m + 1, by omega, by omega, k, hfirst, hshort⟩

end Chain

/-! ## Equations -/

variable {isWord : WordKind → Char → Bool} {w : List Char} {e f : Expr} {es fs : List Expr}
  {i j k : Nat}

/-- A match goes forward and stays within the text. -/
theorem Matches.le_and_le (h : Matches isWord w e i j) : i ≤ j ∧ j ≤ w.length := by
  have hlt : ∀ {c i}, charAfter w i = some c → i < w.length := fun hc =>
    (List.getElem?_eq_some_iff.1 hc).1
  induction h with
  | textNil h => exact ⟨Nat.le_refl _, h⟩
  | textCons h _ ih => omega
  | oneOf h hc =>
    have := hlt h
    omega
  | look hi h => exact ⟨Nat.le_refl _, hi⟩
  | stop h => exact ⟨Nat.le_refl _, h⟩
  | again hmax _ _ ihfirst ihrest => omega
  | group _ ih => exact ih
  | concatNil h => exact ⟨Nat.le_refl _, h⟩
  | concatCons _ _ ihfirst ihrest => omega
  | choice _ _ ih => exact ih

theorem Matches.le (h : Matches isWord w e i j) : i ≤ j := h.le_and_le.1

theorem Matches.le_length (h : Matches isWord w e i j) : j ≤ w.length := h.le_and_le.2

/-- The empty text takes no room, and has it anywhere in the text, the end included. -/
theorem matches_text_nil_iff : Matches isWord w (.text []) i j ↔ i = j ∧ i ≤ w.length := by
  constructor
  · rintro ⟨h⟩
    exact ⟨rfl, by assumption⟩
  · rintro ⟨rfl, h⟩
    exact .textNil h

/-- A text is matched character by character. -/
theorem matches_text_cons_iff {c : Char} {cs : List Char} :
    Matches isWord w (.text (c :: cs)) i j ↔
      w[i]? = some c ∧ Matches isWord w (.text cs) (i + 1) j := by
  constructor
  · intro h
    cases h with
    | textCons hc hrest => exact ⟨hc, hrest⟩
  · rintro ⟨hc, hrest⟩
    exact .textCons hc hrest

/-- Two texts joined are matched one after the other. -/
theorem matches_text_append_iff {a b : List Char} :
    Matches isWord w (.text (a ++ b)) i k ↔
      ∃ j, Matches isWord w (.text a) i j ∧ Matches isWord w (.text b) j k := by
  induction a generalizing i with
  | nil =>
    simp only [List.nil_append, matches_text_nil_iff]
    constructor
    · intro h
      exact ⟨i, ⟨rfl, Nat.le_trans h.le h.le_length⟩, h⟩
    · rintro ⟨j, ⟨rfl, -⟩, h⟩
      exact h
  | cons c a ih =>
    simp only [List.cons_append, matches_text_cons_iff, ih, exists_and_left, and_assoc]

/-- A set matches exactly one character, which is one of its own. -/
theorem matches_oneOf_iff {set : Unicode.CharSet} :
    Matches isWord w (.oneOf set) i j ↔ j = i + 1 ∧ ∃ c ∈ set, w[i]? = some c := by
  constructor
  · intro h
    cases h with
    | oneOf hc hmem => exact ⟨rfl, _, hmem, hc⟩
  · rintro ⟨rfl, c, hmem, hc⟩
    exact .oneOf hc hmem

/-- A condition takes no room, and is asked of the characters on both sides. -/
theorem matches_look_iff {l : Look} :
    Matches isWord w (.look l) i j ↔
      i = j ∧ i ≤ w.length ∧ l.holds isWord (charBefore w i) (charAfter w i) = true := by
  constructor
  · intro h
    cases h with
    | look hi hholds => exact ⟨rfl, hi, hholds⟩
  · rintro ⟨rfl, hi, hholds⟩
    exact .look hi hholds

/-- A mark makes no difference to what matches. -/
theorem matches_group_iff : Matches isWord w (.group e) i j ↔ Matches isWord w e i j := by
  constructor
  · intro h
    cases h with
    | group h => exact h
  · exact .group

/-- No expressions match like the empty text. -/
theorem matches_concat_nil_iff : Matches isWord w (.concat []) i j ↔ i = j ∧ i ≤ w.length := by
  constructor
  · intro h
    cases h with
    | concatNil h => exact ⟨rfl, h⟩
  · rintro ⟨rfl, h⟩
    exact .concatNil h

/-- The first of several expressions ends where the others start. -/
theorem matches_concat_cons_iff :
    Matches isWord w (.concat (e :: es)) i k ↔
      ∃ j, Matches isWord w e i j ∧ Matches isWord w (.concat es) j k := by
  constructor
  · intro h
    cases h with
    | concatCons hfirst hrest => exact ⟨_, hfirst, hrest⟩
  · rintro ⟨j, hfirst, hrest⟩
    exact .concatCons hfirst hrest

theorem matches_concat_singleton_iff :
    Matches isWord w (.concat [e]) i k ↔ Matches isWord w e i k := by
  simp only [matches_concat_cons_iff, matches_concat_nil_iff]
  constructor
  · rintro ⟨j, h, rfl, -⟩
    exact h
  · intro h
    exact ⟨k, h, rfl, h.le_length⟩

/-- A sequence can be cut anywhere between its expressions. -/
theorem matches_concat_append_iff :
    Matches isWord w (.concat (es ++ fs)) i k ↔
      ∃ j, Matches isWord w (.concat es) i j ∧ Matches isWord w (.concat fs) j k := by
  induction es generalizing i with
  | nil =>
    simp only [List.nil_append, matches_concat_nil_iff]
    constructor
    · intro h
      -- The empty sequence stays where it is, which has to be inside the text.
      exact ⟨i, ⟨rfl, Nat.le_trans h.le h.le_length⟩, h⟩
    · rintro ⟨j, ⟨rfl, -⟩, h⟩
      exact h
  | cons e es ih =>
    simp only [List.cons_append, matches_concat_cons_iff, ih]
    constructor
    · rintro ⟨l, hl, j, hj, hk⟩
      exact ⟨j, ⟨l, hl, hj⟩, hk⟩
    · rintro ⟨j, ⟨l, hl, hj⟩, hk⟩
      exact ⟨l, hl, j, hj, hk⟩

/-- A choice matches exactly what one of its expressions matches. -/
theorem matches_choice_iff :
    Matches isWord w (.choice es) i j ↔ ∃ e ∈ es, Matches isWord w e i j := by
  constructor
  · intro h
    cases h with
    | choice he h => exact ⟨_, he, h⟩
  · rintro ⟨e, he, h⟩
    exact .choice he h

/-! ### Repetitions -/

/-- How often an expression with given bounds may match. -/
def Allows (min : Nat) (max : Option Nat) (n : Nat) : Prop := min ≤ n ∧ ∀ m ∈ max, n ≤ m

/-- A first match is allowed and leaves one fewer to be made and to be allowed, just as the
derivation of a repetition counts them. -/
theorem allows_succ_iff {min n : Nat} {max : Option Nat} :
    max ≠ some 0 ∧ Allows (min - 1) (max.map (· - 1)) n ↔ Allows min max (n + 1) := by
  cases max with
  | none => simp [Allows]
  | some m =>
    simp only [Allows, Option.map_some, Option.mem_some_iff, forall_eq', ne_eq, Option.some.injEq]
    omega

/-- A derivation of a repetition is a chain. The induction is on the derivation: a stop is the empty
chain, and each further match is one more step. -/
theorem exists_chain_of_matches (h : Matches isWord w f i j) {min : Nat} {max : Option Nat}
    {greedy : Bool} (hf : f = .repeated e min max greedy) :
    ∃ n, Allows min max n ∧ Chain (Matches isWord w e) n i j := by
  induction h generalizing min max with
  | stop hi =>
    cases hf
    exact ⟨0, ⟨Nat.le_refl 0, fun m _ => Nat.zero_le m⟩, rfl⟩
  | again hmax hfirst _ _ ih =>
    cases hf
    obtain ⟨n, hn, hchain⟩ := ih rfl
    exact ⟨n + 1, allows_succ_iff.1 ⟨hmax, hn⟩, _, hfirst, hchain⟩
  | _ => cases hf

/-- Conversely each chain of an allowed length derives the repetition, one match after the other. -/
theorem matches_of_chain {min n : Nat} {max : Option Nat} {greedy : Bool} (hi : i ≤ w.length)
    (hn : Allows min max n) (h : Chain (Matches isWord w e) n i j) :
    Matches isWord w (.repeated e min max greedy) i j := by
  induction n generalizing i min max with
  | zero =>
    obtain rfl : i = j := h
    obtain rfl : min = 0 := Nat.le_zero.1 hn.1
    exact .stop hi
  | succ n ih =>
    obtain ⟨k, hfirst, hrest⟩ := h
    obtain ⟨hmax, hallows⟩ := allows_succ_iff.2 hn
    exact .again hmax hfirst (ih hfirst.le_length hallows hrest)

/-- A repetition matches a chain of matches, as many as it allows. -/
theorem matches_repeated_iff {min : Nat} {max : Option Nat} {greedy : Bool} :
    Matches isWord w (.repeated e min max greedy) i j ↔
      i ≤ w.length ∧ ∃ n, Allows min max n ∧ Chain (Matches isWord w e) n i j := by
  constructor
  · intro h
    exact ⟨Nat.le_trans h.le h.le_length, exists_chain_of_matches h rfl⟩
  · rintro ⟨hi, n, hn, hchain⟩
    exact matches_of_chain hi hn hchain

/-- Nowhere in an expression does a repetition require more matches than it allows. -/
inductive Bounded : Expr → Prop where
  | text (cs : List Char) : Bounded (.text cs)
  | oneOf (set : Unicode.CharSet) : Bounded (.oneOf set)
  | look (l : Look) : Bounded (.look l)
  | repeated {e : Expr} {min : Nat} {max : Option Nat} (greedy : Bool) (h : ∀ m ∈ max, min ≤ m)
    (he : Bounded e) : Bounded (.repeated e min max greedy)
  | group {e : Expr} (he : Bounded e) : Bounded (.group e)
  | concat {es : List Expr} (hes : ∀ e ∈ es, Bounded e) : Bounded (.concat es)
  | choice {es : List Expr} (hes : ∀ e ∈ es, Bounded e) : Bounded (.choice es)

/-! ## Comparing expressions -/

/-- One expression matches only what the other one does. -/
def Refines (isWord : WordKind → Char → Bool) (w : List Char) (e f : Expr) : Prop :=
  ∀ i j, Matches isWord w e i j → Matches isWord w f i j

namespace Refines

theorem refl (e : Expr) : Refines isWord w e e := fun _ _ h => h

theorem trans {e f g : Expr} (hef : Refines isWord w e f) (hfg : Refines isWord w f g) :
    Refines isWord w e g := fun i j h => hfg i j (hef i j h)

/-- What a repetition repeats may be loosened; whether it is greedy is of no matter. -/
theorem repeated {min : Nat} {max : Option Nat} {greedy lazy : Bool} (h : Refines isWord w e f) :
    Refines isWord w (.repeated e min max greedy) (.repeated f min max lazy) := by
  intro i j hmatch
  obtain ⟨hi, n, hn, hchain⟩ := matches_repeated_iff.1 hmatch
  exact matches_repeated_iff.2 ⟨hi, n, hn, hchain.mono h⟩

theorem group (h : Refines isWord w e f) : Refines isWord w (.group e) (.group f) :=
  fun i j hmatch => .group (h i j (matches_group_iff.1 hmatch))

/-- Each part of a sequence may be loosened by itself. -/
theorem concat_map {a b : Expr → Expr} (h : ∀ e ∈ es, Refines isWord w (a e) (b e)) :
    Refines isWord w (.concat (es.map a)) (.concat (es.map b)) := by
  induction es with
  | nil => exact refl _
  | cons e es ih =>
    obtain ⟨he, hes⟩ := List.forall_mem_cons.1 h
    intro i k hmatch
    obtain ⟨j, hfirst, hrest⟩ := matches_concat_cons_iff.1 hmatch
    exact .concatCons (he i j hfirst) (ih hes j k hrest)

/-- Each alternative of a choice may be loosened by itself. -/
theorem choice_map {a b : Expr → Expr} (h : ∀ e ∈ es, Refines isWord w (a e) (b e)) :
    Refines isWord w (.choice (es.map a)) (.choice (es.map b)) := by
  intro i j hmatch
  obtain ⟨_, hmem, hone⟩ := matches_choice_iff.1 hmatch
  obtain ⟨e, he, rfl⟩ := List.mem_map.1 hmem
  exact .choice (List.mem_map.2 ⟨e, he, rfl⟩) (h e he i j hone)

end Refines

end CredentialPolicy.Pattern.Expr
