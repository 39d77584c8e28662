import CredentialPolicy.Pattern.Matcher
import CredentialPolicy.Proofs.Pattern.Language
import CredentialPolicy.Proofs.Unicode.CharSet

/-!
The matcher decides what expressions match.

A function on sets of places follows a relation on places if it leads from a set to all places that
the relation leads to from one in it (`Follows`). The walk of an expression follows the matches of
the expression (`follows_reach_walk`), by induction over the expression; what the induction needs is
one lemma for each way in which walks are put together. For a repetition the steps are counted, and
two shortcuts have to be justified. Steps that change nothing are not taken again, which is sound
because the next ones would change nothing either; and a repetition without a limit is taken no more
often than the text has characters, because a chain of matches can be shortened to that.
-/

set_option autoImplicit false

namespace CredentialPolicy.Pattern

/-! ## Sets of places -/

/-- Doubling moves every place up by one and makes room for a new first one. -/
theorem testBit_two_mul_add (n : Nat) (b : Bool) (i : Nat) :
    (2 * n + b.toNat).testBit i = if i = 0 then b else n.testBit (i - 1) := by
  cases i with
  | zero => cases b <;> simp
  | succ i =>
    have half : (2 * n + b.toNat) / 2 = n := by
      have := Bool.toNat_lt b
      omega
    simp [Nat.testBit_succ, half]

/-- The places of a condition are those where it holds of the characters on both sides. -/
theorem testBit_conditionPlaces (test : Option Char → Option Char → Bool) (before : Option Char)
    (w : List Char) (i : Nat) :
    (conditionPlaces test before w).testBit i = true ↔
      i ≤ w.length ∧ test (if i = 0 then before else w[i - 1]?) w[i]? = true := by
  induction w generalizing before i with
  | nil =>
    cases i with
    | zero => cases h : test before none <;> simp [conditionPlaces, h]
    | succ i => cases h : test before none <;> simp [conditionPlaces, h, Nat.testBit_succ]
  | cons c r ih =>
    rw [conditionPlaces, testBit_two_mul_add]
    cases i with
    | zero => simp
    | succ i =>
      have hbefore : (c :: r)[i]? = if i = 0 then some c else r[i - 1]? := by
        cases i <;> rfl
      simp [ih, hbefore]

/-- All places of a set are places of a text of some length. -/
def Within (n places : Nat) : Prop := ∀ i, places.testBit i = true → i ≤ n

/-- From a set of places of a text, a function leads to all places that a relation leads to. -/
def Follows (n : Nat) (step : Nat → Nat) (R : Nat → Nat → Prop) : Prop :=
  ∀ places, Within n places → ∀ j,
    (step places).testBit j = true ↔ ∃ i, places.testBit i = true ∧ R i j

namespace Follows

variable {n : Nat} {step next : Nat → Nat} {R S : Nat → Nat → Prop}

/-- Where a relation stays in the text, so does the step that follows it. -/
theorem within (h : Follows n step R) (hR : ∀ i j, i ≤ n → R i j → j ≤ n) {places : Nat}
    (hplaces : Within n places) : Within n (step places) := by
  intro j hj
  obtain ⟨i, hi, hij⟩ := (h places hplaces j).1 hj
  exact hR i j (hplaces i hi) hij

/-- Only what a relation says about places in the text counts. -/
theorem congr (h : Follows n step R) (hRS : ∀ i j, i ≤ n → (R i j ↔ S i j)) :
    Follows n step S := by
  intro places hplaces j
  rw [h places hplaces j]
  exact exists_congr fun i => and_congr_right fun hi => hRS i j (hplaces i hi)

/-- A shift moves the places whose character passes to the next ones. -/
theorem char (here : Nat) :
    Follows n (fun places => (places &&& here) <<< 1)
      fun i j => j = i + 1 ∧ here.testBit i = true := by
  intro places _ j
  simp only [Nat.testBit_shiftLeft, Nat.testBit_and, Bool.and_eq_true, decide_eq_true_eq]
  constructor
  · rintro ⟨hj, hi, hhere⟩
    exact ⟨j - 1, hi, by omega, hhere⟩
  · rintro ⟨i, hi, rfl, hhere⟩
    exact ⟨Nat.le_add_left 1 i, hi, hhere⟩

/-- A mask keeps the places where a condition holds. -/
theorem stay (here : Nat) :
    Follows n (fun places => places &&& here) fun i j => i = j ∧ here.testBit i = true := by
  intro places _ j
  simp only [Nat.testBit_and, Bool.and_eq_true]
  constructor
  · rintro ⟨hj, hhere⟩
    exact ⟨j, hj, rfl, hhere⟩
  · rintro ⟨i, hi, rfl, hhere⟩
    exact ⟨hi, hhere⟩

/-- Steps one after the other follow the relations one after the other, if the first stays in the
text. -/
theorem comp (h : Follows n step R) (hR : ∀ i j, i ≤ n → R i j → j ≤ n) (hnext : Follows n next S) :
    Follows n (fun places => next (step places)) fun i k => ∃ j, R i j ∧ S j k := by
  intro places hplaces k
  rw [hnext _ (h.within hR hplaces)]
  simp only [h places hplaces]
  constructor
  · rintro ⟨j, ⟨i, hi, hij⟩, hjk⟩
    exact ⟨i, hi, j, hij, hjk⟩
  · rintro ⟨i, hi, j, hij, hjk⟩
    exact ⟨j, ⟨i, hi, hij⟩, hjk⟩

/-- Steps side by side follow either relation. -/
theorem union (h : Follows n step R) (hnext : Follows n next S) :
    Follows n (fun places => step places ||| next places) fun i j => R i j ∨ S i j := by
  intro places hplaces j
  simp only [Nat.testBit_or, Bool.or_eq_true, h places hplaces, hnext places hplaces, and_or_left,
    exists_or]

/-! ## Steps over and over -/

open Pattern.Expr (Chain)

/-- If one step changes nothing, then no number of steps does. -/
theorem chain_of_step_eq (h : Follows n step R) {places : Nat} (hplaces : Within n places)
    (heq : step places = places) (m j : Nat) :
    places.testBit j = true ↔ ∃ i, places.testBit i = true ∧ Chain R m i j := by
  induction m with
  | zero =>
    constructor
    · exact fun hj => ⟨j, hj, rfl⟩
    · rintro ⟨i, hi, rfl⟩
      exact hi
  | succ m ih =>
    rw [ih]
    -- The last step starts and ends among the same places.
    have hstep := h places hplaces
    rw [heq] at hstep
    constructor
    · rintro ⟨k, hk, hchain⟩
      obtain ⟨i, hi, hik⟩ := (hstep k).1 hk
      exact ⟨i, hi, k, hik, hchain⟩
    · rintro ⟨i, hi, k, hik, hchain⟩
      exact ⟨k, (hstep k).2 ⟨i, hi, hik⟩, hchain⟩

/-- A step taken some number of times follows the chains of that length. -/
theorem stepsExactly (h : Follows n step R) (hR : ∀ i j, R i j → j ≤ n) (m : Nat) :
    Follows n (stepsExactly step m) (Chain R m) := by
  induction m with
  | zero =>
    intro places _ j
    exact ⟨fun hj => ⟨j, hj, rfl⟩, fun ⟨i, hi, hij⟩ => hij ▸ hi⟩
  | succ m ih =>
    intro places hplaces j
    rw [Pattern.stepsExactly]
    split
    -- A step that changes nothing ends the walk, so the steps left have to change nothing either.
    · next heq => exact h.chain_of_step_eq hplaces heq (m + 1) j
    · exact h.comp (fun i j _ => hR i j) ih places hplaces j

/-- A set that one step does not leave is not left by any number of steps. -/
theorem mem_of_chain (h : Follows n step R) {places : Nat} (hplaces : Within n places)
    (hstep : ∀ j, (step places).testBit j = true → places.testBit j = true) {m i j : Nat}
    (hi : places.testBit i = true) (hchain : Chain R m i j) : places.testBit j = true := by
  induction m generalizing i with
  | zero =>
    obtain rfl : i = j := hchain
    exact hi
  | succ m ih =>
    obtain ⟨k, hik, hrest⟩ := hchain
    exact ih (hstep k ((h places hplaces k).2 ⟨i, hi, hik⟩)) hrest

/-- Taken up to some number of times it follows the chains of up to that length. -/
theorem stepsAtMost (h : Follows n step R) (hR : ∀ i j, R i j → j ≤ n) (m : Nat) :
    Follows n (stepsAtMost step m) fun i j => ∃ l ≤ m, Chain R l i j := by
  induction m with
  | zero =>
    intro places _ j
    constructor
    · exact fun hj => ⟨j, hj, 0, Nat.le_refl 0, rfl⟩
    · rintro ⟨i, hi, l, hl, hchain⟩
      obtain rfl := Nat.le_zero.1 hl
      obtain rfl : i = j := hchain
      exact hi
  | succ m ih =>
    intro places hplaces j
    -- The places so far are kept, so after a step there is one more way to be at each of them.
    have hnext : ∀ j, (places ||| step places).testBit j = true ↔
        places.testBit j = true ∨ ∃ i, places.testBit i = true ∧ R i j := by
      intro j
      rw [Nat.testBit_or, Bool.or_eq_true, h places hplaces]
    rw [Pattern.stepsAtMost]
    split
    · next heq =>
      have hstep : ∀ j, (step places).testBit j = true → places.testBit j = true := by
        intro j hj
        rw [← heq, hnext, ← h places hplaces]
        exact .inr hj
      constructor
      · exact fun hj => ⟨j, hj, 0, Nat.zero_le _, rfl⟩
      · rintro ⟨i, hi, l, -, hchain⟩
        exact h.mem_of_chain hplaces hstep hi hchain
    · have hwithin : Within n (places ||| step places) := by
        intro j hj
        rcases (hnext j).1 hj with hj | ⟨i, -, hij⟩
        · exact hplaces j hj
        · exact hR i j hij
      rw [ih _ hwithin]
      constructor
      · rintro ⟨k, hk, l, hl, hchain⟩
        rcases (hnext k).1 hk with hk | ⟨i, hi, hik⟩
        · exact ⟨k, hk, l, Nat.le_succ_of_le hl, hchain⟩
        · exact ⟨i, hi, l + 1, Nat.succ_le_succ hl, k, hik, hchain⟩
      · rintro ⟨i, hi, l, hl, hchain⟩
        cases l with
        | zero => exact ⟨i, (hnext i).2 (.inl hi), 0, Nat.zero_le m, hchain⟩
        | succ l =>
          obtain ⟨k, hik, hrest⟩ := hchain
          exact ⟨k, (hnext k).2 (.inr ⟨i, hi, hik⟩), l, Nat.le_of_succ_le_succ hl, hrest⟩

end Follows

/-! ## Expressions -/

namespace Expr

variable {isWord : WordKind → Char → Bool} {w : List Char} {e : Expr} {es : List Expr}

/-- The walks of a list of expressions are those of its members. -/
theorem walkAll_eq_map (es : List Expr) : walkAll isWord w es = es.map (walk isWord w) := by
  induction es with
  | nil => rfl
  | cons e es ih => rw [walkAll, ih, List.map_cons]

/-- A test of single characters is followed by one place. -/
theorem follows_char {test : Char → Bool} :
    Follows w.length (Walk.char (charPlaces test w)).reach
      fun i j => j = i + 1 ∧ ∃ c, w[i]? = some c ∧ test c = true := by
  refine (Follows.char (charPlaces test w)).congr fun i j _ => ?_
  rw [testBit_charPlaces, Option.any_eq_true]

/-- No walks at all lead nowhere else. -/
theorem follows_nothing {R : Nat → Nat → Prop} (hR : ∀ i j, R i j ↔ i = j ∧ i ≤ w.length) :
    Follows w.length (Walk.reachThrough []) R := by
  intro places hplaces j
  simp only [hR]
  exact ⟨fun hj => ⟨j, hj, rfl, hplaces j hj⟩, fun ⟨i, hi, hij, _⟩ => hij ▸ hi⟩

/-- The walk of a text follows what the text matches. The induction is on its characters, each of
them one step. -/
theorem follows_text (cs : List Char) :
    Follows w.length (walk isWord w (.text cs)).reach (Matches isWord w (.text cs)) := by
  induction cs with
  | nil => exact follows_nothing fun i j => matches_text_nil_iff
  | cons c cs ih =>
    have hle : ∀ i j, i ≤ w.length → (j = i + 1 ∧ ∃ d, w[i]? = some d ∧ decide (d = c) = true) →
        j ≤ w.length := by
      rintro i j - ⟨rfl, d, hd, -⟩
      exact (List.getElem?_eq_some_iff.1 hd).1
    refine (follows_char.comp hle ih).congr fun i k _ => ?_
    simp only [decide_eq_true_eq, exists_eq_right, matches_text_cons_iff]
    constructor
    · rintro ⟨j, ⟨rfl, hc⟩, hrest⟩
      exact ⟨hc, hrest⟩
    · rintro ⟨hc, hrest⟩
      exact ⟨i + 1, ⟨rfl, hc⟩, hrest⟩

/-- Walks one after the other follow a sequence, if each follows its expression. -/
theorem follows_through
    (h : ∀ e ∈ es, Follows w.length (walk isWord w e).reach (Matches isWord w e)) :
    Follows w.length (Walk.reachThrough (es.map (walk isWord w)))
      (Matches isWord w (.concat es)) := by
  induction es with
  | nil => exact follows_nothing fun i j => matches_concat_nil_iff
  | cons e es ih =>
    obtain ⟨he, hes⟩ := List.forall_mem_cons.1 h
    refine (he.comp (fun i j _ hij => hij.le_length) (ih hes)).congr fun i j _ => ?_
    exact matches_concat_cons_iff.symm

/-- Walks side by side follow a choice, if each follows its expression. -/
theorem follows_any
    (h : ∀ e ∈ es, Follows w.length (walk isWord w e).reach (Matches isWord w e)) :
    Follows w.length (Walk.reachAny (es.map (walk isWord w))) (Matches isWord w (.choice es)) := by
  induction es with
  | nil =>
    intro places _ j
    simp [Walk.reachAny, matches_choice_iff]
  | cons e es ih =>
    obtain ⟨he, hes⟩ := List.forall_mem_cons.1 h
    refine (he.union (ih hes)).congr fun i j _ => ?_
    simp only [matches_choice_iff, List.mem_cons, exists_eq_or_imp]

/-- How often the walk of a repetition is taken more than it has to be. -/
def spare (w : List Char) (min : Nat) : Option Nat → Nat
  | some max => max - min
  | none => w.length

/-- As long a chain as a repetition allows can be had within the steps of its walk. -/
theorem exists_chain_iff {R : Nat → Nat → Prop} (hR : ∀ i j, R i j → i ≤ j)
    (hlength : ∀ i j, R i j → j ≤ w.length) {min : Nat} {max : Option Nat}
    (h : ∀ m ∈ max, min ≤ m) {i j : Nat} (hi : i ≤ w.length) :
    (∃ k, Chain R min i k ∧ ∃ l ≤ spare w min max, Chain R l k j) ↔
      ∃ n, Allows min max n ∧ Chain R n i j := by
  constructor
  · rintro ⟨k, hfirst, l, hl, hrest⟩
    refine ⟨min + l, ⟨Nat.le_add_right min l, fun m hm => ?_⟩, hfirst.append hrest⟩
    obtain rfl : max = some m := hm
    have hmin := h m rfl
    have hl : l ≤ m - min := hl
    omega
  · rintro ⟨n, ⟨hmin, hmax⟩, hchain⟩
    obtain ⟨extra, rfl⟩ := Nat.exists_eq_add_of_le hmin
    obtain ⟨k, hfirst, hrest⟩ := hchain.split
    refine ⟨k, hfirst, ?_⟩
    cases max with
    | some m =>
      have hm := hmax m rfl
      exact ⟨extra, Nat.le_sub_of_add_le' hm, hrest⟩
    | none =>
      -- There is no limit to the matches, but the text has only so many places for them.
      obtain ⟨l, -, hl, hshort⟩ := hrest.shorten hR
      have hj : j ≤ w.length := hchain.within hlength hi
      exact ⟨l, Nat.le_trans hl (Nat.le_trans (Nat.sub_le j k) hj), hshort⟩

/-- The walk of a repetition first takes the matches that are required and then those that are
allowed besides; without an upper bound as many as there are places are enough. -/
theorem follows_repeated (he : Follows w.length (walk isWord w e).reach (Matches isWord w e))
    {min : Nat} {max : Option Nat} {greedy : Bool} (h : ∀ m ∈ max, min ≤ m) :
    Follows w.length (walk isWord w (.repeated e min max greedy)).reach
      (Matches isWord w (.repeated e min max greedy)) := by
  have hle : ∀ i j, Matches isWord w e i j → j ≤ w.length := fun i j hij => hij.le_length
  have hexactly := he.stepsExactly hle min
  have hmost := he.stepsAtMost hle (spare w min max)
  refine (hexactly.comp (fun i j hi hij => hij.within hle hi) hmost).congr fun i j hi => ?_
  rw [matches_repeated_iff, exists_chain_iff (fun i j hij => hij.le) hle h hi]
  exact (and_iff_right hi).symm

/-- **The walk of an expression** leads to where its matches end. -/
theorem follows_reach_walk (h : Bounded e) :
    Follows w.length (walk isWord w e).reach (Matches isWord w e) := by
  induction h with
  | text cs => exact follows_text cs
  | oneOf set =>
    refine follows_char.congr fun i j _ => ?_
    simp only [matches_oneOf_iff, Unicode.CharSet.contains_iff, and_comm]
  | look l =>
    refine (Follows.stay _).congr fun i j _ => ?_
    rw [testBit_conditionPlaces, matches_look_iff]
    rfl
  | repeated greedy h _ ih => exact follows_repeated ih h
  | group _ ih => exact ih.congr fun i j _ => matches_group_iff.symm
  | @concat es _ ih =>
    have hwalk := follows_through ih
    -- The walks of several expressions are listed by a function beside that of one.
    rw [← walkAll_eq_map] at hwalk
    exact hwalk
  | @choice es _ ih =>
    have hwalk := follows_any ih
    rw [← walkAll_eq_map] at hwalk
    exact hwalk

/-- **The matcher decides** whether an expression matches a whole text. -/
theorem matchesWhole_iff (h : Bounded e) :
    matchesWhole isWord e w = true ↔ MatchesWhole isWord e w := by
  have hone : ∀ i, (1 : Nat).testBit i = true ↔ i = 0 := by
    intro i
    cases i <;> simp [Nat.testBit_succ]
  have hwithin : Within w.length 1 := fun i hi => by
    rw [(hone i).1 hi]
    exact Nat.zero_le _
  rw [matchesWhole, follows_reach_walk h 1 hwithin]
  simp only [hone, exists_eq_left, MatchesWhole]

end Expr

end CredentialPolicy.Pattern
