import CredentialPolicy.Account.Verdict
import CredentialPolicy.Proofs.Pattern.Wrapping
import Mathlib.Data.List.Basic

/-!
Verdicts on usernames, gate by gate.

A username passes nine gates, of which the first one that it fails is reported. What each gate asks
for is said without the functions that check it (`Gate.Holds`), and so is what it reports
(`Gate.Refuses`); the work is to show that a gate checks and reports just that
(`Gate.check_eq_none_iff`, `Gate.check_eq_some_iff`). A verdict is then a statement about the list
of gates. Only the pattern gate needs an assumption for that, on what becomes of a pattern when it
is wrapped (`AccountRule.Wrappable`).
-/

set_option autoImplicit false

namespace CredentialPolicy

open Pattern (meaning?)
open Text (occursIn startsText endsText)

/-! ## Gates -/

/-- A check that a username has to pass. -/
inductive Gate where
  | minLength
  | maxLength
  | uppercase
  | lowercase
  | pattern
  | words
  | schemas
  | starts
  | ends
  deriving DecidableEq, Repr

namespace Gate

/-- The gates in front of the pattern gate, in order. -/
def beforePattern : List Gate := [minLength, maxLength, uppercase, lowercase]

/-- The gates behind the pattern gate, in order. -/
def afterPattern : List Gate := [words, schemas, starts, ends]

/-- All gates, in order. -/
def all : List Gate := beforePattern ++ pattern :: afterPattern

theorem mem_all (g : Gate) : g ∈ all := by
  cases g <;> decide

/-- The pattern gate is in the list once, so what stands in front of it is known. -/
theorem eq_beforePattern {before after : List Gate} (h : all = before ++ pattern :: after) :
    before = beforePattern := by
  have hnodup : all.Nodup := by decide
  rw [h] at hnodup
  have hne : ∀ b ∈ before, b ≠ pattern := fun b hb =>
    (List.nodup_append.1 hnodup).2.2 b hb pattern List.mem_cons_self
  have htake := congrArg (List.takeWhile (· ≠ pattern)) h
  rw [List.takeWhile_append_of_pos (by simpa using hne), List.takeWhile_cons_of_neg (by simp),
    List.append_nil] at htake
  exact htake.symm

/-- A member of a set with a property, and none of those is smaller in the order of code points. -/
def IsSmallest (s : Ascending String) (P : String → Prop) (a : String) : Prop :=
  a ∈ s ∧ P a ∧ ∀ b ∈ s, P b → a ≤ b

/-- What a gate asks of a user under a rule. -/
def Holds (r : AccountRule) (user : UserSnapshot) : Gate → Prop
  | minLength => 0 < r.minLength.toInt → r.minLength.toInt ≤ user.username.length
  | maxLength => 0 < r.maxLength.toInt → user.username.length ≤ r.maxLength.toInt
  | uppercase => r.allUppercase = true → ∀ c ∈ user.username.toList, ¬ Unicode.isLowercase c = true
  | lowercase => r.allLowercase = true → ∀ c ∈ user.username.toList, ¬ Unicode.isUppercase c = true
  | pattern => ∀ p, r.pattern = some p → p ≠ "" → ∃ e, meaning? p = some e ∧ e.Accepts user.username
  | words => ∀ w ∈ r.forbiddenWords, ¬ w.toList <:+: user.username.toList
  | schemas => ∀ schema ∈ r.forbiddenSchemas, ∀ v, user.attribute? schema = some v → v ≠ "" →
    ¬ v.toList <:+: user.username.toList
  | starts => ∀ s ∈ r.forbiddenStarts, ¬ s.toList <+: user.username.toList
  | ends => ∀ s ∈ r.forbiddenEnds, ¬ s.toList <:+ user.username.toList

/-- What a gate reports of a user who fails it under a rule. -/
inductive Refuses (r : AccountRule) (user : UserSnapshot) : Gate → PolicyError → Prop where
  | tooShort (hlimit : 0 < r.minLength.toInt) (h : user.username.length < r.minLength.toInt) :
    Refuses r user minLength (.violation (.tooShort r.minLength.toInt.toNat))
  | tooLong (hlimit : 0 < r.maxLength.toInt) (h : r.maxLength.toInt < user.username.length) :
    Refuses r user maxLength (.violation (.tooLong r.maxLength.toInt.toNat))
  | notAllUppercase (hcase : r.allUppercase = true) {c : Char} (hc : c ∈ user.username.toList)
    (h : Unicode.isLowercase c = true) : Refuses r user uppercase (.violation .notAllUppercase)
  | notAllLowercase (hcase : r.allLowercase = true) {c : Char} (hc : c ∈ user.username.toList)
    (h : Unicode.isUppercase c = true) : Refuses r user lowercase (.violation .notAllLowercase)
  | malformed {p : String} (hp : r.pattern = some p) (hne : p ≠ "") (h : meaning? p = none) :
    Refuses r user pattern .malformedPattern
  | mismatch {p : String} (hp : r.pattern = some p) (hne : p ≠ "") {e : Pattern.Expr}
    (he : meaning? p = some e) (h : ¬ e.Accepts user.username) :
    Refuses r user pattern (.violation (.patternMismatch p))
  | word {w : String}
    (h : IsSmallest r.forbiddenWords (fun w => w.toList <:+: user.username.toList) w) :
    Refuses r user words (.violation (.forbiddenWord w))
  | schema {schema : String}
    (h : IsSmallest r.forbiddenSchemas (fun schema => ∃ v, user.attribute? schema = some v ∧
      v ≠ "" ∧ v.toList <:+: user.username.toList) schema) :
    Refuses r user schemas (.violation (.forbiddenSchema schema))
  | start {s : String}
    (h : IsSmallest r.forbiddenStarts (fun s => s.toList <+: user.username.toList) s) :
    Refuses r user starts (.violation (.forbiddenStart s))
  | ending {s : String}
    (h : IsSmallest r.forbiddenEnds (fun s => s.toList <:+ user.username.toList) s) :
    Refuses r user ends (.violation (.forbiddenEnd s))

/-- What a gate finds wrong with a user. -/
def check (r : AccountRule) (user : UserSnapshot) : Gate → Option PolicyError
  | minLength =>
    ((lengthLimit? r.minLength).filter (user.username.length < ·)).map (.violation <| .tooShort ·)
  | maxLength =>
    ((lengthLimit? r.maxLength).filter (· < user.username.length)).map (.violation <| .tooLong ·)
  | uppercase =>
    if r.allUppercase && user.username.toList.any Unicode.isLowercase then
      some (.violation .notAllUppercase)
    else none
  | lowercase =>
    if r.allLowercase && user.username.toList.any Unicode.isUppercase then
      some (.violation .notAllLowercase)
    else none
  | pattern => r.patternError? user.username
  | words => (r.wordViolation? user.username).map .violation
  | schemas => (r.schemaViolation? user).map .violation
  | starts => (r.startViolation? user.username).map .violation
  | ends => (r.endViolation? user.username).map .violation

end Gate

variable {r : AccountRule} {user : UserSnapshot} {err : PolicyError} {g : Gate} {p : String}
  {e : Pattern.Expr}

theorem findSome?_cons_eq_or {α β : Type} (f : α → Option β) (a : α) (l : List α) :
    (a :: l).findSome? f = (f a).or (l.findSome? f) := by
  rw [List.findSome?_cons]
  cases f a <;> rfl

theorem orElse_eq_or {α : Type} (o o' : Option α) : (o <|> o') = o.or o' := by
  cases o <;> rfl

/-- A rule takes the gates in order and stops at the first one that is failed. -/
theorem AccountRule.failure?_eq_findSome? :
    r.failure? user = Gate.all.findSome? (Gate.check r user) := by
  have hlength : (r.lengthViolation? user.username).map PolicyError.violation =
      (Gate.minLength.check r user).or (Gate.maxLength.check r user) := by
    rw [lengthViolation?, orElse_eq_or, Option.map_or, Option.map_map, Option.map_map]
    rfl
  have hcase : (r.caseViolation? user.username).map PolicyError.violation =
      (Gate.uppercase.check r user).or (Gate.lowercase.check r user) := by
    unfold caseViolation? Gate.check
    split
    · rfl
    · split <;> rfl
  simp only [failure?, orElse_eq_or, hlength, hcase, Gate.all, Gate.beforePattern,
    Gate.afterPattern, List.cons_append, List.nil_append, findSome?_cons_eq_or, Option.or_assoc,
    List.findSome?_nil, Option.or_none]
  rfl

/-- A user is refused for what the first gate reports that reports anything. -/
theorem AccountEvaluator.enforce_eq_error_iff_check :
    (AccountEvaluator.mk (some r)).enforce user = .error err ↔
      ∃ before g after, Gate.all = before ++ g :: after ∧ g.check r user = some err ∧
        ∀ b ∈ before, b.check r user = none := by
  rw [← List.findSome?_eq_some_iff, ← AccountRule.failure?_eq_findSome?]
  change r.verdict user = .error err ↔ r.failure? user = some err
  unfold AccountRule.verdict
  cases r.failure? user <;> simp

/-- A user is accepted exactly if no gate reports anything. -/
theorem AccountEvaluator.enforce_eq_ok_iff_check :
    (AccountEvaluator.mk (some r)).enforce user = .ok () ↔ ∀ g, Gate.check r user g = none := by
  have hall : (∀ g, Gate.check r user g = none) ↔ ∀ g ∈ Gate.all, g.check r user = none :=
    ⟨fun h g _ => h g, fun h g => h g g.mem_all⟩
  rw [hall, ← List.findSome?_eq_none_iff, ← AccountRule.failure?_eq_findSome?]
  change r.verdict user = .ok () ↔ r.failure? user = none
  unfold AccountRule.verdict
  cases r.failure? user <;> simp

/-! ## The pattern gate -/

namespace AccountRule

/-- The empty pattern counts as none. -/
theorem effectivePattern?_eq_some_iff :
    r.effectivePattern? = some p ↔ r.pattern = some p ∧ p ≠ "" := by
  rw [effectivePattern?, Option.filter_eq_some_iff, Bool.not_eq_true', ← Bool.not_eq_true,
    String.isEmpty_iff]

/-- If the pattern that counts has a meaning, it can be wrapped, and keeps what it matches. -/
def Wrappable (r : AccountRule) : Prop :=
  ∀ p e, r.pattern = some p → p ≠ "" → meaning? p = some e → e.Fits ∧ e.anchored.Legible

/-- The first reading already fails if the pattern has no meaning. -/
theorem patternError?_of_meaning?_eq_none (hp : r.pattern = some p) (hne : p ≠ "")
    (h : meaning? p = none) (username : String) :
    r.patternError? username = some .malformedPattern := by
  rw [patternError?, effectivePattern?_eq_some_iff.2 ⟨hp, hne⟩, Option.bind_some,
    Pattern.isMatch?_of_meaning?_eq_none h]

/-- The second reading is held to the limits, so it can fail on a pattern that has a meaning. -/
theorem patternError?_of_not_fits (hp : r.pattern = some p) (hne : p ≠ "")
    (he : meaning? p = some e) (h : ¬ e.Fits) (username : String) :
    r.patternError? username = some .malformedPattern := by
  rw [patternError?, effectivePattern?_eq_some_iff.2 ⟨hp, hne⟩, Option.bind_some,
    Pattern.isMatch?_of_not_fits he h]

/-- If both readings go through, the written pattern decides. -/
theorem patternError?_of_fits (hp : r.pattern = some p) (hne : p ≠ "")
    (he : meaning? p = some e) (h : e.Fits) (username : String) :
    e.written.Accepts username ∧ r.patternError? username = none ∨
      ¬ e.written.Accepts username ∧
        r.patternError? username = some (.violation (.patternMismatch p)) := by
  have hmatch : ∃ found, Pattern.isMatch? p username = some found ∧
      (found = true ↔ e.written.Accepts username) := Pattern.isMatch?_of_fits he h
  obtain ⟨found, hfound, haccepts⟩ := hmatch
  rw [patternError?, effectivePattern?_eq_some_iff.2 ⟨hp, hne⟩, Option.bind_some, hfound,
    ← haccepts]
  cases found
  · exact .inr ⟨nofun, rfl⟩
  · exact .inl ⟨rfl, rfl⟩

/-- Without a pattern there is nothing to report. -/
theorem patternError?_of_no_pattern (h : ∀ p, r.pattern = some p → p = "") (username : String) :
    r.patternError? username = none := by
  have hnone : r.effectivePattern? = none := by
    refine Option.eq_none_iff_forall_ne_some.2 fun p hp => ?_
    obtain ⟨hp, hne⟩ := effectivePattern?_eq_some_iff.1 hp
    exact hne (h p hp)
  rw [patternError?, hnone]
  rfl

end AccountRule

namespace Gate

/-- A username that the pattern gate lets pass is accepted by the pattern as a whole. -/
theorem holds_pattern_of_check (h : pattern.check r user = none) : pattern.Holds r user := by
  intro p hp hne
  cases he : meaning? p with
  | none =>
    have herror := AccountRule.patternError?_of_meaning?_eq_none hp hne he user.username
    cases h.symm.trans herror
  | some e =>
    by_cases hfits : e.Fits
    · -- Nothing was reported, so the written pattern accepts the name, and that matches no more.
      rcases AccountRule.patternError?_of_fits hp hne he hfits user.username with
        ⟨haccepts, -⟩ | ⟨-, herror⟩
      · exact ⟨e, rfl, (Pattern.Expr.of_matches_written (Pattern.bounded_of_meaning? he)
          haccepts).2.2⟩
      · cases h.symm.trans herror
    · have herror := AccountRule.patternError?_of_not_fits hp hne he hfits user.username
      cases h.symm.trans herror

/-- If wrapping does no harm, then the gate lets a user pass exactly if the pattern accepts the
whole name. -/
theorem check_pattern_eq_none_iff (hwrap : r.Wrappable) :
    pattern.check r user = none ↔ pattern.Holds r user := by
  refine ⟨holds_pattern_of_check, fun h => ?_⟩
  by_cases hnone : ∀ p, r.pattern = some p → p = ""
  · exact AccountRule.patternError?_of_no_pattern hnone user.username
  · obtain ⟨p, hp, hne⟩ : ∃ p, r.pattern = some p ∧ p ≠ "" := by simpa using hnone
    obtain ⟨e, he, haccepts⟩ := h p hp hne
    obtain ⟨hfits, hlegible⟩ := hwrap p e hp hne he
    -- A legible pattern matches as much once it is written, so the name is accepted there too.
    have hwritten := (Pattern.Expr.matchesWhole_written_iff (Pattern.bounded_of_meaning? he)
      hlegible).2 haccepts
    rcases AccountRule.patternError?_of_fits hp hne he hfits user.username with
      ⟨-, hpass⟩ | ⟨hnot, -⟩
    · exact hpass
    · exact absurd hwritten hnot

/-- If wrapping does no harm, then the gate reports a pattern without a meaning or a name that it
does not accept, and nothing else. -/
theorem check_pattern_eq_some_iff (hwrap : r.Wrappable) :
    pattern.check r user = some err ↔ pattern.Refuses r user err := by
  constructor
  · intro h
    by_cases hnone : ∀ p, r.pattern = some p → p = ""
    · cases h.symm.trans (AccountRule.patternError?_of_no_pattern hnone user.username)
    · obtain ⟨p, hp, hne⟩ : ∃ p, r.pattern = some p ∧ p ≠ "" := by simpa using hnone
      cases he : meaning? p with
      | none =>
        cases h.symm.trans
          (AccountRule.patternError?_of_meaning?_eq_none hp hne he user.username)
        exact .malformed hp hne he
      | some e =>
        -- The limits are kept and nothing is lost, so only a mismatch is left to report.
        obtain ⟨hfits, hlegible⟩ := hwrap p e hp hne he
        rcases AccountRule.patternError?_of_fits hp hne he hfits user.username with
          ⟨-, hpass⟩ | ⟨hnot, hmismatch⟩
        · cases h.symm.trans hpass
        · cases h.symm.trans hmismatch
          refine .mismatch hp hne he fun haccepts => hnot ?_
          exact (Pattern.Expr.matchesWhole_written_iff (Pattern.bounded_of_meaning? he)
            hlegible).2 haccepts
  · intro h
    cases h with
    | malformed hp hne he =>
      exact AccountRule.patternError?_of_meaning?_eq_none hp hne he user.username
    | @mismatch p hp hne e he hnot =>
      obtain ⟨hfits, -⟩ := hwrap p e hp hne he
      rcases AccountRule.patternError?_of_fits hp hne he hfits user.username with
        ⟨haccepts, -⟩ | ⟨-, hmismatch⟩
      · exact absurd (Pattern.Expr.of_matches_written (Pattern.bounded_of_meaning? he)
          haccepts).2.2 hnot
      · exact hmismatch

/-! ## The other gates -/

/-- The first member of a set that passes a test is the smallest one with the property tested. -/
theorem find?_eq_some_iff {s : Ascending String} {P : String → Prop} {test : String → Bool}
    (htest : ∀ a, test a = true ↔ P a) {a : String} :
    s.toList.find? test = some a ↔ IsSmallest s P a := by
  have hascending := s.ascending
  rw [List.find?_eq_some_iff_append, htest]
  constructor
  · rintro ⟨ha, before, after, hs, hbefore⟩
    rw [hs] at hascending
    -- Behind the first member that passes stand only larger ones.
    have hafter := (List.pairwise_cons.1 (List.pairwise_append.1 hascending).2.1).1
    refine ⟨?_, ha, fun b hb hP => ?_⟩
    · rw [Ascending.mem_def, hs]
      exact List.mem_append_right before List.mem_cons_self
    · rw [Ascending.mem_def, hs] at hb
      rcases List.mem_append.1 hb with hb | hb
      · exact absurd ((htest b).2 hP) (by simpa using hbefore b hb)
      · rcases List.mem_cons.1 hb with rfl | hb
        · exact String.le_refl b
        · exact String.not_lt.1 (String.lt_asymm (hafter b hb))
  · rintro ⟨hmem, ha, hleast⟩
    obtain ⟨before, after, hs⟩ := List.append_of_mem (Ascending.mem_def.1 hmem)
    refine ⟨ha, before, after, hs, fun b hb => ?_⟩
    rw [hs] at hascending
    -- A member in front of the smallest one that has the property would be smaller still.
    have hlt := (List.pairwise_append.1 hascending).2.2 b hb a List.mem_cons_self
    have hb : b ∈ s := by
      rw [Ascending.mem_def, hs]
      exact List.mem_append_left _ hb
    rw [Bool.not_eq_true', ← Bool.not_eq_true, htest]
    exact fun hP => String.not_lt.2 (hleast b hb hP) hlt

/-- Of a set of texts, the smallest one that passes a test is reported. -/
theorem smallest_eq_some_iff {s : Ascending String} {P : String → Prop} {test : String → Bool}
    (htest : ∀ a, test a = true ↔ P a) (report : String → AccountViolation) :
    ((s.toList.find? test).map report).map .violation = some err ↔
      ∃ a, IsSmallest s P a ∧ .violation (report a) = err := by
  simp only [Option.map_map, Option.map_eq_some_iff, find?_eq_some_iff htest, Function.comp_apply]

/-- A gate over a set reports nothing exactly if no member is objectionable. -/
theorem smallest_eq_none_iff {s : Ascending String} {P : String → Prop} {test : String → Bool}
    (htest : ∀ a, test a = true ↔ P a) (report : String → AccountViolation) :
    ((s.toList.find? test).map report).map PolicyError.violation = none ↔ ∀ a ∈ s, ¬ P a := by
  simp only [Option.map_eq_none_iff, List.find?_eq_none, htest, Ascending.mem_def]

/-- An attribute counts if the user has it, it is not empty and it stands in the username. -/
theorem attribute_occurs_iff (schema : String) :
    ((user.attribute? schema).any fun v =>
        ! v.isEmpty && occursIn v.toList user.username.toList) = true ↔
      ∃ v, user.attribute? schema = some v ∧ v ≠ "" ∧ v.toList <:+: user.username.toList := by
  simp [Option.any_eq_true, Text.occursIn_iff]

/-- Only a positive number sets a limit on the length. -/
theorem lengthLimit?_eq_some_iff {i : Int32} {n : Nat} :
    lengthLimit? i = some n ↔ 0 < i.toInt ∧ n = i.toInt.toNat := by
  unfold lengthLimit?
  split
  · next h => simp [h, eq_comm]
  · next h => simp [h]

/-- A limit is reported if it is set and the length fails the test. -/
theorem limit_eq_some_iff {i : Int32} {test : Nat → Bool} (report : Nat → AccountViolation) :
    ((lengthLimit? i).filter test).map (.violation <| report ·) = some err ↔
      (0 < i.toInt ∧ test i.toInt.toNat = true) ∧ .violation (report i.toInt.toNat) = err := by
  simp only [Option.map_eq_some_iff, Option.filter_eq_some_iff, lengthLimit?_eq_some_iff]
  constructor
  · rintro ⟨n, ⟨⟨hpos, rfl⟩, htest⟩, rfl⟩
    exact ⟨⟨hpos, htest⟩, rfl⟩
  · rintro ⟨⟨hpos, htest⟩, rfl⟩
    exact ⟨_, ⟨⟨hpos, rfl⟩, htest⟩, rfl⟩

/-- A gate for the length reports nothing if there is no limit or it is kept. -/
theorem limit_eq_none_iff {i : Int32} {test : Nat → Bool} (report : Nat → AccountViolation) :
    ((lengthLimit? i).filter test).map (PolicyError.violation <| report ·) = none ↔
      (0 < i.toInt → ¬ test i.toInt.toNat = true) := by
  simp only [Option.map_eq_none_iff, Option.filter_eq_none_iff, lengthLimit?_eq_some_iff]
  constructor
  · exact fun h hpos => h _ ⟨hpos, rfl⟩
  · rintro h n ⟨hpos, rfl⟩
    exact h hpos

/-! ## All gates -/

/-- **A gate finds nothing wrong** exactly if what it asks for holds. -/
theorem check_eq_none_iff (hwrap : g = .pattern → r.Wrappable) :
    g.check r user = none ↔ g.Holds r user := by
  cases g with
  | minLength =>
    rw [check, limit_eq_none_iff, decide_eq_true_eq]
    exact imp_congr_right fun hpos => by omega
  | maxLength =>
    rw [check, limit_eq_none_iff, decide_eq_true_eq]
    exact imp_congr_right fun hpos => by omega
  | uppercase => simp [check, Holds]
  | lowercase => simp [check, Holds]
  | pattern => exact check_pattern_eq_none_iff (hwrap rfl)
  | words => exact smallest_eq_none_iff (fun w => Text.occursIn_iff) _
  | schemas =>
    refine (smallest_eq_none_iff attribute_occurs_iff _).trans ?_
    simp [Holds]
  | starts => exact smallest_eq_none_iff (fun s => List.isPrefixOf_iff_prefix) _
  | ends => exact smallest_eq_none_iff (fun s => List.isSuffixOf_iff_suffix) _

/-- **What a gate finds wrong** is what it has to report. -/
theorem check_eq_some_iff (hwrap : g = .pattern → r.Wrappable) :
    g.check r user = some err ↔ g.Refuses r user err := by
  constructor
  · intro h
    -- What a gate reports is taken apart into the test that it has made.
    cases g with
    | minLength =>
      obtain ⟨⟨hpos, htest⟩, rfl⟩ := (limit_eq_some_iff _).1 h
      rw [decide_eq_true_eq] at htest
      exact .tooShort hpos (by omega)
    | maxLength =>
      obtain ⟨⟨hpos, htest⟩, rfl⟩ := (limit_eq_some_iff _).1 h
      rw [decide_eq_true_eq] at htest
      exact .tooLong hpos (by omega)
    | uppercase =>
      obtain ⟨htest, heq⟩ := Option.ite_none_right_eq_some.1 h
      cases heq
      obtain ⟨hcase, hany⟩ := Bool.and_eq_true_iff.1 htest
      obtain ⟨c, hc, hlower⟩ := List.any_eq_true.1 hany
      exact .notAllUppercase hcase hc hlower
    | lowercase =>
      obtain ⟨htest, heq⟩ := Option.ite_none_right_eq_some.1 h
      cases heq
      obtain ⟨hcase, hany⟩ := Bool.and_eq_true_iff.1 htest
      obtain ⟨c, hc, hupper⟩ := List.any_eq_true.1 hany
      exact .notAllLowercase hcase hc hupper
    | pattern => exact (check_pattern_eq_some_iff (hwrap rfl)).1 h
    | words =>
      obtain ⟨w, hw, rfl⟩ := (smallest_eq_some_iff (fun w => Text.occursIn_iff) _).1 h
      exact .word hw
    | schemas =>
      obtain ⟨schema, hschema, rfl⟩ := (smallest_eq_some_iff attribute_occurs_iff _).1 h
      exact .schema hschema
    | starts =>
      obtain ⟨s, hs, rfl⟩ := (smallest_eq_some_iff (fun s => List.isPrefixOf_iff_prefix) _).1 h
      exact .start hs
    | ends =>
      obtain ⟨s, hs, rfl⟩ := (smallest_eq_some_iff (fun s => List.isSuffixOf_iff_suffix) _).1 h
      exact .ending hs
  · intro h
    -- Conversely each way to refuse is that its gate has tested for.
    cases h with
    | tooShort hpos hlength =>
      refine (limit_eq_some_iff _).2 ⟨⟨hpos, ?_⟩, rfl⟩
      rw [decide_eq_true_eq]
      omega
    | tooLong hpos hlength =>
      refine (limit_eq_some_iff _).2 ⟨⟨hpos, ?_⟩, rfl⟩
      rw [decide_eq_true_eq]
      omega
    | notAllUppercase hcase hc hlower =>
      have hany := List.any_eq_true.2 ⟨_, hc, hlower⟩
      exact Option.ite_none_right_eq_some.2 ⟨Bool.and_eq_true_iff.2 ⟨hcase, hany⟩, rfl⟩
    | notAllLowercase hcase hc hupper =>
      have hany := List.any_eq_true.2 ⟨_, hc, hupper⟩
      exact Option.ite_none_right_eq_some.2 ⟨Bool.and_eq_true_iff.2 ⟨hcase, hany⟩, rfl⟩
    | malformed hp hne he =>
      exact (check_pattern_eq_some_iff (hwrap rfl)).2 (.malformed hp hne he)
    | mismatch hp hne he hnot =>
      exact (check_pattern_eq_some_iff (hwrap rfl)).2 (.mismatch hp hne he hnot)
    | word hw => exact (smallest_eq_some_iff (fun w => Text.occursIn_iff) _).2 ⟨_, hw, rfl⟩
    | schema h => exact (smallest_eq_some_iff attribute_occurs_iff _).2 ⟨_, h, rfl⟩
    | start hs =>
      exact (smallest_eq_some_iff (fun s => List.isPrefixOf_iff_prefix) _).2 ⟨_, hs, rfl⟩
    | ending hs =>
      exact (smallest_eq_some_iff (fun s => List.isSuffixOf_iff_suffix) _).2 ⟨_, hs, rfl⟩

end Gate

/-! ## Verdicts -/

/-- A rule with a pattern that has no meaning refuses for that as soon as the gates in front of the
pattern gate are passed. -/
theorem AccountEvaluator.enforce_malformed_iff (hp : r.pattern = some p) (hne : p ≠ "")
    (h : meaning? p = none) :
    (AccountEvaluator.mk (some r)).enforce user = .error .malformedPattern ↔
      ∀ g ∈ Gate.beforePattern, g.Holds r user := by
  have hwrap : r.Wrappable := by
    intro p' e hp' _ he
    cases hp.symm.trans hp'
    cases h.symm.trans he
  simp only [enforce_eq_error_iff_check, Gate.check_eq_none_iff fun _ => hwrap,
    Gate.check_eq_some_iff fun _ => hwrap]
  constructor
  · rintro ⟨before, g, after, hall, hrefuses, hbefore⟩
    cases hrefuses
    rw [← Gate.eq_beforePattern hall]
    exact hbefore
  · exact fun hbefore =>
      ⟨Gate.beforePattern, .pattern, Gate.afterPattern, rfl, .malformed hp hne h, hbefore⟩

/-- Names of three characters at least: lowercase letters, with digits behind them. -/
def plainNames : AccountRule :=
  { minLength := 3, pattern := some "[a-z]+[0-9]*", forbiddenWords := .ofList ["root", "admin"] }

end CredentialPolicy
