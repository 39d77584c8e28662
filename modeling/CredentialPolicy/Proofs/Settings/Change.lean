import CredentialPolicy.Settings.Program
import Mathlib.Data.List.Basic

/-!
Changing one setting of the program.

A change looks at no setting: whether it is refused, and the value that it leaves, depend on the
text alone (`ProgramSettings.change_eq`). So setting the same value makes the same of different
settings exactly if they differ in nothing but the one that is set
(`ProgramSettings.set_congr_iff`).
-/

set_option autoImplicit false

namespace CredentialPolicy

namespace ProgramSettings

/-- The settings `s` and `t` have the same value for a setting. -/
def SameAt (s t : ProgramSettings) : Setting → Prop
  | .outputFormat => s.outputFormat = t.outputFormat
  | .maxAttempts => s.engine.generator.maxAttempts = t.engine.generator.maxAttempts
  | .logLevel => s.engine.logging.level = t.engine.logging.level
  | .logTarget => s.engine.logging.withTarget = t.engine.logging.withTarget

variable {s t u : ProgramSettings} {x : Setting}

theorem SameAt.refl (s : ProgramSettings) (x : Setting) : s.SameAt s x := by
  cases x <;> rfl

theorem SameAt.symm (h : s.SameAt t x) : t.SameAt s x := by
  cases x <;> exact Eq.symm h

theorem SameAt.trans (h : s.SameAt t x) (h' : t.SameAt u x) : s.SameAt u x := by
  cases x <;> exact Eq.trans h h'

/-- Settings that agree on each setting are the same. -/
theorem eq_of_sameAt (h : ∀ x, s.SameAt t x) : s = t := by
  obtain ⟨_, ⟨_⟩, ⟨_, _⟩⟩ := s
  obtain ⟨_, ⟨_⟩, ⟨_, _⟩⟩ := t
  obtain rfl := h .outputFormat
  obtain rfl := h .maxAttempts
  obtain rfl := h .logLevel
  obtain rfl := h .logTarget
  rfl

end ProgramSettings

/-- The same value is put in place of that of one setting, and the others stay. -/
structure Setting.Replaces (x : Setting) (update : ProgramSettings → ProgramSettings) : Prop where
  /-- Whatever was there before, the same value is there then. -/
  self (s t : ProgramSettings) : (update s).SameAt (update t) x
  /-- The other settings are left alone. -/
  other (s : ProgramSettings) {y : Setting} (hy : y ≠ x) : (update s).SameAt s y

namespace ProgramSettings

/-- A text is refused for a setting, or gives a value that replaces any other. -/
theorem change_eq (x : Setting) (value : String) :
    (∃ cause, ∀ s, change s x value = .error cause) ∨
      ∃ update, x.Replaces update ∧ ∀ s, change s x value = .ok (update s) := by
  -- Each value is made from the text alone, and put into one field.
  cases x with
  | outputFormat =>
    cases hread : OutputFormat.ofText? value with
    | none => exact .inl ⟨.unknownFormat value, fun s => by simp only [change, hread]⟩
    | some format =>
      refine .inr ⟨fun s => { s with outputFormat := format }, ⟨fun _ _ => rfl, fun s y hy => ?_⟩,
        fun s => by simp only [change, hread]⟩
      cases y <;> first | rfl | exact absurd rfl hy
  | maxAttempts =>
    cases hread : Text.uint32OfText? value.toList with
    | none => exact .inl ⟨.notANumber value, fun s => by simp only [change, hread]⟩
    | some n =>
      by_cases hn : n = 0
      · exact .inl ⟨.noAttempts, fun s => by simp only [change, hread, if_pos hn]⟩
      · refine .inr ⟨fun s => { s with engine.generator.maxAttempts := n },
          ⟨fun _ _ => rfl, fun s y hy => ?_⟩, fun s => by simp only [change, hread, if_neg hn]⟩
        cases y <;> first | rfl | exact absurd rfl hy
  | logLevel =>
    by_cases hblank : Unicode.isBlankText value
    · exact .inl ⟨.blankLevel, fun s => by simp only [change, if_pos hblank]⟩
    · refine .inr ⟨fun s => { s with engine.logging.level := value },
        ⟨fun _ _ => rfl, fun s y hy => ?_⟩, fun s => by simp only [change, if_neg hblank]⟩
      cases y <;> first | rfl | exact absurd rfl hy
  | logTarget =>
    cases hread : booleanOfText? value with
    | none => exact .inl ⟨.notABoolean value, fun s => by simp only [change, hread]⟩
    | some b =>
      refine .inr ⟨fun s => { s with engine.logging.withTarget := b },
        ⟨fun _ _ => rfl, fun s y hy => ?_⟩, fun s => by simp only [change, hread]⟩
      cases y <;> first | rfl | exact absurd rfl hy

/-- A change that is not refused makes the same of other settings exactly if these differ in nothing
but the setting that is changed. -/
theorem change_congr_iff {s t s' : ProgramSettings} {x : Setting} {value : String}
    (h : s.change x value = .ok s') :
    t.change x value = .ok s' ↔ ∀ y, y ≠ x → s.SameAt t y := by
  obtain ⟨cause, hcause⟩ | ⟨update, hreplaces, hupdate⟩ := change_eq x value
  · exact absurd ((hcause s).symm.trans h) nofun
  · obtain rfl : update s = s' := Except.ok.inj ((hupdate s).symm.trans h)
    constructor
    · intro ht y hy
      -- The change leaves the other settings alone on both sides and makes the same of them.
      have heq : update t = update s := Except.ok.inj ((hupdate t).symm.trans ht)
      have hs : (update t).SameAt s y := heq ▸ hreplaces.other s hy
      exact hs.symm.trans (hreplaces.other t hy)
    · intro hsame
      rw [hupdate]
      refine congrArg _ (eq_of_sameAt fun y => ?_)
      by_cases hy : y = x
      · exact hy ▸ hreplaces.self t s
      · exact ((hreplaces.other t hy).trans (hsame y hy).symm).trans (hreplaces.other s hy).symm

end ProgramSettings

/-! ## Keys -/

/-- No two settings share a key. -/
theorem Setting.ofKey?_eq_some_iff {key : String} {x : Setting} :
    ofKey? key = some x ↔ key ∈ x.keys := by
  constructor
  · intro h
    exact of_decide_eq_true (List.find?_some (p := fun y : Setting => decide (key ∈ y.keys)) h)
  · intro h
    cases x <;> simp only [keys, List.mem_cons, List.not_mem_nil, or_false] at h <;>
      obtain rfl | rfl := h <;> decide

/-- Setting a value that is not refused makes the same of other settings exactly if these differ in
nothing but what the key stands for. -/
theorem ProgramSettings.set_congr_iff {s t s' : ProgramSettings} {key value : String}
    (h : s.set key value = .ok s') :
    t.set key value = .ok s' ↔ ∀ y : Setting, key ∉ y.keys → s.SameAt t y := by
  unfold set at h ⊢
  cases hkey : Setting.ofKey? key with
  | none =>
    rw [hkey] at h
    exact absurd h nofun
  | some x =>
    rw [hkey] at h
    rw [change_congr_iff h]
    refine forall_congr' fun y => imp_congr (not_congr ?_) Iff.rfl
    rw [← Setting.ofKey?_eq_some_iff, hkey, Option.some.injEq, eq_comm]

end CredentialPolicy
