import CredentialPolicy.Proofs.Settings.Loading
import CredentialPolicy.Proofs.Settings.Values

/-!
Settings with an environment laid over them.

An environment may ask for a level and for a number of attempts; what it does not ask for stays as
it is (`EngineSettings.Overlaid`). The variable for the attempts may hold something that denotes no
number, and then there is nothing to check. Otherwise the overlaid settings are checked as a whole,
after both variables, so each of them can make up for what the settings say and each can spoil it
(`overlay_cases`).

That is all that happens, so an environment laid over its own result finds everything as it asks for
it, and a file is loaded by reading and checking it before the environment has a say
(`overlay_environment`).
-/

set_option autoImplicit false

namespace CredentialPolicy

namespace EngineSettings

/-! ## What an environment asks for -/

/-- The level that an environment asks for; that of the settings if it asks for none. -/
def levelIn (s : EngineSettings) (env : Environment) : String :=
  (env levelVariable).getD s.logging.level

/-- The number of attempts that an environment asks for is what its variable denotes once it is
trimmed; it is that of the settings if there is no such variable. -/
def AttemptsIn (s : EngineSettings) (env : Environment) (n : UInt32) : Prop :=
  (env attemptsVariable = none ∧ n = s.generator.maxAttempts) ∨
    ∃ text, env attemptsVariable = some text ∧
      Text.Denotes (Unicode.trim text.toList) n.toNat

/-- The settings `s'` are `s` with what an environment asks for. -/
structure Overlaid (s : EngineSettings) (env : Environment) (s' : EngineSettings) : Prop where
  level : s'.logging.level = s.levelIn env
  attempts : s.AttemptsIn env s'.generator.maxAttempts
  withTarget : s'.logging.withTarget = s.logging.withTarget

variable {s s' t : EngineSettings} {env : Environment} {m n : UInt32}

/-- The environment gives one number of attempts at most. -/
theorem AttemptsIn.eq (hm : s.AttemptsIn env m) (hn : s.AttemptsIn env n) : m = n := by
  obtain ⟨hnone, rfl⟩ | ⟨text, htext, hdenotes⟩ := hm
  · obtain ⟨-, rfl⟩ | ⟨text, htext, -⟩ := hn
    · rfl
    · rw [hnone] at htext
      exact absurd htext nofun
  · obtain ⟨hnone, -⟩ | ⟨other, hother, hdenotes'⟩ := hn
    · rw [hnone] at htext
      exact absurd htext nofun
    · obtain rfl : text = other := Option.some.inj (htext.symm.trans hother)
      -- A text is read as one number at most.
      rw [← Text.uint32OfText?_eq_some_iff] at hdenotes hdenotes'
      exact Option.some.inj (hdenotes.symm.trans hdenotes')

/-- There is one way to do what an environment asks for. -/
theorem Overlaid.eq (h : s.Overlaid env s') (h' : s.Overlaid env t) : s' = t := by
  obtain ⟨⟨attempts⟩, ⟨level, withTarget⟩⟩ := s'
  obtain ⟨⟨attempts'⟩, ⟨level', withTarget'⟩⟩ := t
  obtain rfl : level = level' := h.level.trans h'.level.symm
  obtain rfl : attempts = attempts' := h.attempts.eq h'.attempts
  obtain rfl : withTarget = withTarget' := h.withTarget.trans h'.withTarget.symm
  rfl

/-- Once it is done, the environment asks for nothing else. -/
theorem Overlaid.self (h : s.Overlaid env s') : s'.Overlaid env s' where
  level := by
    have hlevel := h.level
    rw [levelIn] at hlevel ⊢
    cases hvariable : env levelVariable with
    | none => rfl
    | some level => rw [hlevel, hvariable, Option.getD_some, Option.getD_some]
  attempts := by
    obtain ⟨hnone, -⟩ | htext := h.attempts
    · exact Or.inl ⟨hnone, rfl⟩
    · exact Or.inr htext
  withTarget := rfl

/-! ## Laying it over -/

/-- Either the variable for the attempts denotes no number, or what the environment asks for is done
and the result checked. -/
theorem overlay_cases (s : EngineSettings) (env : Environment) :
    (∃ text, env attemptsVariable = some text ∧
        (∀ n : UInt32, ¬ Text.Denotes (Unicode.trim text.toList) n.toNat) ∧
        s.overlay env = .error (.attemptsVariable text)) ∨
      ∃ s', s.Overlaid env s' ∧ s.overlay env = s'.validate := by
  -- Both sides look at the two variables alone; where there is no level, it is the settings' own.
  cases hvariable : env attemptsVariable with
  | none =>
    refine Or.inr ⟨{ s with logging.level := s.levelIn env }, ⟨rfl, Or.inl ⟨hvariable, rfl⟩, rfl⟩,
      ?_⟩
    unfold overlay levelIn
    cases env levelVariable <;> simp only [hvariable] <;> rfl
  | some text =>
    cases hread : Text.uint32OfText? (Unicode.trim text.toList) with
    | none =>
      refine Or.inl ⟨text, rfl, fun n hn => ?_, ?_⟩
      · rw [Text.uint32OfText?_eq_some_iff.2 hn] at hread
        cases hread
      · unfold overlay
        cases env levelVariable <;> simp only [hvariable, hread]
    | some n =>
      have hdenotes := Text.uint32OfText?_eq_some_iff.1 hread
      refine Or.inr ⟨⟨⟨n⟩, ⟨s.levelIn env, s.logging.withTarget⟩⟩,
        ⟨rfl, Or.inr ⟨text, hvariable, hdenotes⟩, rfl⟩, ?_⟩
      unfold overlay levelIn
      cases env levelVariable <;> simp only [hvariable, hread] <;> rfl

/-- The overlay succeeds with what the environment makes of the settings, if that is valid. -/
theorem overlay_eq_ok_iff : s.overlay env = .ok s' ↔ s.Overlaid env s' ∧ s'.Valid := by
  obtain ⟨text, htext, hnone, hoverlay⟩ | ⟨t, ht, hoverlay⟩ := overlay_cases s env
  · rw [hoverlay]
    refine iff_of_false nofun ?_
    rintro ⟨hs', -⟩
    obtain ⟨habsent, -⟩ | ⟨other, hother, hdenotes⟩ := hs'.attempts
    · rw [habsent] at htext
      exact absurd htext nofun
    · obtain rfl : text = other := Option.some.inj (htext.symm.trans hother)
      exact hnone _ hdenotes
  · rw [hoverlay, validate_eq_ok_iff]
    constructor
    · rintro ⟨hvalid, rfl⟩
      exact ⟨ht, hvalid⟩
    · rintro ⟨hs', hvalid⟩
      obtain rfl : s' = t := hs'.eq ht
      exact ⟨hvalid, rfl⟩

theorem valid_iff :
    s.Valid ↔ 1 ≤ s.generator.maxAttempts.toNat ∧ Unicode.trimText s.logging.level ≠ "" := by
  rw [ne_eq, ← Unicode.isBlankText_iff, Bool.not_eq_true]
  exact ⟨fun h => ⟨h.attempts, h.level⟩, fun h => ⟨h.1, h.2⟩⟩

/-- An environment can be laid over settings if the two values that come of it are valid. -/
theorem exists_overlay_eq_ok_iff :
    (∃ s', s.overlay env = .ok s') ↔
      Unicode.trimText (s.levelIn env) ≠ "" ∧
        ∃ n : UInt32, s.AttemptsIn env n ∧ 1 ≤ n.toNat := by
  simp only [overlay_eq_ok_iff, valid_iff]
  constructor
  · rintro ⟨s', hs', hattempts, hlevel⟩
    rw [hs'.level] at hlevel
    exact ⟨hlevel, s'.generator.maxAttempts, hs'.attempts, hattempts⟩
  · rintro ⟨hlevel, n, hn, hpos⟩
    exact ⟨⟨⟨n⟩, ⟨s.levelIn env, s.logging.withTarget⟩⟩, ⟨rfl, hn, rfl⟩, hpos, hlevel⟩

/-! ## Files -/

/-- A text in a file is read and checked, and then the environment is laid over it. -/
theorem load_ofText (text : String) (env : Environment) :
    load (.ofText text) env = ofText text >>= fun s => s.overlay env := by
  have hpresent : (FileContent.ofText text).isPresent = true := rfl
  rw [load, if_pos hpresent, FileContent.text_ofText]

theorem load_of_absent {file : FileContent} (h : file.isPresent = false) (env : Environment) :
    load file env = overlay {} env := by
  rw [load, if_neg (Bool.eq_false_iff.1 h)]

/-- **What an environment does to settings.** It can be laid over them exactly if the level that
comes of it is not blank and the number of attempts that comes of it is a positive number of 32
bits; the result has these two values and is otherwise as before, and laying the environment over it
once more changes nothing. Loading a file is reading it, or taking the default settings if it is
missing, with the environment laid over the result: a file that is refused by itself is refused for
the same reason in every environment. -/
theorem overlay_environment (s : EngineSettings) (env : Environment) :
    ((∃ s', s.overlay env = .ok s') ↔
      Unicode.trimText (s.levelIn env) ≠ "" ∧
        ∃ n : UInt32, s.AttemptsIn env n ∧ 1 ≤ n.toNat) ∧
    (∀ s', s.overlay env = .ok s' → s.Overlaid env s' ∧ s'.overlay env = .ok s') ∧
    (∀ text, load (.ofText text) env = ofText text >>= fun s => s.overlay env) ∧
    (∀ file : FileContent, file.isPresent = false → load file env = overlay {} env) ∧
    ∀ text cause, ofText text = .error cause → load (.ofText text) env = .error cause := by
  refine ⟨exists_overlay_eq_ok_iff, ?_, fun text => load_ofText text env,
    fun file hfile => load_of_absent hfile env, ?_⟩
  · intro s' h
    obtain ⟨hs', hvalid⟩ := overlay_eq_ok_iff.1 h
    exact ⟨hs', overlay_eq_ok_iff.2 ⟨hs'.self, hvalid⟩⟩
  · intro text cause h
    rw [load_ofText, h]
    rfl

/-- Settings with a blank level and without an attempt. -/
def emptySettings : EngineSettings := { generator.maxAttempts := 0, logging.level := "\t" }

/-- The environment makes settings valid that are not, is laid over its own result and over the
default settings, and does not make a file loadable. -/
theorem overlay_environment_emptySettings :
    emptySettings.overlay rawEnvironment = .ok rawSettings ∧
      emptySettings.Overlaid rawEnvironment rawSettings ∧
      rawSettings.overlay rawEnvironment = .ok rawSettings ∧
      FileContent.isPresent (.error .notFound) = false ∧
      load (.error .notFound) rawEnvironment = overlay {} rawEnvironment ∧
      ofText emptySettings.toText = .error .noAttempts ∧
      load (.ofText emptySettings.toText) rawEnvironment = .error .noAttempts := by
  obtain ⟨-, hoverlay, -, habsent, hrefused⟩ := overlay_environment emptySettings rawEnvironment
  have hok : emptySettings.overlay rawEnvironment = .ok rawSettings := by decide +kernel
  have hmissing : FileContent.isPresent (.error .notFound) = false := by decide
  have hinvalid : ofText emptySettings.toText = .error .noAttempts := by decide +kernel
  obtain ⟨hsettings, hagain⟩ := hoverlay rawSettings hok
  exact ⟨hok, hsettings, hagain, hmissing, habsent _ hmissing, hinvalid, hrefused _ _ hinvalid⟩

end EngineSettings

end CredentialPolicy
