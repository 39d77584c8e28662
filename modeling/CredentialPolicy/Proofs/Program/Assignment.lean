import CredentialPolicy.Proofs.Program.Saving
import CredentialPolicy.Proofs.Settings.Overlay

/-!
Settings that are changed in place, one call after the other.

A call sets one setting in settings that stay, also if it is refused, so what it leaves behind
matters in both cases. It refuses before it changes anything (`run_assign`), and what it lets pass
is a value of its text that the engine's own check lets pass, too (`set_eq_ok_iff`). The guards of
the single settings are thus as strong as the check of all of them, and valid settings stay valid
from call to call (`valid_after`).

Valid settings are what a file gives back in which they have been saved, if the environment says
nothing; and whether they can be saved is a matter of the directory alone
(`Session.exists_save_eq_ok_iff`).
-/

set_option autoImplicit false

namespace CredentialPolicy

namespace ProgramSettings

/-! ## What a text says of a setting -/

/-- The settings have for one of them what a text says: the format whose name it is in lowercase,
the number of attempts of which it is the decimal notation, the text itself as the level, or the
truth value whose name it is. -/
def Holds (s : ProgramSettings) (value : String) : Setting → Prop
  | .outputFormat => String.ofList (Unicode.lower value.toList) = s.outputFormat.name
  | .maxAttempts => Text.Denotes value.toList s.engine.generator.maxAttempts.toNat
  | .logLevel => s.engine.logging.level = value
  | .logTarget => value = toString s.engine.logging.withTarget

/-- What the engine asks of one setting. -/
def ValidAt (s : ProgramSettings) : Setting → Prop
  | .maxAttempts => 1 ≤ s.engine.generator.maxAttempts.toNat
  | .logLevel => Unicode.trimText s.engine.logging.level ≠ ""
  | .outputFormat | .logTarget => True

variable {s s' t : ProgramSettings} {x : Setting} {key value : String}

/-- Settings are valid if each of them is: the engine asks nothing of two settings together. -/
theorem valid_iff_validAt : s.engine.Valid ↔ ∀ x, s.ValidAt x := by
  rw [EngineSettings.valid_iff]
  constructor
  · rintro ⟨hattempts, hlevel⟩ x
    cases x with
    | outputFormat | logTarget => trivial
    | maxAttempts => exact hattempts
    | logLevel => exact hlevel
  · intro h
    exact ⟨h .maxAttempts, h .logLevel⟩

/-- Whether a setting is valid depends on its own value only. -/
theorem SameAt.validAt (h : s.SameAt t x) (hs : s.ValidAt x) : t.ValidAt x := by
  cases x with
  | outputFormat | logTarget => trivial
  | maxAttempts =>
    rw [SameAt] at h
    rwa [ValidAt, h] at hs
  | logLevel =>
    rw [SameAt] at h
    rwa [ValidAt, h] at hs

/-- A text says one thing of a setting at most. -/
theorem Holds.sameAt (h : s.Holds value x) (h' : t.Holds value x) : s.SameAt t x := by
  cases x with
  | outputFormat =>
    rw [Holds, ← OutputFormat.ofText?_eq_some_iff] at h h'
    exact Option.some.inj (h.symm.trans h')
  | maxAttempts =>
    rw [Holds, ← Text.uint32OfText?_eq_some_iff] at h h'
    exact Option.some.inj (h.symm.trans h')
  | logLevel => exact Eq.trans h (Eq.symm h')
  | logTarget =>
    rw [Holds, ← booleanOfText?_eq_some_iff] at h h'
    exact Option.some.inj (h.symm.trans h')

/-! ## Changes -/

/-- What a change puts in place is what the text says, and valid. -/
theorem holds_of_change (h : s.change x value = .ok s') : s'.Holds value x ∧ s'.ValidAt x := by
  cases x with
  | outputFormat =>
    cases hread : OutputFormat.ofText? value with
    | none =>
      simp only [change, hread] at h
      cases h
    | some format =>
      simp only [change, hread] at h
      obtain rfl := Except.ok.inj h
      exact ⟨OutputFormat.ofText?_eq_some_iff.1 hread, trivial⟩
  | maxAttempts =>
    cases hread : Text.uint32OfText? value.toList with
    | none =>
      simp only [change, hread] at h
      cases h
    | some n =>
      simp only [change, hread] at h
      -- Zero is a number, and it is refused all the same.
      split_ifs at h with hn
      obtain rfl := Except.ok.inj h
      have hpos : n.toNat ≠ 0 := fun h0 => hn (UInt32.toNat_inj.1 h0)
      exact ⟨Text.uint32OfText?_eq_some_iff.1 hread, Nat.pos_of_ne_zero hpos⟩
  | logLevel =>
    simp only [change] at h
    split_ifs at h with hblank
    obtain rfl := Except.ok.inj h
    rw [Unicode.isBlankText_iff] at hblank
    exact ⟨rfl, hblank⟩
  | logTarget =>
    cases hread : booleanOfText? value with
    | none =>
      simp only [change, hread] at h
      cases h
    | some b =>
      simp only [change, hread] at h
      obtain rfl := Except.ok.inj h
      exact ⟨booleanOfText?_eq_some_iff.1 hread, trivial⟩

/-- A text is not refused if it says something valid of the setting. -/
theorem exists_change_of_holds (h : t.Holds value x) (hvalid : t.ValidAt x) :
    ∃ s', s.change x value = .ok s' := by
  cases x with
  | outputFormat =>
    have hread := OutputFormat.ofText?_eq_some_iff.2 h
    exact ⟨{ s with outputFormat := t.outputFormat }, by simp only [change, hread]⟩
  | maxAttempts =>
    have hread := Text.uint32OfText?_eq_some_iff.2 h
    have hne : t.engine.generator.maxAttempts ≠ 0 := by
      intro h0
      rw [ValidAt, h0] at hvalid
      exact absurd hvalid (by decide)
    exact ⟨{ s with engine.generator.maxAttempts := t.engine.generator.maxAttempts },
      by simp only [change, hread, if_neg hne]⟩
  | logLevel =>
    rw [ValidAt, h, ne_eq, ← Unicode.isBlankText_iff] at hvalid
    exact ⟨{ s with engine.logging.level := value }, by simp only [change, if_neg hvalid]⟩
  | logTarget =>
    have hread := booleanOfText?_eq_some_iff.2 h
    exact ⟨{ s with engine.logging.withTarget := t.engine.logging.withTarget },
      by simp only [change, hread]⟩

/-- A change succeeds with the settings that have what the text says, if that is valid, and are the
same otherwise. -/
theorem change_eq_ok_iff :
    s.change x value = .ok s' ↔
      s'.Holds value x ∧ s'.ValidAt x ∧ ∀ y, y ≠ x → s'.SameAt s y := by
  have hother {t : ProgramSettings} (ht : s.change x value = .ok t) {y : Setting} (hy : y ≠ x) :
      t.SameAt s y := by
    obtain ⟨cause, hcause⟩ | ⟨update, hreplaces, hupdate⟩ := change_eq x value
    · exact absurd ((hcause s).symm.trans ht) nofun
    · obtain rfl := Except.ok.inj ((hupdate s).symm.trans ht)
      exact hreplaces.other s hy
  constructor
  · intro h
    obtain ⟨hholds, hvalid⟩ := holds_of_change h
    exact ⟨hholds, hvalid, fun y hy => hother h hy⟩
  · rintro ⟨hholds, hvalid, hsame⟩
    -- The text gives some settings, and these agree with `s'` on each setting.
    obtain ⟨t, ht⟩ := exists_change_of_holds (s := s) hholds hvalid
    rw [ht]
    refine congrArg _ (eq_of_sameAt fun y => ?_)
    by_cases hy : y = x
    · subst hy
      exact (holds_of_change ht).1.sameAt hholds
    · exact (hother ht hy).trans (hsame y hy).symm

/-- A key stands for one setting, and that one is changed. -/
theorem set_eq_ok_iff :
    s.set key value = .ok s' ↔
      ∃ x : Setting, key ∈ x.keys ∧ s'.Holds value x ∧ s'.ValidAt x ∧
        ∀ y, y ≠ x → s'.SameAt s y := by
  simp only [← change_eq_ok_iff, ← Setting.ofKey?_eq_some_iff]
  unfold set
  cases Setting.ofKey? key with
  | none => exact iff_of_false (by rintro ⟨⟩) (by rintro ⟨x, ⟨⟩, -⟩)
  | some x =>
    constructor
    · intro h
      exact ⟨x, rfl, h⟩
    · rintro ⟨y, hy, h⟩
      obtain rfl := Option.some.inj hy
      exact h

/-! ## Calls -/

/-- A call that is refused leaves the settings as they were. -/
theorem run_assign (s : ProgramSettings) (key value : String) :
    (assign key value).run.run s =
      match s.set key value with
      | .ok s' => (.ok (), s')
      | .error cause => (.error cause, s) := by
  unfold assign set
  -- Each guard stands in front of the only change, so where one fails the state is passed on.
  cases Setting.ofKey? key with
  | none => rfl
  | some x =>
    cases x with
    | outputFormat =>
      cases hread : OutputFormat.ofText? value <;> simp only [change, hread] <;> rfl
    | maxAttempts =>
      cases hread : Text.uint32OfText? value.toList with
      | none => simp only [change, hread]; rfl
      | some n =>
        simp only [change, hread]
        split_ifs <;> rfl
    | logLevel =>
      simp only [change]
      split_ifs <;> rfl
    | logTarget =>
      cases hread : booleanOfText? value <;> simp only [change, hread] <;> rfl

/-- A call that succeeds leaves what the change has made. -/
theorem run_assign_eq_ok_iff :
    (assign key value).run.run s = (.ok (), s') ↔ s.set key value = .ok s' := by
  rw [run_assign]
  cases s.set key value with
  | error cause => exact iff_of_false nofun nofun
  | ok t =>
    constructor
    · intro h
      exact congrArg Except.ok (congrArg Prod.snd h)
    · intro h
      rw [Except.ok.inj h]

/-- A call that fails leaves everything as it was. -/
theorem eq_of_run_assign_error {cause : SettingError}
    (h : (assign key value).run.run s = (.error cause, s')) : s' = s := by
  rw [run_assign] at h
  cases hset : s.set key value with
  | error e =>
    rw [hset] at h
    exact (congrArg Prod.snd h).symm
  | ok t =>
    rw [hset] at h
    exact absurd (congrArg Prod.fst h) nofun

/-- Which of its keys names a setting makes no difference. -/
theorem set_eq_set {key' : String} (s : ProgramSettings) (h : key ∈ x.keys) (h' : key' ∈ x.keys)
    (value : String) : s.set key value = s.set key' value := by
  rw [← Setting.ofKey?_eq_some_iff] at h h'
  rw [set, set, h, h']

/-- A call leaves a setting as it was, unless its key names the setting, which is valid then. -/
theorem sameAt_or_validAt_run_assign (s : ProgramSettings) (key value : String) (x : Setting) :
    ((assign key value).run.run s).2.SameAt s x ∨
      key ∈ x.keys ∧ ((assign key value).run.run s).2.ValidAt x := by
  rw [run_assign]
  cases hset : s.set key value with
  | error cause => exact Or.inl (SameAt.refl s x)
  | ok s' =>
    obtain ⟨y, hkey, -, hvalid, hsame⟩ := set_eq_ok_iff.1 hset
    -- The key names one setting only, which is either the one that is looked at or another one.
    by_cases hx : x = y
    · exact Or.inr (hx ▸ ⟨hkey, hvalid⟩)
    · exact Or.inl (hsame x hx)

/-- Valid settings are valid after a call. -/
theorem valid_run_assign (h : s.engine.Valid) (key value : String) :
    ((assign key value).run.run s).2.engine.Valid := by
  rw [valid_iff_validAt] at h ⊢
  intro x
  obtain hsame | ⟨-, hvalid⟩ := sameAt_or_validAt_run_assign s key value x
  · exact hsame.symm.validAt (h x)
  · exact hvalid

/-- Valid settings stay valid through any run of calls. -/
theorem valid_after (h : s.engine.Valid) (calls : List (String × String)) :
    (s.after calls).engine.Valid := by
  -- Whatever a call has made of the settings, the rest of the calls starts from there.
  induction calls generalizing s with
  | nil => exact h
  | cons call calls ih => exact ih (valid_run_assign h call.1 call.2)

/-- A setting that no call names stays as it was. -/
theorem sameAt_after {calls : List (String × String)} (h : ∀ call ∈ calls, call.1 ∉ x.keys) :
    (s.after calls).SameAt s x := by
  induction calls generalizing s with
  | nil => exact SameAt.refl s x
  | cons call calls ih =>
    rw [List.forall_mem_cons] at h
    refine (ih h.2).trans ?_
    obtain hsame | ⟨hkey, -⟩ := sameAt_or_validAt_run_assign s call.1 call.2 x
    · exact hsame
    · exact absurd hkey h.1

/-! ## Files -/

/-- A file is loaded as it stands if the environment says nothing and what it describes is valid. -/
theorem load_of_described? {file : FileContent} {env : Environment}
    (hlevel : env levelVariable = none) (hattempts : env attemptsVariable = none)
    (hfile : file.described? ofText? {} = some s) (hvalid : s.engine.Valid) :
    load file env = .ok s := by
  have hlevelIn : s.engine.logging.level = s.engine.levelIn env := by
    rw [EngineSettings.levelIn, hlevel, Option.getD_none]
  have hself : s.engine.Overlaid env s.engine := ⟨hlevelIn, Or.inl ⟨hattempts, rfl⟩, rfl⟩
  exact load_eq_ok_iff.2 ⟨s, hfile, EngineSettings.overlay_eq_ok_iff.2 ⟨hself, hvalid⟩, rfl⟩

end ProgramSettings

/-- What is done with a result decides nothing about whether there is one. -/
theorem exists_map_eq_ok_iff {α β ε : Type} {f : α → β} {e : Except ε α} :
    (∃ b, e.map f = .ok b) ↔ ∃ a, e = .ok a := by
  cases e with
  | error cause => exact iff_of_false nofun nofun
  | ok a => exact iff_of_true ⟨f a, rfl⟩ ⟨a, rfl⟩

namespace FileTree

variable {bytes : ByteArray} {name directory : String} {entries : List (String × FileTree)}

/-- A file can be written wherever no directory has its name. -/
theorem exists_writeEntry_iff :
    (∃ next, writeEntry bytes entries [name] = .ok next) ↔
      ∀ held, entries.lookup name ≠ some (.directory held) := by
  rw [writeEntry]
  split
  · rename_i held hlookup
    refine iff_of_false ?_ fun h => h held hlookup
    rintro ⟨next, ⟨⟩⟩
  · rename_i hne
    exact iff_of_true ⟨_, rfl⟩ hne

/-- A file can be written into a directory that is missing, or that is there and holds no directory
under the file's name. -/
theorem exists_writeEntry_inside_iff :
    (∃ next, writeEntry bytes entries [directory, name] = .ok next) ↔
      entries.lookup directory = none ∨
        ∃ inner, entries.lookup directory = some (.directory inner) ∧
          ∀ held, inner.lookup name ≠ some (.directory held) := by
  rw [writeEntry]
  · cases entries.lookup directory with
    | none =>
      -- A new directory has nothing in it yet.
      have hempty : ∀ held, List.lookup name [] ≠ some (FileTree.directory held) :=
        fun held => (Option.some_ne_none _).symm
      rw [exists_map_eq_ok_iff, exists_writeEntry_iff]
      exact iff_of_true hempty (Or.inl rfl)
    | some place =>
      cases place with
      | file held =>
        -- Below a file there is no place for another one.
        refine iff_of_false ?_ ?_
        · rintro ⟨next, ⟨⟩⟩
        · rintro (h | ⟨inner, h, -⟩)
          · cases h
          · cases h
      | directory inner =>
        rw [exists_map_eq_ok_iff, exists_writeEntry_iff]
        constructor
        · intro h
          exact Or.inr ⟨inner, rfl, h⟩
        · rintro (h | ⟨other, h, hother⟩)
          · cases h
          · cases h
            exact hother
  · exact List.cons_ne_nil name []

end FileTree

namespace Program.Session

/-- There is place for a file with settings: its directory is one or is missing, and the file's own
name is not that of a directory. -/
def Admits (s : Session) : Prop :=
  ∃ entries, s.files = .directory entries ∧
    (entries.lookup ".idm" = none ∨
      ∃ inner, entries.lookup ".idm" = some (.directory inner) ∧
        ∀ held, inner.lookup "idm.toml" ≠ some (.directory held))

/-- Whether settings can be saved does not depend on what they say. -/
theorem exists_save_eq_ok_iff {s : Session} {settings : ProgramSettings} :
    (∃ next, s.save settings = .ok next) ↔ s.Admits := by
  -- The bytes of the file are all that depends on the settings, and no case looks at them.
  rw [save, exists_map_eq_ok_iff, Admits]
  cases s.files with
  | file bytes => exact iff_of_false nofun nofun
  | directory entries =>
    rw [FileTree.write, exists_map_eq_ok_iff, settingsNames, FileTree.exists_writeEntry_inside_iff]
    constructor
    · intro h
      exact ⟨entries, rfl, h⟩
    · rintro ⟨others, hothers, h⟩
      cases hothers
      exact h

end Program.Session

namespace ProgramSettings

open Program (Session)

/-- **What calls do to settings.** A call that is refused leaves all settings as they were. A call
is not refused exactly if its key names a setting of which its text says something valid, and then
the setting is what the text says and the others are as they were; it makes no difference which of
the setting's keys is used. So after any calls a setting that none of them names is as it was, valid
settings are valid, and if the environment says nothing, these are what is loaded from their
document and from any place in which they can be saved at all. -/
theorem assigned_in_place (s : ProgramSettings) (calls : List (String × String)) :
    (∀ key value cause s', (assign key value).run.run s = (.error cause, s') → s' = s) ∧
    (∀ key value s', (assign key value).run.run s = (.ok (), s') ↔
      ∃ x : Setting, key ∈ x.keys ∧ s'.Holds value x ∧ s'.ValidAt x ∧
        ∀ y, y ≠ x → s'.SameAt s y) ∧
    (∀ (x : Setting) (key key' value : String), key ∈ x.keys → key' ∈ x.keys →
      (assign key value).run.run s = (assign key' value).run.run s) ∧
    (∀ x : Setting, (∀ call ∈ calls, call.1 ∉ x.keys) → (s.after calls).SameAt s x) ∧
    (s.engine.Valid → (s.after calls).engine.Valid ∧
      ∀ env : Environment, env levelVariable = none → env attemptsVariable = none →
        load (.ofText (s.after calls).toText) env = .ok (s.after calls) ∧
        ∀ session : Session, session.Admits →
          ∃ next, session.save (s.after calls) = .ok next ∧
            load next.settingsFile env = .ok (s.after calls)) := by
  refine ⟨fun key value cause s' => eq_of_run_assign_error, fun key value s' => ?_,
    fun x key key' value h h' => ?_, fun x => sameAt_after, fun h => ?_⟩
  · rw [run_assign_eq_ok_iff, set_eq_ok_iff]
  · rw [run_assign, run_assign, set_eq_set s h h']
  · have hvalid : (s.after calls).engine.Valid := valid_after h calls
    refine ⟨hvalid, fun env hlevel hattempts => ⟨?_, fun session hadmits => ?_⟩⟩
    · have hread : (FileContent.ofText (s.after calls).toText).described? ofText? {} =
          some (s.after calls) := by
        rw [FileContent.described?_ofText, ofText?_toText]
      exact load_of_described? hlevel hattempts hread hvalid
    · obtain ⟨next, hnext⟩ := Session.exists_save_eq_ok_iff.2 hadmits
      exact ⟨next, hnext,
        load_of_described? hlevel hattempts (Session.stored?_of_save hnext) hvalid⟩

/-- Some calls, of which two are not refused. -/
def mixedCalls : List (String × String) :=
  [("output", "QUIET"), ("max_attempts", "0"), ("log_level", " \t"),
    ("generator.max_attempts", "+07"), ("output_format", "yaml")]

/-- The calls in an empty directory, from the default settings on. -/
theorem assigned_in_place_mixedCalls :
    (∃ s', (assign "max_attempts" "0").run.run {} = (.error .noAttempts, s') ∧ s' = {}) ∧
      (assign "output" "QUIET").run.run {} = (.ok (), { outputFormat := .quiet }) ∧
      (assign "max_attempts" "+07").run.run {} =
        (assign "generator.max_attempts" "+07").run.run {} ∧
      (after {} mixedCalls).SameAt {} .logTarget ∧
      ({} : ProgramSettings).engine.Valid ∧
      after {} mixedCalls = { outputFormat := .quiet, engine.generator.maxAttempts := 7 } ∧
      ∃ next : Session, Session.save ⟨"/home/u", .empty⟩ (after {} mixedCalls) = .ok next ∧
        load next.settingsFile (fun _ => none) = .ok (after {} mixedCalls) := by
  obtain ⟨hrefused, -, hkeys, hother, hvalid⟩ := assigned_in_place {} mixedCalls
  have hzero : (assign "max_attempts" "0").run.run {} = (.error .noAttempts, {}) := rfl
  have hquiet : (assign "output" "QUIET").run.run {} = (.ok (), { outputFormat := .quiet }) :=
    run_assign_eq_ok_iff.2 (by decide +kernel)
  have hafter : after {} mixedCalls =
      { outputFormat := .quiet, engine.generator.maxAttempts := 7 } := by
    decide +kernel
  have hdefault : ({} : ProgramSettings).engine.Valid := ⟨by decide, by decide⟩
  have hempty : Session.Admits ⟨"/home/u", .empty⟩ := ⟨[], rfl, Or.inl rfl⟩
  obtain ⟨-, hfiles⟩ := hvalid hdefault
  obtain ⟨-, hsaved⟩ := hfiles (fun _ => none) rfl rfl
  exact ⟨⟨_, hzero, hrefused _ _ _ _ hzero⟩, hquiet,
    hkeys .maxAttempts _ _ _ (by decide) (by decide), hother .logTarget (by decide), hdefault,
    hafter, hsaved _ hempty⟩

end ProgramSettings

end CredentialPolicy
