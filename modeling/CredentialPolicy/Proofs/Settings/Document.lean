import CredentialPolicy.Proofs.Document.Record
import CredentialPolicy.Proofs.Toml.Document
import CredentialPolicy.Settings.Program

/-!
Settings are read back from the documents that they are written to.

The settings of the engine are written as two tables, and those of the program as a line in front of
the same two tables. Documents of that shape are read as the records they were written from
(`Toml.read?_write`), whatever characters the level has, and the records give the settings.

Reading the settings of the engine refuses invalid ones, so they come back only if they are valid.
Every way to settings of the engine ends with that same check (`EngineSettings.validate_eq_ok_iff`),
but for the default ones, which are valid.
-/

set_option autoImplicit false

namespace CredentialPolicy

open Document
open Toml (IsBareKey IsLines IsScalar recordsAs)

/-! ## Valid settings -/

namespace EngineSettings

/-- There is an attempt, and something is said of what is logged. -/
structure Valid (s : EngineSettings) : Prop where
  /-- At least one candidate is drawn. -/
  attempts : 1 ≤ s.generator.maxAttempts.toNat
  /-- The level is not blank. -/
  level : Unicode.isBlankText s.logging.level = false

/-- The settings that can come about: the default ones, those that a document or a file gives, and
such settings with an environment laid over them. -/
inductive Reachable : EngineSettings → Prop where
  | default : Reachable {}
  | read {text : String} {s : EngineSettings} (h : ofText text = .ok s) : Reachable s
  | overlaid {s s' : EngineSettings} (env : Environment) (hs : Reachable s)
      (h : s.overlay env = .ok s') : Reachable s'
  | loaded {file : FileContent} {env : Environment} {s : EngineSettings}
      (h : load file env = .ok s) : Reachable s

/-- The check lets valid settings pass, as they are, and no others. -/
theorem validate_eq_ok_iff {s s' : EngineSettings} : s.validate = .ok s' ↔ s.Valid ∧ s = s' := by
  have hzero : s.generator.maxAttempts = 0 ↔ s.generator.maxAttempts.toNat = 0 :=
    UInt32.toNat_inj.symm
  unfold validate
  -- The attempts are checked first, and then the level.
  split_ifs with hattempts hlevel
  · refine ⟨nofun, fun h => ?_⟩
    have hpos := h.1.attempts
    have hnone := hzero.1 hattempts
    omega
  · refine ⟨nofun, fun h => ?_⟩
    exact absurd hlevel (Bool.eq_false_iff.1 h.1.level)
  · have hvalid : s.Valid :=
      ⟨Nat.pos_of_ne_zero fun hnone => hattempts (hzero.2 hnone), Bool.eq_false_iff.2 hlevel⟩
    exact ⟨fun h => ⟨hvalid, Except.ok.inj h⟩, fun h => congrArg _ h.2⟩

theorem valid_of_validate {s s' : EngineSettings} (h : s.validate = .ok s') : s'.Valid := by
  obtain ⟨hvalid, rfl⟩ := validate_eq_ok_iff.1 h
  exact hvalid

/-- Settings from a document are validated. -/
theorem valid_of_ofText {text : String} {s : EngineSettings} (h : ofText text = .ok s) :
    s.Valid := by
  unfold ofText at h
  dsimp only at h
  split at h
  · exact valid_of_validate h
  · exact absurd h nofun

/-- Whatever the environment is laid over, what comes of it is valid. -/
theorem valid_of_overlay {s s' : EngineSettings} {env : Environment} (h : s.overlay env = .ok s') :
    s'.Valid := by
  unfold overlay at h
  dsimp only at h
  split at h
  · exact valid_of_validate h
  · split at h
    · exact valid_of_validate h
    · exact absurd h nofun

/-- Settings that are loaded are validated after the environment is laid over them. -/
theorem valid_of_load {file : FileContent} {env : Environment} {s : EngineSettings}
    (h : load file env = .ok s) : s.Valid := by
  unfold load at h
  split_ifs at h
  · split at h
    case h_1 text _ =>
      cases hread : ofText text with
      | error cause =>
        rw [hread] at h
        exact absurd h nofun
      | ok read =>
        rw [hread] at h
        exact valid_of_overlay h
    case h_2 => exact absurd h nofun
  · exact valid_of_overlay h

/-- All settings that can come about are valid. -/
theorem Reachable.valid {s : EngineSettings} (h : s.Reachable) : s.Valid := by
  cases h with
  | default => exact ⟨by decide, by decide⟩
  | read h => exact valid_of_ofText h
  | overlaid env hs h => exact valid_of_overlay h
  | loaded h => exact valid_of_load h

end EngineSettings

/-! ## Settings as records -/

namespace GeneratorSettings

/-- The section is read back whatever becomes of surplus values, as there are none. -/
theorem ofValue?_toValue (surplus : Surplus) (s : GeneratorSettings) :
    ofValue? surplus s.toValue = some s := by
  obtain ⟨f, hf, hgives⟩ := Fields.exists_gives [("max_attempts", .int s.maxAttempts.toNat)]
    (List.nodup_singleton _) surplus ["max_attempts"]
  simp only [Fields.Gives, List.forall_mem_cons] at hgives
  simp only [ofValue?, toValue, hf, Option.bind_eq_bind, Option.bind_some,
    Fields.withDefault_of_eq hgives.1, Value.uint32?_toNat]
  rfl

theorem isLines (s : GeneratorSettings) : IsLines [("max_attempts", .int s.maxAttempts.toNat)] where
  line := by
    have hlt := s.maxAttempts.toNat_lt
    rw [List.forall_mem_singleton]
    exact ⟨show IsBareKey "max_attempts" by decide, .int _ (by omega)⟩
  nodup := List.nodup_singleton _

end GeneratorSettings

namespace LoggingSettings

/-- The section is read back whatever becomes of surplus values, as there are none. -/
theorem ofValue?_toValue (surplus : Surplus) (s : LoggingSettings) :
    ofValue? surplus s.toValue = some s := by
  have hkeys : ["level", "with_target"].Nodup := by decide
  obtain ⟨f, hf, hgives⟩ := Fields.exists_gives
    [("level", .text s.level), ("with_target", .bool s.withTarget)] hkeys surplus
    ["level", "with_target"]
  simp only [Fields.Gives, List.forall_mem_cons] at hgives
  obtain ⟨hlevel, htarget, -⟩ := hgives
  simp only [ofValue?, toValue, hf, Option.bind_eq_bind, Option.bind_some,
    Fields.withDefault_of_eq hlevel, Fields.withDefault_of_eq htarget, Value.text?, Value.bool?]
  rfl

theorem isLines (s : LoggingSettings) :
    IsLines [("level", .text s.level), ("with_target", .bool s.withTarget)] where
  line := by
    simp only [List.forall_mem_cons]
    exact ⟨⟨by decide, .text _⟩, ⟨by decide, .bool _⟩, nofun⟩
  nodup := by
    show ["level", "with_target"].Nodup
    decide

end LoggingSettings

namespace EngineSettings

/-- Whatever gives the fields of settings is read as the settings. -/
theorem ofFields?_of_gives {s : EngineSettings} {f : Fields} (h : f.Gives s.toFields)
    (surplus : Surplus) : ofFields? surplus f = some s := by
  simp only [Fields.Gives, toFields, List.forall_mem_cons] at h
  obtain ⟨hgenerator, hlogging, -⟩ := h
  simp only [ofFields?, Fields.withDefault_of_eq hgenerator, Fields.withDefault_of_eq hlogging,
    GeneratorSettings.ofValue?_toValue, LoggingSettings.ofValue?_toValue]
  rfl

/-- The tables of the settings. -/
def toTables (s : EngineSettings) : List (String × List (String × Value)) :=
  [("generator", [("max_attempts", .int s.generator.maxAttempts.toNat)]),
    ("logging", [("level", .text s.logging.level), ("with_target", .bool s.logging.withTarget)])]

/-- The tables of the document make up the record of the settings. -/
theorem recordsAs_toTables (s : EngineSettings) : recordsAs s.toTables = s.toFields := rfl

/-- Each section is a table of lines under a plain name. -/
theorem isLines_of_mem_toTables (s : EngineSettings) :
    ∀ t ∈ s.toTables, IsBareKey t.1 ∧ IsLines t.2 := by
  simp only [toTables, List.forall_mem_cons]
  exact ⟨⟨by decide, s.generator.isLines⟩, ⟨by decide, s.logging.isLines⟩, nofun⟩

/-- The document of settings is their record. -/
theorem read?_toText (s : EngineSettings) : Toml.read? s.toText = some (.record s.toFields) := by
  have hkeys : (s.toTables.map (·.1)).Nodup := show ["generator", "logging"].Nodup by decide
  have hread := @Toml.read?_write [] s.toTables ⟨nofun, List.nodup_nil⟩ s.isLines_of_mem_toTables
    hkeys
  rwa [List.nil_append, recordsAs_toTables] at hread

/-- Valid settings are read back from their document. -/
theorem ofText_toText {s : EngineSettings} (h : s.Valid) : ofText s.toText = .ok s := by
  have hkeys : ["generator", "logging"].Nodup := by decide
  obtain ⟨f, hf, hgives⟩ := Fields.exists_gives s.toFields hkeys .ignored ["generator", "logging"]
  have hread :
      ((Toml.read? s.toText).bind fun v =>
        (Fields.ofValue? .ignored ["generator", "logging"] v).bind (ofFields? .ignored)) =
        some s := by
    rw [read?_toText, Option.bind_some, hf, Option.bind_some, ofFields?_of_gives hgives]
  have hcheck : ofText s.toText = s.validate := by
    unfold ofText
    simp only [Option.bind_eq_bind, hread]
  exact hcheck.trans (validate_eq_ok_iff.2 ⟨h, rfl⟩)

end EngineSettings

namespace ProgramSettings

/-- The document of the program's settings is the record in which the format stands in front of the
tables of the engine. -/
theorem read?_toText (s : ProgramSettings) :
    Toml.read? s.toText =
      some (.record (("output_format", .text s.outputFormat.name) :: s.engine.toFields)) := by
  have hkeys : ("output_format" :: s.engine.toTables.map (·.1)).Nodup :=
    show ["output_format", "generator", "logging"].Nodup by decide
  have hlines : IsLines [("output_format", .text s.outputFormat.name)] :=
    ⟨List.forall_mem_singleton.2 ⟨show IsBareKey "output_format" by decide, .text _⟩,
      List.nodup_singleton _⟩
  have hread := Toml.read?_write hlines s.engine.isLines_of_mem_toTables hkeys
  rwa [EngineSettings.recordsAs_toTables] at hread

/-- All settings of the program are read back from their document, whether they are valid or not. -/
theorem ofText?_toText (s : ProgramSettings) : ofText? s.toText = some s := by
  have hkeys : fieldNames.Nodup := by decide
  obtain ⟨f, hf, hgives⟩ := Fields.exists_gives
    (("output_format", .text s.outputFormat.name) :: s.engine.toFields) hkeys .refused fieldNames
  obtain ⟨hformat, hengine⟩ := List.forall_mem_cons.1 hgives
  have hname : OutputFormat.ofValue? (.text s.outputFormat.name) = some s.outputFormat :=
    OutputFormat.ofName?_name s.outputFormat
  simp only [ofText?, read?_toText, Option.bind_eq_bind, Option.bind_some, hf,
    Fields.withDefault_of_eq hformat, hname, EngineSettings.ofFields?_of_gives hengine]
  rfl

end ProgramSettings

/-- **Settings survive their documents.** All settings of the engine that can come about are valid;
valid ones are read back from their document, whatever the level is. The settings of the program are
all read back, from a document with the tables of the engine next to the format. -/
theorem settings_roundTrip :
    (∀ s : EngineSettings, s.Reachable → s.Valid) ∧
    (∀ s : EngineSettings, s.Valid → EngineSettings.ofText s.toText = .ok s) ∧
    ∀ p : ProgramSettings,
      Toml.read? p.toText =
        some (.record (("output_format", .text p.outputFormat.name) :: p.engine.toFields)) ∧
      ProgramSettings.ofText? p.toText = some p :=
  ⟨fun _ => EngineSettings.Reachable.valid, fun _ => EngineSettings.ofText_toText,
    fun p => ⟨p.read?_toText, p.ofText?_toText⟩⟩

/-- A level with every sort of delimiter, line end and control character. -/
def rawLevel : String := "\n'''\"\"\"\"\\\r\n\x00\u2028é\""

/-- An environment with that level. -/
def rawEnvironment : Environment := fun name =>
  if name = levelVariable then some rawLevel
  else if name = attemptsVariable then some " +32\t"
  else none

/-- The default settings in that environment. -/
def rawSettings : EngineSettings := { generator.maxAttempts := 32, logging.level := rawLevel }

theorem settings_roundTrip_rawSettings :
    rawSettings.Reachable ∧ rawSettings.Valid ∧
      EngineSettings.ofText rawSettings.toText = .ok rawSettings ∧
      ProgramSettings.ofText? (ProgramSettings.toText ⟨.quiet, rawSettings⟩) =
        some ⟨.quiet, rawSettings⟩ := by
  have hreachable : rawSettings.Reachable := .overlaid rawEnvironment .default (by decide)
  have hvalid := settings_roundTrip.1 rawSettings hreachable
  exact ⟨hreachable, hvalid, settings_roundTrip.2.1 rawSettings hvalid,
    (settings_roundTrip.2.2 ⟨.quiet, rawSettings⟩).2⟩

example : EngineSettings.toText { logging.level := "a\"b" } =
    "[generator]\nmax_attempts = 16\n\n[logging]\nlevel = 'a\"b'\nwith_target = false\n" := by
  decide +kernel

end CredentialPolicy
