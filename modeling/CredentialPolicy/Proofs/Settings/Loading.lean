import CredentialPolicy.Proofs.Settings.Document
import Mathlib.Tactic.Tauto

/-!
Two ways to load settings from the same file.

The settings of the engine can be loaded by themselves or as part of those of the program. Both read
the document, lay the environment over it and check what comes of that, but they differ in two
places. The engine's own loading checks the document before the environment is laid over it, so a
variable cannot repair what the document says. And as part of the program's settings, a section that
is written as a list must not hold more values than the section has fields; by itself it may.

So the two agree on a document unless one of these is the case and not the other
(`loadsAgree_iff`).
-/

set_option autoImplicit false

namespace CredentialPolicy

open Document

/-- A document is a record, if it is one at all. -/
theorem Toml.read?_eq_none_or_record (text : String) :
    read? text = none ∨ ∃ fields, read? text = some (.record fields) := by
  unfold read?
  cases ({} : Draft).readAll (dropMark text.toList) with
  | none => exact Or.inl rfl
  | some d => exact Or.inr ⟨fieldsOf d.items, rfl⟩

/-! ## Sections with too many values -/

namespace Document

/-- A list of more values than `n`. -/
def Value.Exceeds (n : Nat) : Value → Prop
  | .list items => n < items.length
  | _ => False

instance (n : Nat) (v : Value) : Decidable (v.Exceeds n) := by
  unfold Value.Exceeds
  split <;> infer_instance

/-- Where surplus values are refused, they are all that is refused besides. -/
theorem Fields.ofValue?_refused (names : List String) (v : Value) :
    Fields.ofValue? .refused names v =
      if v.Exceeds names.length then none else Fields.ofValue? .ignored names v := by
  cases v with
  | list items =>
    simp only [Fields.ofValue?, Value.Exceeds, reduceCtorEq, or_false, or_true, if_true]
    by_cases h : names.length < items.length
    · rw [if_pos h, if_neg (by omega)]
    · rw [if_neg h, if_pos (by omega)]
  | _ => rfl

namespace Fields

variable {α : Type}

/-- A field that is given holds a list of more values than `n`. -/
def Exceeds (f : Fields) (name : String) (n : Nat) : Prop := ∃ v, f name = some v ∧ v.Exceeds n

/-- If a reading refuses surplus values and nothing else besides, so does that of a field. -/
theorem withDefault_refused {f : Fields} {name : String} {n : Nat}
    (read : Surplus → Value → Option α)
    (h : ∀ v, read .refused v = if v.Exceeds n then none else read .ignored v) (default : α)
    {a : α} :
    f.withDefault name (read .refused) default = some a ↔
      f.withDefault name (read .ignored) default = some a ∧ ¬ f.Exceeds name n := by
  unfold withDefault Exceeds
  cases hf : f name with
  | none => simp
  | some v =>
    simp only [h, Option.some.injEq, exists_eq_left']
    split_ifs with hv
    · simp [hv]
    · simp [hv]

end Fields

end Document

/-- What the stricter reading refuses besides are lists of more than one value. -/
theorem GeneratorSettings.ofValue?_refused (v : Value) :
    ofValue? .refused v = if v.Exceeds 1 then none else ofValue? .ignored v := by
  unfold ofValue?
  rw [Fields.ofValue?_refused, List.length_singleton]
  split_ifs <;> rfl

/-- What the stricter reading refuses besides are lists of more than two values. -/
theorem LoggingSettings.ofValue?_refused (v : Value) :
    ofValue? .refused v = if v.Exceeds 2 then none else ofValue? .ignored v := by
  have hlength : ["level", "with_target"].length = 2 := rfl
  unfold ofValue?
  rw [Fields.ofValue?_refused, hlength]
  split_ifs <;> rfl

namespace EngineSettings

theorem ofFields?_eq_some_iff {surplus : Surplus} {f : Fields} {s : EngineSettings} :
    ofFields? surplus f = some s ↔
      f.withDefault "generator" (GeneratorSettings.ofValue? surplus) {} = some s.generator ∧
        f.withDefault "logging" (LoggingSettings.ofValue? surplus) {} = some s.logging := by
  obtain ⟨generator, logging⟩ := s
  simp [ofFields?, Option.bind_eq_some_iff]

/-- What sets the two readings of a record apart are the sections that hold too much. -/
theorem ofFields?_refused {f : Fields} {s : EngineSettings} :
    ofFields? .refused f = some s ↔
      ofFields? .ignored f = some s ∧ ¬ (f.Exceeds "generator" 1 ∨ f.Exceeds "logging" 2) := by
  simp only [ofFields?_eq_some_iff, not_or,
    Fields.withDefault_refused _ GeneratorSettings.ofValue?_refused,
    Fields.withDefault_refused _ LoggingSettings.ofValue?_refused]
  tauto

/-! ## Documents -/

/-- The settings of the engine that a document describes, whether they are valid or not. -/
def described? (surplus : Surplus) (text : String) : Option EngineSettings := do
  let v ← Toml.read? text
  ofFields? surplus (← Fields.ofValue? surplus ["generator", "logging"] v)

/-- A section of the engine is written as a list of more values than it has fields. -/
def Overfull (text : String) : Prop :=
  ∃ fields, Toml.read? text = some (.record fields) ∧
    (Fields.Exceeds (fun name => fields.lookup name) "generator" 1 ∨
      Fields.Exceeds (fun name => fields.lookup name) "logging" 2)

/-- What sets the two readings of a document apart are the sections that hold too much. -/
theorem described?_refused {text : String} {s : EngineSettings} :
    described? .refused text = some s ↔ described? .ignored text = some s ∧ ¬ Overfull text := by
  unfold described? Overfull
  obtain hread | ⟨fields, hread⟩ := Toml.read?_eq_none_or_record text
  · simp [hread]
  · simp only [hread, Option.bind_eq_bind, Option.bind_some, Option.some.injEq, Value.record.injEq,
      exists_eq_left', Fields.ofValue?]
    split_ifs
    · exact ofFields?_refused
    · simp

/-- Whatever a document describes is checked. -/
theorem ofText_eq (text : String) :
    ofText text =
      match described? .ignored text with
      | some s => s.validate
      | none => .error .malformed := rfl

end EngineSettings

namespace ProgramSettings

/-- A document says nothing of the format of what the program writes. -/
def OmitsFormat (text : String) : Prop :=
  ∀ fields, Toml.read? text = some (.record fields) → "output_format" ∉ fields.map (·.1)

/-- Such a document describes the default format, and the settings of the engine that it would
describe by itself if surplus values were refused. -/
theorem ofText?_of_omitsFormat {text : String} (h : OmitsFormat text) :
    ofText? text = (EngineSettings.described? .refused text).map ({ engine := · }) := by
  unfold ofText? EngineSettings.described?
  obtain hread | ⟨fields, hread⟩ := Toml.read?_eq_none_or_record text
  · simp [hread]
  · -- No field has the name of the format, so the two readings look for the same names.
    have hkey : ∀ f ∈ fields, f.1 ≠ "output_format" := by
      intro f hf heq
      exact h fields hread (List.mem_map.2 ⟨f, hf, heq⟩)
    have hcount : fields.countP (fun f => f.1 = "output_format") ≤ 1 := by
      rw [List.countP_eq_zero.2 fun f hf => by simpa using hkey f hf]
      exact Nat.zero_le 1
    have hformat : fields.lookup "output_format" = none := by
      rw [List.lookup_eq_none_iff]
      intro f hf
      exact bne_iff_ne.2 (hkey f hf).symm
    have hnames : fieldNames.all (fun name => fields.countP (fun f => f.1 = name) ≤ 1) =
        ["generator", "logging"].all (fun name => fields.countP (fun f => f.1 = name) ≤ 1) := by
      rw [fieldNames, List.all_cons, decide_eq_true hcount, Bool.true_and]
    simp only [hread, Option.bind_eq_bind, Option.bind_some, Fields.ofValue?, hnames]
    split_ifs
    · simp only [Option.bind_some, Fields.withDefault, hformat]
      cases EngineSettings.ofFields? .refused fun name => fields.lookup name <;> rfl
    · rfl

end ProgramSettings

/-! ## Files -/

namespace FileContent

variable {α : Type}

/-- What a file with a document describes; a missing file describes the default. -/
def described? (file : FileContent) (read : String → Option α) (default : α) : Option α :=
  if file.isPresent then file.text.toOption.bind read else some default

/-- The file holds a document in which a section is a list of more values than it has fields. -/
def Overfull (file : FileContent) : Prop :=
  ∃ text, file.text = .ok text ∧ EngineSettings.Overfull text

/-- A document in the file says nothing of the format of what the program writes. -/
def OmitsFormat (file : FileContent) : Prop :=
  ∀ text, file.text = .ok text → ProgramSettings.OmitsFormat text

/-- A file that is there describes what its text does. -/
theorem described?_ofText (text : String) (read : String → Option α) (default : α) :
    (ofText text).described? read default = read text := by
  have hpresent : (ofText text).isPresent = true := rfl
  rw [described?, if_pos hpresent, text_ofText]
  rfl

/-- A file that is not there has no text. -/
theorem text_ne_ok {file : FileContent} (h : file.isPresent = false) (text : String) :
    file.text ≠ .ok text := by
  cases file with
  | ok bytes => exact absurd h nofun
  | error cause => exact nofun

end FileContent

/-! ## Loading -/

namespace EngineSettings

/-- Validation lets valid settings pass as they are, and stops the others. -/
theorem validate_bind_eq_ok_iff {α : Type} {s : EngineSettings}
    {next : EngineSettings → Except SettingsError α} {a : α} :
    s.validate >>= next = .ok a ↔ s.Valid ∧ next s = .ok a := by
  cases hcheck : s.validate with
  | error cause =>
    refine iff_of_false nofun fun h => ?_
    rw [validate_eq_ok_iff.2 ⟨h.1, rfl⟩] at hcheck
    exact absurd hcheck nofun
  | ok s =>
    obtain ⟨hvalid, rfl⟩ := validate_eq_ok_iff.1 hcheck
    exact (and_iff_right hvalid).symm

/-- What is loaded is what the file describes, checked, with the environment laid over it. -/
theorem load_eq_ok_iff {file : FileContent} {env : Environment} {s' : EngineSettings} :
    load file env = .ok s' ↔
      ∃ s, file.described? (described? .ignored) {} = some s ∧ s.Valid ∧
        s.overlay env = .ok s' := by
  unfold load FileContent.described?
  cases file.isPresent with
  | false =>
    -- A missing file stands for the default settings, which need no check.
    have hvalid : Valid {} := Reachable.default.valid
    simp [hvalid]
  | true =>
    cases file.text with
    | error cause => simp [Except.toOption, throw, throwThe, MonadExceptOf.throw]
    | ok text =>
      simp only [if_true, Except.toOption, Option.bind_some, ofText_eq]
      cases described? .ignored text with
      | none => simp [bind, Except.bind]
      | some s =>
        rw [validate_bind_eq_ok_iff]
        simp

end EngineSettings

namespace ProgramSettings

/-- What is loaded is what the file describes, with the environment laid over the part of the
engine. -/
theorem load_eq_ok_iff {file : FileContent} {env : Environment} {p' : ProgramSettings} :
    load file env = .ok p' ↔
      ∃ p, file.described? ofText? {} = some p ∧ p.engine.overlay env = .ok p'.engine ∧
        p.outputFormat = p'.outputFormat := by
  obtain ⟨format, engine⟩ := p'
  unfold load FileContent.described?
  cases file.isPresent with
  | false =>
    simp only [Bool.false_eq_true, if_false, Option.some.injEq, exists_eq_left', pure_bind]
    cases EngineSettings.overlay {} env <;>
      simp [pure, Except.pure, throw, throwThe, MonadExceptOf.throw, and_comm]
  | true =>
    cases file.text with
    | error cause => simp [Except.toOption, throw, throwThe, MonadExceptOf.throw, bind, Except.bind]
    | ok text =>
      simp only [if_true, Except.toOption, Option.bind_some]
      cases ofText? text with
      | none => simp [throw, throwThe, MonadExceptOf.throw, bind, Except.bind]
      | some p =>
        simp only [Option.some.injEq, exists_eq_left', pure_bind]
        cases p.engine.overlay env <;>
          simp [pure, Except.pure, throw, throwThe, MonadExceptOf.throw, and_comm]

end ProgramSettings

/-- What the two ways to load settings of the engine give, if they give any, is the same. -/
def LoadsAgree (file : FileContent) (env : Environment) : Prop :=
  (ProgramSettings.load file env).toOption.map (·.engine) = (EngineSettings.load file env).toOption

section

variable {file : FileContent} {env : Environment}

/-- Without a format in it, a file is loaded as part of the program's settings unless a section has
too many values. -/
theorem exists_load_eq_ok_iff (h : file.OmitsFormat) {s' : EngineSettings} :
    (∃ p', ProgramSettings.load file env = .ok p' ∧ p'.engine = s') ↔
      ∃ s, file.described? (EngineSettings.described? .ignored) {} = some s ∧ ¬ file.Overfull ∧
        s.overlay env = .ok s' := by
  -- The program refuses surplus values, and puts the default format beside what is left.
  have hdescribed (p : ProgramSettings) :
      file.described? ProgramSettings.ofText? {} = some p ↔
        file.described? (EngineSettings.described? .ignored) {} = some p.engine ∧
          ¬ file.Overfull ∧ p.outputFormat = .table := by
    obtain ⟨format, engine⟩ := p
    unfold FileContent.described? FileContent.Overfull
    cases hpresent : file.isPresent with
    | false =>
      simp [FileContent.text_ne_ok hpresent, eq_comm, and_comm]
    | true =>
      cases htext : file.text with
      | error cause => simp [Except.toOption]
      | ok text =>
        simp only [if_true, Except.toOption, Option.bind_some,
          ProgramSettings.ofText?_of_omitsFormat (h text htext), Option.map_eq_some_iff,
          EngineSettings.described?_refused, ProgramSettings.mk.injEq, Except.ok.injEq,
          exists_eq_left']
        constructor
        · rintro ⟨s, ⟨hs, hfit⟩, rfl, rfl⟩
          exact ⟨hs, hfit, rfl⟩
        · rintro ⟨hs, hfit, rfl⟩
          exact ⟨engine, ⟨hs, hfit⟩, rfl, rfl⟩
  constructor
  · rintro ⟨p', hload, rfl⟩
    obtain ⟨p, hp, hoverlay, -⟩ := ProgramSettings.load_eq_ok_iff.1 hload
    obtain ⟨hs, hfit, -⟩ := (hdescribed p).1 hp
    exact ⟨p.engine, hs, hfit, hoverlay⟩
  · rintro ⟨s, hs, hfit, hoverlay⟩
    refine ⟨{ engine := s' }, ProgramSettings.load_eq_ok_iff.2 ⟨{ engine := s }, ?_, hoverlay, rfl⟩,
      rfl⟩
    exact (hdescribed _).2 ⟨hs, hfit, rfl⟩

/-- **When the two ways to load settings agree.** For a file that says nothing of the program's
format, missing or not, they agree in an environment exactly if this holds of the settings that the
file describes and the environment makes valid: they are valid as they stand if and only if no
section is a list of too many values. -/
theorem loadsAgree_iff (h : file.OmitsFormat) :
    LoadsAgree file env ↔
      ∀ s s', file.described? (EngineSettings.described? .ignored) {} = some s →
        s.overlay env = .ok s' → (s.Valid ↔ ¬ file.Overfull) := by
  have hagree : LoadsAgree file env ↔ ∀ s',
      (∃ p', ProgramSettings.load file env = .ok p' ∧ p'.engine = s') ↔
        EngineSettings.load file env = .ok s' := by
    rw [LoadsAgree, Option.ext_iff]
    cases ProgramSettings.load file env <;> cases EngineSettings.load file env <;>
      simp [Except.toOption]
  rw [hagree]
  -- Both ways lay the environment over what the file describes, each with a condition of its own.
  simp only [exists_load_eq_ok_iff h, EngineSettings.load_eq_ok_iff]
  constructor
  · intro hall s s' hs hoverlay
    constructor
    · intro hvalid
      obtain ⟨-, -, hfit, -⟩ := (hall s').2 ⟨s, hs, hvalid, hoverlay⟩
      exact hfit
    · intro hfit
      obtain ⟨t, ht, hvalid, -⟩ := (hall s').1 ⟨s, hs, hfit, hoverlay⟩
      obtain rfl : t = s := Option.some.inj (ht.symm.trans hs)
      exact hvalid
  · intro hall s'
    refine exists_congr fun s => and_congr_right fun hs => and_congr_left fun hoverlay => ?_
    exact (hall s s' hs hoverlay).symm

end

/-! ### Files that were written -/

namespace EngineSettings

variable (s : EngineSettings)

/-- A document that was written is described alike by either reading. -/
theorem described?_toText (surplus : Surplus) : described? surplus s.toText = some s := by
  have hkeys : ["generator", "logging"].Nodup := by decide
  obtain ⟨f, hf, hgives⟩ := Fields.exists_gives s.toFields hkeys surplus ["generator", "logging"]
  have hread :
      ((Toml.read? s.toText).bind fun v =>
        (Fields.ofValue? surplus ["generator", "logging"] v).bind (ofFields? surplus)) =
        some s := by
    rw [read?_toText, Option.bind_some, hf, Option.bind_some, ofFields?_of_gives hgives]
  unfold described?
  simp only [Option.bind_eq_bind, hread]

/-- The engine writes its two sections and nothing of the program. -/
theorem omitsFormat_ofText_toText : (FileContent.ofText s.toText).OmitsFormat := by
  intro text htext fields hread
  obtain rfl : s.toText = text := Except.ok.inj ((FileContent.text_ofText _).symm.trans htext)
  obtain rfl : s.toFields = fields :=
    Value.record.inj (Option.some.inj (s.read?_toText.symm.trans hread))
  show "output_format" ∉ ["generator", "logging"]
  decide

/-- Sections are written as tables, so none of them is a list. -/
theorem not_overfull_ofText_toText : ¬ (FileContent.ofText s.toText).Overfull := by
  rintro ⟨text, htext, hover⟩
  obtain rfl : s.toText = text := Except.ok.inj ((FileContent.text_ofText _).symm.trans htext)
  exact (described?_refused.1 (s.described?_toText .refused)).2 hover

end EngineSettings

/-- Settings with three attempts. -/
def fewAttempts : EngineSettings := { generator.maxAttempts := 3 }

theorem loadsAgree_fewAttempts :
    (FileContent.ofText fewAttempts.toText).OmitsFormat ∧
      LoadsAgree (.ofText fewAttempts.toText) rawEnvironment ∧
      EngineSettings.load (.ofText fewAttempts.toText) rawEnvironment = .ok rawSettings := by
  have homits := fewAttempts.omitsFormat_ofText_toText
  refine ⟨homits, (loadsAgree_iff homits).2 fun s s' hs _ => ?_, ?_⟩
  · rw [FileContent.described?_ofText, EngineSettings.described?_toText] at hs
    obtain rfl := Option.some.inj hs
    exact iff_of_true ⟨by decide, by decide⟩ fewAttempts.not_overfull_ofText_toText
  · refine EngineSettings.load_eq_ok_iff.2 ⟨fewAttempts, ?_, ⟨by decide, by decide⟩, by decide⟩
    rw [FileContent.described?_ofText, EngineSettings.described?_toText]

/-! ### Files on which the two ways differ -/

/-- Settings without an attempt. -/
def noAttempts : EngineSettings := { generator.maxAttempts := 0 }

/-- An environment that asks for five attempts. -/
def fiveAttempts : Environment := fun name => if name = attemptsVariable then some "5" else none

/-- The environment repairs what the file says if the settings are loaded as part of the program's,
and not if they are loaded by themselves. -/
theorem not_loadsAgree_noAttempts :
    (FileContent.ofText noAttempts.toText).OmitsFormat ∧
      ¬ LoadsAgree (.ofText noAttempts.toText) fiveAttempts := by
  refine ⟨noAttempts.omitsFormat_ofText_toText, ?_⟩
  unfold LoadsAgree
  decide +kernel

example : ¬ LoadsAgree (.ofText "generator = [4, 5]") fun _ => none := by
  unfold LoadsAgree
  decide +kernel

end CredentialPolicy
