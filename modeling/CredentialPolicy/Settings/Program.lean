import CredentialPolicy.Document.Format
import CredentialPolicy.Settings.Engine
import CredentialPolicy.Unicode.Lowercase

/-!
The settings of the program.

They are the settings of the engine and the format of what the program writes, in one document.
Reading does not check whether the engine's settings are valid; laying the environment over them
does. `ProgramSettings.set` changes one setting, given by a key and a text, and refuses a text that
would leave the engine's settings invalid.
-/

set_option autoImplicit false

namespace CredentialPolicy

open Document

/-! ## Formats of what the program writes -/

/-- A format of what the program writes. -/
inductive OutputFormat where
  /-- Tables to be read by people. -/
  | table
  /-- JSON. -/
  | json
  /-- Bare values, one on a line. -/
  | quiet
  deriving DecidableEq, Repr, Inhabited

namespace OutputFormat

/-- All formats. -/
def all : List OutputFormat := [table, json, quiet]

/-- The name of a format. -/
def name : OutputFormat → String
  | table => "table"
  | json => "json"
  | quiet => "quiet"

/-- The format with a name. -/
def ofName? (name : String) : Option OutputFormat := all.find? (·.name = name)

/-- The format whose name a text is in lowercase. -/
def ofText? (text : String) : Option OutputFormat :=
  ofName? (String.ofList (Unicode.lower text.toList))

/-- The format that a value gives. -/
def ofValue? (v : Value) : Option OutputFormat := (DocumentFormat.toml.choice? v).bind ofName?

theorem ofName?_name (f : OutputFormat) : ofName? f.name = some f := by cases f <;> decide

end OutputFormat

/-! ## Settings -/

/-- The settings of the program. -/
structure ProgramSettings where
  /-- The format of what the program writes. -/
  outputFormat : OutputFormat := .table
  /-- The settings of the engine. -/
  engine : EngineSettings := {}
  deriving DecidableEq, Repr, Inhabited

/-- Why the program has no settings. -/
inductive ProgramSettingsError where
  /-- The document describes none. -/
  | malformed
  /-- The file cannot be read. -/
  | file (cause : FileError)
  /-- There are no settings of the engine. -/
  | engine (cause : SettingsError)
  deriving DecidableEq, Repr, Inhabited

/-- What a user is told. The reason why a document is malformed is left out. -/
def ProgramSettingsError.message : ProgramSettingsError → String
  | malformed => "configuration error: failed to parse config"
  | file cause => s!"IO error: {cause.message}"
  | engine cause => cause.message

namespace ProgramSettings

/-- The names of the fields. -/
def fieldNames : List String := ["output_format", "generator", "logging"]

/-- The settings that a document describes, whether they are valid or not. -/
def ofText? (text : String) : Option ProgramSettings := do
  let f ← Fields.ofValue? .refused fieldNames (← Toml.read? text)
  let outputFormat ← f.withDefault "output_format" OutputFormat.ofValue? .table
  let engine ← EngineSettings.ofFields? .refused f
  return { outputFormat, engine }

/-- The settings as a document. -/
def toText (s : ProgramSettings) : String :=
  Toml.write (("output_format", .text s.outputFormat.name) :: s.engine.toFields)

/-- The settings in a file, or the default ones if there is no file, with the environment on top. -/
def load (file : FileContent) (env : Environment) :
    Except ProgramSettingsError ProgramSettings := do
  let settings ←
    if file.isPresent then
      match file.text with
      | .ok text =>
        match ofText? text with
        | some settings => pure settings
        | none => throw .malformed
      | .error cause => throw (.file cause)
    else pure {}
  match settings.engine.overlay env with
  | .ok engine => return { settings with engine }
  | .error cause => throw (.engine cause)

end ProgramSettings

/-! ## Changing a setting -/

/-- A setting that can be changed by itself. -/
inductive Setting where
  /-- The format of what the program writes. -/
  | outputFormat
  /-- How many candidates are drawn at most. -/
  | maxAttempts
  /-- What is logged. -/
  | logLevel
  /-- Whether the place of an event is logged. -/
  | logTarget
  deriving DecidableEq, Repr, Inhabited

namespace Setting

/-- All settings. -/
def all : List Setting := [outputFormat, maxAttempts, logLevel, logTarget]

/-- The keys of a setting; messages name the first one. -/
def keys : Setting → List String
  | outputFormat => ["output_format", "output"]
  | maxAttempts => ["generator.max_attempts", "max_attempts"]
  | logLevel => ["logging.level", "log_level"]
  | logTarget => ["logging.with_target"]

/-- The setting with a key. -/
def ofKey? (key : String) : Option Setting := all.find? (key ∈ ·.keys)

end Setting

/-- Why a setting cannot be changed. -/
inductive SettingError where
  /-- No setting has the key. -/
  | unknownKey (key : String)
  /-- The text names no format. -/
  | unknownFormat (text : String)
  /-- The text is no number of attempts. -/
  | notANumber (text : String)
  /-- There would be no attempt. -/
  | noAttempts
  /-- The level would be blank. -/
  | blankLevel
  /-- The text is no truth value. -/
  | notABoolean (text : String)
  deriving DecidableEq, Repr, Inhabited

namespace SettingError

/-- The cause in words. -/
def detail : SettingError → String
  | unknownKey key =>
    s!"unknown configuration key: {key}. Known keys: " ++
      ", ".intercalate (Setting.all.filterMap (·.keys.head?))
  | unknownFormat text =>
    s!"unknown output format: {text}. Supported: " ++
      ", ".intercalate (OutputFormat.all.map (·.name))
  | notANumber text => s!"max_attempts must be a positive integer, got {text}"
  | noAttempts => "max_attempts must be at least 1"
  | blankLevel => "log level must not be empty"
  | notABoolean text => s!"expected true or false, got {text}"

/-- What a user is told. -/
def message (e : SettingError) : String := s!"invalid argument: {e.detail}"

end SettingError

/-- The truth value that a text names. -/
def booleanOfText? : String → Option Bool
  | "true" => some true
  | "false" => some false
  | _ => none

namespace ProgramSettings

/-- The settings with another value for one of them. -/
def change (s : ProgramSettings) (setting : Setting) (value : String) :
    Except SettingError ProgramSettings :=
  match setting with
  | .outputFormat =>
    match OutputFormat.ofText? value with
    | some format => .ok { s with outputFormat := format }
    | none => .error (.unknownFormat value)
  | .maxAttempts =>
    match Text.uint32OfText? value.toList with
    | some n =>
      if n = 0 then .error .noAttempts
      else .ok { s with engine.generator.maxAttempts := n }
    | none => .error (.notANumber value)
  | .logLevel =>
    if Unicode.isBlankText value then .error .blankLevel
    else .ok { s with engine.logging.level := value }
  | .logTarget =>
    match booleanOfText? value with
    | some b => .ok { s with engine.logging.withTarget := b }
    | none => .error (.notABoolean value)

/-- The settings with another value for the one with the given key. -/
def set (s : ProgramSettings) (key value : String) : Except SettingError ProgramSettings :=
  match Setting.ofKey? key with
  | some setting => s.change setting value
  | none => .error (.unknownKey key)

/-- Sets the one with the given key in place. -/
def assign (key value : String) : ExceptT SettingError (StateM ProgramSettings) Unit := do
  match Setting.ofKey? key with
  | none => throw (.unknownKey key)
  | some .outputFormat =>
    let some format := OutputFormat.ofText? value | throw (.unknownFormat value)
    modify fun s => { s with outputFormat := format }
  | some .maxAttempts =>
    let some n := Text.uint32OfText? value.toList | throw (.notANumber value)
    if n = 0 then throw .noAttempts
    modify fun s => { s with engine.generator.maxAttempts := n }
  | some .logLevel =>
    if Unicode.isBlankText value then throw .blankLevel
    modify fun s => { s with engine.logging.level := value }
  | some .logTarget =>
    let some b := booleanOfText? value | throw (.notABoolean value)
    modify fun s => { s with engine.logging.withTarget := b }

/-- The settings after some values have been set in place under some keys, one after the other and
whether or not some of them were refused. -/
def after (s : ProgramSettings) (calls : List (String × String)) : ProgramSettings :=
  calls.foldl (fun s call => ((assign call.1 call.2).run.run s).2) s

end ProgramSettings

end CredentialPolicy
