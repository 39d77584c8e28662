import CredentialPolicy.Document.Record
import CredentialPolicy.Files.Content
import CredentialPolicy.Text.Quoted
import CredentialPolicy.Toml.Reader
import CredentialPolicy.Toml.Writer
import CredentialPolicy.Unicode.Blank

/-!
The settings of the engine.

Settings are read from a TOML document, in which every field may be missing, and then overlaid with
variables of the environment. They are valid if there is at least one attempt and the level is not
blank; whatever is read or overlaid is checked for that.
-/

set_option autoImplicit false

namespace CredentialPolicy

open Document

/-- The settings for drawing passwords. -/
structure GeneratorSettings where
  /-- How many candidates are drawn at most. -/
  maxAttempts : UInt32 := 16
  deriving DecidableEq, Repr, Inhabited

/-- The settings for the log. -/
structure LoggingSettings where
  /-- What is logged. -/
  level : String := "info"
  /-- Whether the place of an event is logged. -/
  withTarget : Bool := false
  deriving DecidableEq, Repr, Inhabited

/-- The settings of the engine. -/
structure EngineSettings where
  /-- For drawing passwords. -/
  generator : GeneratorSettings := {}
  /-- For the log. -/
  logging : LoggingSettings := {}
  deriving DecidableEq, Repr, Inhabited

/-- Why there are no settings. -/
inductive SettingsError where
  /-- The document describes none. -/
  | malformed
  /-- There is no attempt. -/
  | noAttempts
  /-- The level is blank. -/
  | blankLevel
  /-- The variable for the number of attempts holds no number. -/
  | attemptsVariable (text : String)
  /-- The file cannot be read. -/
  | file (cause : FileError)
  /-- The log has been set up before. -/
  | loggingSet
  deriving DecidableEq, Repr, Inhabited

/-- The variable that overrides the level. -/
def levelVariable : String := "IDM_LOG_LEVEL"

/-- The variable that overrides the number of attempts. -/
def attemptsVariable : String := "IDM_GENERATOR_MAX_ATTEMPTS"

namespace SettingsError

/-- The groups of errors that callers tell apart. -/
inductive Category where
  | settings
  | file
  | logging
  deriving DecidableEq, Repr, Inhabited

/-- The group of an error. -/
def category : SettingsError → Category
  | malformed | noAttempts | blankLevel | attemptsVariable _ => .settings
  | file _ => .file
  | loggingSet => .logging

/-- The cause in words, without its group. The reason why a document is malformed is left out. -/
def detail : SettingsError → String
  | malformed => "failed to parse config"
  | noAttempts => "generator.max_attempts must be at least 1"
  | blankLevel => "logging.level must not be empty"
  | attemptsVariable text =>
    s!"{CredentialPolicy.attemptsVariable} must be a positive integer, got {Text.quoted text}"
  | file cause => cause.message
  | loggingSet => "a global default trace dispatcher has already been set"

/-- What a user is told. -/
def message (e : SettingsError) : String :=
  match e.category with
  | .settings => s!"configuration error: {e.detail}"
  | .file => s!"I/O error: {e.detail}"
  | .logging => s!"logging error: {e.detail}"

end SettingsError

/-- The variables of an environment. -/
abbrev Environment := String → Option String

namespace GeneratorSettings

/-- The settings that a value describes. -/
def ofValue? (surplus : Surplus) (v : Value) : Option GeneratorSettings := do
  let f ← Fields.ofValue? surplus ["max_attempts"] v
  return { maxAttempts := ← f.withDefault "max_attempts" Value.uint32? 16 }

/-- The settings as a record. -/
def toValue (s : GeneratorSettings) : Value :=
  .record [("max_attempts", .int s.maxAttempts.toNat)]

end GeneratorSettings

namespace LoggingSettings

/-- The settings that a value describes. -/
def ofValue? (surplus : Surplus) (v : Value) : Option LoggingSettings := do
  let f ← Fields.ofValue? surplus ["level", "with_target"] v
  let level ← f.withDefault "level" Value.text? "info"
  let withTarget ← f.withDefault "with_target" Value.bool? false
  return { level, withTarget }

/-- The settings as a record. -/
def toValue (s : LoggingSettings) : Value :=
  .record [("level", .text s.level), ("with_target", .bool s.withTarget)]

end LoggingSettings

namespace EngineSettings

/-- The settings that the fields of a record describe, whether they are valid or not. -/
def ofFields? (surplus : Surplus) (f : Fields) : Option EngineSettings := do
  let generator ← f.withDefault "generator" (GeneratorSettings.ofValue? surplus) {}
  let logging ← f.withDefault "logging" (LoggingSettings.ofValue? surplus) {}
  return { generator, logging }

/-- The fields of the settings. -/
def toFields (s : EngineSettings) : List (String × Value) :=
  [("generator", s.generator.toValue), ("logging", s.logging.toValue)]

/-- The settings, if they are valid. -/
def validate (s : EngineSettings) : Except SettingsError EngineSettings :=
  if s.generator.maxAttempts = 0 then .error .noAttempts
  else if Unicode.isBlankText s.logging.level then .error .blankLevel
  else .ok s

/-- The settings that a document describes. -/
def ofText (text : String) : Except SettingsError EngineSettings :=
  let s? := do
    let v ← Toml.read? text
    ofFields? .ignored (← Fields.ofValue? .ignored ["generator", "logging"] v)
  match s? with
  | some s => s.validate
  | none => .error .malformed

/-- The settings as a document. -/
def toText (s : EngineSettings) : String := Toml.write s.toFields

/-- The settings with what the environment says in place of their own values. -/
def overlay (s : EngineSettings) (env : Environment) : Except SettingsError EngineSettings :=
  let s := match env levelVariable with
    | some level => { s with logging.level := level }
    | none => s
  match env attemptsVariable with
  | none => s.validate
  | some text =>
    match Text.uint32OfText? (Unicode.trim text.toList) with
    | some n => { s with generator.maxAttempts := n }.validate
    | none => .error (.attemptsVariable text)

/-- The settings in a file, or the default ones if there is no file, with the environment on top. -/
def load (file : FileContent) (env : Environment) : Except SettingsError EngineSettings := do
  if file.isPresent then
    match file.text with
    | .ok text => (← ofText text).overlay env
    | .error cause => throw (.file cause)
  else overlay {} env

end EngineSettings

end CredentialPolicy
