import CredentialPolicy.Policy.File
import CredentialPolicy.PolicyError
import CredentialPolicy.Settings.Program

/-!
What comes of running the program.

A command ends with an outcome, or asks for the settings to be written first; whether that succeeds
decides about the outcome then.
-/

set_option autoImplicit false

namespace CredentialPolicy.Program

/-- The exit code and what is printed. -/
structure Outcome where
  /-- The exit code. -/
  code : UInt8 := 0
  /-- What goes to standard output. -/
  output : String := ""
  /-- What goes to standard error. -/
  complaint : String := ""
  deriving DecidableEq, Repr, Inhabited

/-- A line that tells of a success. -/
def successLine (text : String) : String := s!"✓ {text}\n"

/-- A line that informs. -/
def informationLine (text : String) : String := s!"ℹ {text}\n"

/-- A line that warns. -/
def warningLine (text : String) : String := s!"⚠ {text}\n"

/-- A line that tells of a failure. -/
def failureLine (text : String) : String := s!"✗ {text}\n"

namespace Outcome

/-- A success that is only told of. -/
def success (text : String) : Outcome := { output := successLine text }

/-- A failure. -/
def failure (text : String) : Outcome := { code := 1, complaint := failureLine text }

end Outcome

/-- Why a command fails. -/
inductive CommandError where
  /-- A file holds no policy. -/
  | policyFile (cause : PolicyFileError)
  /-- An operation on policies has no result, or a username is not accepted. -/
  | policy (cause : PolicyError)
  /-- A setting cannot be changed. -/
  | setting (cause : SettingError)
  /-- There is a file with settings already. -/
  | settingsPresent (path : String)
  /-- The settings cannot be written. -/
  | file (cause : FileError)
  deriving DecidableEq, Repr, Inhabited

/-- What a user is told. -/
def CommandError.message : CommandError → String
  | policyFile cause => cause.message
  | policy cause => cause.message
  | setting cause => cause.message
  | settingsPresent path =>
    s!"configuration error: {path} already exists; pass --force to overwrite"
  | file cause => s!"IO error: {cause.message}"

/-- What a command ends with. -/
inductive Conclusion where
  /-- Nothing is left to do. -/
  | done (outcome : Outcome)
  /-- Settings have to be written; `text` tells of it. -/
  | save (settings : ProgramSettings) (text : String)
  deriving DecidableEq, Repr, Inhabited

namespace Conclusion

/-- The conclusion of a command that may fail. -/
def ofResult : Except CommandError Conclusion → Conclusion
  | .ok conclusion => conclusion
  | .error cause => .done (.failure cause.message)

/-- The outcome, given whether the settings could be written. -/
def settle (written : Except FileError Unit) : Conclusion → Outcome
  | done outcome => outcome
  | save _ text =>
    match written with
    | .ok () => .success text
    | .error cause => .failure (CommandError.file cause).message

end Conclusion

end CredentialPolicy.Program
