import CredentialPolicy.Account.Verdict
import CredentialPolicy.Generation.Policies
import CredentialPolicy.Log.Filter
import CredentialPolicy.Program.Arguments
import CredentialPolicy.Program.Listing

/-!
Running the commands of the program.

A command sees its surroundings only through a `Host`. The settings of the program are read before
any command runs; those of the engine may be taken from a file of their own instead. Settings that a
command writes are the ones it runs with, with whatever the environment or that file says.
-/

set_option autoImplicit false

namespace CredentialPolicy.Program

open Document
open Generation (Draw)
open CredentialPolicy.Random (WordSource)

/-- What the program sees of the machine on which it runs. -/
structure Host where
  /-- The path of the user's directory. -/
  home : String
  /-- The variables of the environment. -/
  environment : Environment
  /-- What each path holds. -/
  content : String → FileContent

/-- The names that lead from the user's directory to the file with the settings. -/
def settingsNames : List String := [".idm", "idm.toml"]

namespace Host

/-- The path of the file with the settings. -/
def settingsPath (host : Host) : String := "/".intercalate (host.home :: settingsNames)

/-- The file with the settings. -/
def settingsFile (host : Host) : FileContent := host.content host.settingsPath

end Host

/-! ## Policies -/

/-- The policies in some files. -/
def policiesIn {π : Type} (host : Host) (read? : DocumentFormat → Text.Uuid → String → Option π)
    (files : List String) : Except CommandError (List π) :=
  (loadPolicies (fun format => read? format default) host.content files).mapError .policyFile

/-- Passwords for some policies, the first of which has the number `index`. -/
def passwordsFrom {σ : Type} [WordSource σ] (registry : Registry) (maxAttempts : UInt32)
    (policies : List PasswordPolicy) (index : Nat) : Nat → Draw σ (List (Nat × String))
  | 0 => pure []
  | count + 1 => do
    let password ← Generation.passwordFor registry maxAttempts (some policies)
    let rest ← passwordsFrom registry maxAttempts policies (index + 1) count
    return (index, password) :: rest

/-- Passwords with their numbers. -/
def passwordListing (passwords : List (Nat × String)) : Listing where
  header := ["#", "password"]
  rows := passwords.map fun (index, password) => {
    cells := [toString index, password]
    value := .record [("index", .int index), ("password", .text password)]
    line := password }

/-- Draws passwords. -/
def generate {σ : Type} [WordSource σ] (host : Host) (settings : ProgramSettings)
    (format : OutputFormat) (files : List String) (count : UInt32) (source : σ) :
    Except CommandError Outcome := do
  let policies ← policiesIn host PasswordPolicy.ofText? files
  let draw := passwordsFrom .standard settings.engine.generator.maxAttempts policies 1 count.toNat
  let passwords ← (draw.run.run source).1.mapError .policy
  return { output := (passwordListing passwords).toText format }

/-- The fields of a rule in force that people are shown. -/
def shownFields (r : PasswordRule) : List (String × String) :=
  let number (i : Int32) : String := toString i.toInt
  let characters (s : Ascending Char) : String := String.ofList s.toList
  [("min_length", number r.minLength), ("max_length", number r.maxLength),
    ("alphabetical", number r.letters), ("uppercase", number r.uppercase),
    ("lowercase", number r.lowercase), ("digit", number r.digits), ("special", number r.specials),
    ("special_chars", characters r.specialChars), ("illegal_chars", characters r.illegalChars),
    ("repeat_same", number r.repeatSame), ("username_allowed", toString r.usernameAllowed),
    ("words_not_permitted", ",".intercalate r.forbiddenWords.toList)]

/-- The fields of a rule in force, a row each. -/
def ruleListing (r : PasswordRule) : Listing where
  header := ["field", "value"]
  rows := (shownFields r).map fun (field, value) => {
    cells := [field, value]
    value := .record [("field", .text field), ("value", .text value)]
    line := s!"{field}={value}" }

/-- Shows what the password rules of some policies amount to. As JSON it is the rule itself. -/
def merge (host : Host) (format : OutputFormat) (files : List String) :
    Except CommandError Outcome := do
  let policies ← policiesIn host PasswordPolicy.ofText? files
  let rules := Generation.rulesOf .standard policies
  let merged ← (PasswordRule.merge (some rules)).mapError .policy
  match format with
  | .json => return { output := Json.writeLines merged.toValue ++ "\n" }
  | format => return { output := (ruleListing merged).toText format }

/-- Checks a user. -/
def checkAccount (host : Host) (format : OutputFormat) (files : List String) (username : String)
    (attributes : List (String × String)) : Except CommandError Outcome := do
  let policies ← policiesIn host AccountPolicy.ofText? files
  let user :=
    attributes.foldl (fun (user : UserSnapshot) a => user.withAttribute a.1 a.2) { username }
  (enforcePolicies .standard (some policies) user).mapError .policy
  match format with
  | .table =>
    let count := policies.length
    let noun := if count = 1 then "policy" else "policies"
    return .success s!"Username {Text.quoted username} satisfies {count} account {noun}"
  | .json =>
    let value := Value.record [("username", .text username), ("valid", .bool true)]
    return { output := Json.write value ++ "\n" }
  | .quiet => return {}

/-! ## Settings -/

/-- Prints or changes the settings. -/
def changeSettings (host : Host) (settings : ProgramSettings) :
    SettingsCommand → Except CommandError Conclusion
  | .print =>
    return .done {
      output :=
        informationLine s!"Configuration file: {host.settingsPath}" ++ "\n" ++ settings.toText
      complaint :=
        if host.settingsFile.isPresent then ""
        else warningLine "File does not exist; showing defaults." }
  | .set key value =>
    match settings.set key value with
    | .ok settings => return .save settings s!"Set {key} = {value}"
    | .error cause => throw (.setting cause)
  | .create overwrite =>
    if host.settingsFile.isPresent && ! overwrite then throw (.settingsPresent host.settingsPath)
    else return .save settings s!"Configuration saved to: {host.settingsPath}"

/-! ## Commands -/

/-- The settings with which a command runs, or what a user is told when there are none. -/
def settingsFor (host : Host) (invocation : Invocation) : Except String ProgramSettings :=
  match ProgramSettings.load host.settingsFile host.environment with
  | .error cause => .error s!"Failed to load configuration: {cause.message}"
  | .ok settings =>
    match invocation.engineFile with
    | none => .ok settings
    | some path =>
      match EngineSettings.load (host.content path) host.environment with
      | .ok engine => .ok { settings with engine }
      | .error cause => .error s!"Failed to load {path}: {cause.message}"

/-- The filter for the log of a command: everything that is of use in finding faults, if all is to
be logged, and what the settings say otherwise. -/
def logFilterFor (invocation : Invocation) (settings : ProgramSettings) : LogFilter :=
  .ofText (if invocation.verbose then LogLevel.debug.name else settings.engine.logging.level)

/-- Runs a command. -/
def run {σ : Type} [WordSource σ] (host : Host) (invocation : Invocation) (source : σ) :
    Conclusion :=
  match settingsFor host invocation with
  | .error text => .done (.failure text)
  | .ok settings =>
    let format := invocation.outputFormat.getD settings.outputFormat
    .ofResult <| match invocation.command with
      | .generate files count => (generate host settings format files count source).map .done
      | .merge files => (merge host format files).map .done
      | .checkAccount files username attributes =>
        (checkAccount host format files username attributes).map .done
      | .settings command => changeSettings host settings command

/-- How the program is used. -/
def usage : String :=
  "Usage: idm-policy [-c FILE] [-o FORMAT] [-v] COMMAND\n\n" ++
  "Commands:\n" ++
  "  generate [-n COUNT] [FILE...]\n" ++
  "  merge [FILE...]\n" ++
  "  check-account -u NAME [--attr SCHEMA=VALUE...] FILE...\n" ++
  "  config show | config set KEY VALUE | config init [--force]\n"

/-- Does what a command line asks for. -/
def Request.perform {σ : Type} [WordSource σ] (host : Host) (source : σ) : Request → Conclusion
  | .run invocation => Program.run host invocation source
  | .version names => .done { output := "-".intercalate names ++ s!" {programVersion}\n" }
  | .help => .done { output := usage }
  | .refuse cause => .done { code := 2, complaint := s!"error: {cause.message}\n" }

end CredentialPolicy.Program
