import CredentialPolicy.Program.Run
import CredentialPolicy.Random.KeyStream

/-!
The program: reads what a command line asks for, runs it, and does what is left to do.
-/

set_option autoImplicit false

namespace CredentialPolicy.Program

/-- The cause of a failure to use a file. -/
def fileErrorOf (e : IO.Error) : FileError :=
  match e with
  | .noFileOrDirectory .. => .notFound
  | .alreadyExists .. => .alreadyExists
  | .inappropriateType _ code _ => if code = 20 then .notDirectory else .isDirectory
  | _ => .denied

/-- What an action on files gives, or why it fails. -/
def attempt {α : Type} (action : IO α) : IO (Except FileError α) := do
  try return .ok (← action)
  catch e => return .error (fileErrorOf e)

/-- What each of some paths holds. -/
def readContents (paths : List String) : IO (List (String × FileContent)) :=
  paths.mapM fun (path : String) => do return (path, ← attempt (IO.FS.readBinFile path))

/-- The entries with some names. -/
def readEnvironment (names : List String) : IO (List (String × String)) := do
  let found ← names.mapM fun name => do return (← IO.getEnv name).map (name, ·)
  return found.filterMap id

/-- Writes the settings of the program to a user's directory. -/
def writeSettings (home : String) (path : String) (settings : ProgramSettings) :
    IO (Except FileError Unit) :=
  attempt do
    IO.FS.createDirAll ("/".intercalate (home :: settingsNames.dropLast))
    IO.FS.writeFile path settings.toText

/-- Runs the program. -/
def runWith (arguments : List String) : IO UInt32 := do
  let home := (← IO.getEnv "HOME").getD ""
  let entries ← readEnvironment [levelVariable, attemptsVariable, engineFileVariable]
  let environment : Environment := fun name => entries.lookup name
  let request := requestOf environment arguments
  let path := Host.settingsPath { home, environment, content := fun _ => .error .notFound }
  let contents ← readContents (path :: request.files)
  let host : Host :=
    { home, environment, content := fun path => (contents.lookup path).getD (.error .notFound) }
  let seed ← IO.getRandomBytes 32
  let conclusion := request.perform host (Random.KeyStream.ofSeed seed.toList)
  let written ← match conclusion with
    | .save settings _ => writeSettings home path settings
    | .done _ => pure (.ok ())
  let outcome := conclusion.settle written
  IO.print outcome.output
  IO.eprint outcome.complaint
  return outcome.code.toUInt32

end CredentialPolicy.Program

/-- Runs the program with the words behind its name. -/
def main (arguments : List String) : IO UInt32 := CredentialPolicy.Program.runWith arguments
