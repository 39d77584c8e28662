import CredentialPolicy.Files.Tree
import CredentialPolicy.Program.Run

/-!
Runs of the program one after the other, on files that stay in between.

The user's directory is also the one in which the program runs. Of all files only the one with the
settings is ever written.
-/

set_option autoImplicit false

namespace CredentialPolicy.Program

open CredentialPolicy.Random (WordSource)

/-- A user's directory. -/
structure Session where
  /-- The path of the directory. -/
  home : String
  /-- What it holds. -/
  files : FileTree
  deriving Inhabited

namespace Session

/-- What a path holds, read from inside the directory unless it starts with the directory's own. -/
def content (s : Session) (path : String) : FileContent :=
  let home := s.home.toList ++ ['/']
  if home.isPrefixOf path.toList then s.files.content (String.ofList (path.toList.drop home.length))
  else s.files.content path

/-- The host that the program sees. -/
def host (s : Session) (environment : Environment) : Host :=
  { home := s.home, environment, content := s.content }

/-- The session with a file with some settings. -/
def save (s : Session) (settings : ProgramSettings) : Except FileError Session :=
  (s.files.write settingsNames settings.toText.toUTF8).map fun files => { s with files }

/-- The outcome of a conclusion, and the session after it. -/
def settle (s : Session) (conclusion : Conclusion) : Outcome × Session :=
  match conclusion with
  | .done outcome => (outcome, s)
  | .save settings _ =>
    match s.save settings with
    | .ok next => (conclusion.settle (.ok ()), next)
    | .error cause => (conclusion.settle (.error cause), s)

/-- Runs the program once. -/
def run {σ : Type} [WordSource σ] (s : Session) (environment : Environment) (words : List String)
    (source : σ) : Outcome × Session :=
  s.settle ((requestOf environment words).perform (s.host environment) source)

end Session

end CredentialPolicy.Program
