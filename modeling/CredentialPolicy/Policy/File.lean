import CredentialPolicy.Files.Content
import CredentialPolicy.Policy.Document
import CredentialPolicy.Text.Search

/-!
Policies in files.

The extension of a file's name says in which format the policy is written. The file is read first,
so that a file that cannot be read is reported as such whatever its name.
-/

set_option autoImplicit false

namespace CredentialPolicy

/-- Why a file holds no policy. -/
inductive PolicyFileReason where
  /-- The file cannot be read. -/
  | file (cause : FileError)
  /-- The name has no extension, or that of no format. -/
  | unknownExtension
  /-- The text describes no policy. -/
  | malformed
  deriving DecidableEq, Repr, Inhabited

/-- A file that holds no policy, and why. -/
structure PolicyFileError where
  /-- The path of the file. -/
  path : String
  /-- What is wrong with it. -/
  reason : PolicyFileReason
  deriving DecidableEq, Repr, Inhabited

/-- What a user is told. The reason why a policy is malformed is left out. -/
def PolicyFileError.message (e : PolicyFileError) : String :=
  let subject := s!"cannot load policy file {e.path}"
  match e.reason with
  | .file cause => s!"{subject}: {cause.message}"
  | .unknownExtension => s!"{subject}: expected a .json or .toml file"
  | .malformed => subject

/-- The last name on a path. -/
def fileName (path : List Char) : List Char := (Text.pieces '/' path).getLast?.getD []

/-- What lies behind the last dot of a path's last name, unless that is the name's only dot and its
first character. -/
def extension? (path : List Char) : Option (List Char) :=
  let backwards := (fileName path).reverse
  match backwards.dropWhile (· ≠ '.') with
  | _ :: _ :: _ => some (backwards.takeWhile (· ≠ '.')).reverse
  | _ => none

namespace DocumentFormat

/-- The extension of the names of files in a format. -/
def extension : DocumentFormat → String
  | json => "json"
  | toml => "toml"

/-- The format that a path tells by its extension, in any letter case. -/
def ofPath? (path : String) : Option DocumentFormat :=
  (extension? path.toList).bind fun ext =>
    [json, toml].find? fun format => format.extension.toList = ext.map Char.toLower

end DocumentFormat

/-- The policy at a path that holds `file`; `read?` reads policies from texts. -/
def loadPolicy {π : Type} (read? : DocumentFormat → String → Option π) (path : String)
    (file : FileContent) : Except PolicyFileError π :=
  match file.text with
  | .error cause => .error ⟨path, .file cause⟩
  | .ok text =>
    match DocumentFormat.ofPath? path with
    | none => .error ⟨path, .unknownExtension⟩
    | some format =>
      match read? format text with
      | some policy => .ok policy
      | none => .error ⟨path, .malformed⟩

/-- The policies at some paths, in order; the first path without one is reported. -/
def loadPolicies {π : Type} (read? : DocumentFormat → String → Option π)
    (content : String → FileContent) (paths : List String) : Except PolicyFileError (List π) :=
  paths.mapM fun path => loadPolicy read? path (content path)

example : extension? "a.d/x.tar.gz".toList = some "gz".toList := by decide

example : extension? ".json".toList = none ∧ extension? "x.".toList = some [] := by decide

end CredentialPolicy
