/-!
What a path of a file system holds, and why it may hold nothing that can be read.
-/

set_option autoImplicit false

namespace CredentialPolicy

/-- Why a file cannot be read or written. -/
inductive FileError where
  /-- Nothing has the name. -/
  | notFound
  /-- The file may not be used in this way. -/
  | denied
  /-- Something that is no directory has the name of a directory to be made. -/
  | alreadyExists
  /-- The path leads through something that is no directory. -/
  | notDirectory
  /-- The path leads to a directory. -/
  | isDirectory
  /-- A name is longer than names may be. -/
  | nameTooLong
  /-- The path holds a character that no name may hold. -/
  | invalidName
  /-- The bytes of the file are no text. -/
  | notText
  deriving DecidableEq, Repr, Inhabited

/-- What a user is told. -/
def FileError.message : FileError → String
  | notFound => "No such file or directory (os error 2)"
  | denied => "Permission denied (os error 13)"
  | alreadyExists => "File exists (os error 17)"
  | notDirectory => "Not a directory (os error 20)"
  | isDirectory => "Is a directory (os error 21)"
  | nameTooLong => "File name too long (os error 36)"
  | invalidName => "file name contained an unexpected NUL byte"
  | notText => "stream did not contain valid UTF-8"

/-- What a path holds: the bytes of a file, or the reason why they cannot be read. -/
abbrev FileContent := Except FileError ByteArray

namespace FileContent

/-- A file with a text. -/
def ofText (text : String) : FileContent := .ok text.toUTF8

/-- Whether the path leads to a file or a directory. -/
def isPresent : FileContent → Bool
  | .ok _ => true
  | .error e => e = .isDirectory

/-- The text of the file. -/
def text : FileContent → Except FileError String
  | .ok bytes =>
    match String.fromUTF8? bytes with
    | some s => .ok s
    | none => .error .notText
  | .error e => .error e

theorem text_ofText (s : String) : (ofText s).text = .ok s := by
  simp [ofText, text, String.fromUTF8?, String.fromUTF8, s.isValidUTF8]

end FileContent

end CredentialPolicy
