import CredentialPolicy.Files.Content
import CredentialPolicy.Text.Search

/-!
File systems as trees, and the paths that lead through them.

A path is read name by name: an empty name and a single dot stay where they are, two dots lead to
the directory around, and only directories can be passed through. Writing a file makes the
directories on its path; what is written is then read: `follow_write`.
-/

set_option autoImplicit false

namespace CredentialPolicy

/-- A file, or a directory and what it holds under each name. -/
inductive FileTree where
  /-- A file. -/
  | file (bytes : ByteArray)
  /-- A directory; of several entries of one name the first one counts. -/
  | directory (entries : List (String × FileTree))
  deriving Inhabited

namespace FileTree

/-- The directory without entries. -/
def empty : FileTree := .directory []

/-- The length in bytes that a name may have. -/
def maxNameSize : Nat := 255

/-- What some names lead to from a place that lies in the directories `above`, innermost first. -/
def follow (above : List FileTree) (place : FileTree) : List String → Except FileError FileTree
  | [] => .ok place
  | name :: rest =>
    match place with
    | .file _ => .error .notDirectory
    | .directory entries =>
      if name = "" ∨ name = "." then follow above place rest
      else if name = ".." then
        match above with
        | [] => follow [] place rest
        | parent :: outer => follow outer parent rest
      else if maxNameSize < name.utf8ByteSize then .error .nameTooLong
      else
        match entries.lookup name with
        | some next => follow (place :: above) next rest
        | none => .error .notFound

/-- The names of a path. -/
def namesOf (path : String) : List String := (Text.pieces '/' path.toList).map String.ofList

/-- What a path holds. -/
def content (tree : FileTree) (path : String) : FileContent :=
  if path.toList.contains '\x00' then .error .invalidName
  else if path = "" then .error .notFound
  else
    match tree.follow [] (namesOf path) with
    | .ok (.file bytes) => .ok bytes
    | .ok (.directory _) => .error .isDirectory
    | .error e => .error e

/-- The entries with `place` under a name, whatever was there. -/
def setEntry (name : String) (place : FileTree) (entries : List (String × FileTree)) :
    List (String × FileTree) :=
  (name, place) :: entries.filter (·.1 ≠ name)

/-- The entries with a file under some names, of which the last one is the file's. -/
def writeEntry (bytes : ByteArray) (entries : List (String × FileTree)) :
    List String → Except FileError (List (String × FileTree))
  | [] => .error .isDirectory
  | [name] =>
    match entries.lookup name with
    | some (.directory _) => .error .isDirectory
    | _ => .ok (setEntry name (.file bytes) entries)
  | name :: rest =>
    match entries.lookup name with
    | some (.file _) => .error (if rest.length = 1 then .alreadyExists else .notDirectory)
    | some (.directory inner) =>
      (writeEntry bytes inner rest).map fun inner => setEntry name (.directory inner) entries
    | none => (writeEntry bytes [] rest).map fun inner => setEntry name (.directory inner) entries

/-- The tree with a file at the place that some plain names lead to. -/
def write (tree : FileTree) (names : List String) (bytes : ByteArray) : Except FileError FileTree :=
  match tree with
  | .file _ => .error .notDirectory
  | .directory entries => (writeEntry bytes entries names).map .directory

/-- The tree with all of some files that can be written one after the other. -/
def ofFiles (files : List (String × ByteArray)) : FileTree :=
  files.foldl (fun tree (path, bytes) =>
    match tree.write (namesOf path) bytes with
    | .ok next => next
    | .error _ => tree) empty

/-- Whether a name leads into the directory in which it stands. -/
def IsPlain (name : String) : Prop :=
  name ≠ "" ∧ name ≠ "." ∧ name ≠ ".." ∧ name.utf8ByteSize ≤ maxNameSize

instance (name : String) : Decidable (IsPlain name) := inferInstanceAs (Decidable (_ ∧ _))

theorem follow_directory {above : List FileTree} {entries : List (String × FileTree)}
    {name : String} {rest : List String} (h : IsPlain name) :
    follow above (.directory entries) (name :: rest) =
      match entries.lookup name with
      | some next => follow (.directory entries :: above) next rest
      | none => .error .notFound := by
  obtain ⟨h1, h2, h3, h4⟩ := h
  simp [follow, h1, h2, h3, Nat.not_lt.2 h4]

theorem lookup_setEntry (name : String) (place : FileTree) (entries : List (String × FileTree)) :
    (setEntry name place entries).lookup name = some place := by
  simp [setEntry]

theorem follow_writeEntry {bytes : ByteArray} {names : List String} (hp : ∀ n ∈ names, IsPlain n)
    (above : List FileTree) (entries : List (String × FileTree)) {next : List (String × FileTree)}
    (h : writeEntry bytes entries names = .ok next) :
    follow above (.directory next) names = .ok (.file bytes) := by
  induction names generalizing above entries next with
  | nil => simp [writeEntry] at h
  | cons name rest ih =>
    have hname : IsPlain name := hp name (by simp)
    cases rest with
    | nil =>
      rw [writeEntry] at h
      split at h
      · simp at h
      · cases h
        rw [follow_directory hname, lookup_setEntry]
        rfl
    | cons name' rest =>
      have step (inner : List (String × FileTree))
          (h : ((writeEntry bytes inner (name' :: rest)).map fun inner =>
            setEntry name (.directory inner) entries) = .ok next) :
          follow above (.directory next) (name :: name' :: rest) = .ok (.file bytes) := by
        cases hw : writeEntry bytes inner (name' :: rest) with
        | error e => rw [hw] at h; cases h
        | ok w =>
          rw [hw] at h
          cases h
          rw [follow_directory hname, lookup_setEntry]
          exact ih (fun n hn => hp n (List.mem_cons_of_mem _ hn)) _ _ hw
      rw [writeEntry] at h
      · split at h
        · simp at h
        · exact step _ h
        · exact step _ h
      · simp

theorem follow_write {tree next : FileTree} {names : List String} {bytes : ByteArray}
    (hp : ∀ n ∈ names, IsPlain n) (h : tree.write names bytes = .ok next) :
    follow [] next names = .ok (.file bytes) := by
  cases tree with
  | file => simp [write] at h
  | directory entries =>
    rw [write] at h
    cases hw : writeEntry bytes entries names with
    | error e => rw [hw] at h; cases h
    | ok w => rw [hw] at h; cases h; exact follow_writeEntry hp _ _ hw

end FileTree

end CredentialPolicy
