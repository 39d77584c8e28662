import CredentialPolicy.Text.Quoted

/-!
Reading the words of a command line.

A grammar lists the options that may stand on a part of the line and says what the other words mean.
An option is written with two hyphens and its name, or with one hyphen and a letter; a value follows
in the same word, behind an equals sign, or in the next word, which then must not look like an
option. Letters without values may share a word. Two hyphens alone end the options.
-/

set_option autoImplicit false

namespace CredentialPolicy.Program

/-- Why a command line is refused. -/
inductive UsageError where
  /-- No command is given. -/
  | noCommand
  /-- A word that has no meaning where it stands. -/
  | unexpected (word : String)
  /-- An option whose value is missing. -/
  | noValue (option : String)
  /-- An option that is given twice. -/
  | repeated (option : String)
  /-- A value that an option or argument cannot have. -/
  | invalidValue (value : String)
  /-- An attribute that is not a name and a value with an equals sign between them. -/
  | invalidAttribute (text : String)
  /-- An option or argument that has to be given. -/
  | required (name : String)
  deriving DecidableEq, Repr, Inhabited

/-- What a user is told. -/
def UsageError.message : UsageError → String
  | noCommand => "expected a command"
  | unexpected word => s!"unexpected argument {Text.quoted word}"
  | noValue option => s!"expected a value for --{option}"
  | repeated option => s!"--{option} cannot be used multiple times"
  | invalidValue value => s!"invalid value {Text.quoted value}"
  | invalidAttribute text => s!"expected SCHEMA=VALUE, got {Text.quoted text}"
  | required name => s!"expected {name}"

/-- Why the words of a command line are read no further. -/
inductive Stop where
  /-- The line is refused. -/
  | refused (cause : UsageError)
  /-- The version is asked for. -/
  | version
  /-- Help is asked for. -/
  | help
  deriving DecidableEq, Repr, Inhabited

/-- What an option does, if its occurrences are read as values of type `α`. -/
inductive OptionRole (α : Type) where
  /-- It stands for itself. -/
  | flag (meaning : α)
  /-- It has a value. -/
  | valued (read : String → Except UsageError α)
  /-- It stops the reading. -/
  | stop (cause : Stop)

/-- An option that may stand on a line. -/
structure OptionForm (α : Type) where
  /-- The name behind two hyphens. -/
  name : String
  /-- The letter behind one hyphen. -/
  letter : Option Char := none
  /-- Whether it may be given more than once. -/
  repeatable : Bool := false
  /-- What it does. -/
  role : OptionRole α

/-- What may stand on a part of a line. -/
structure Grammar (α : Type) where
  /-- The options. -/
  options : List (OptionForm α)
  /-- How words that are no options are read; without it the first of them ends the part. -/
  argument : Option (String → Except UsageError α) := none

/-- What has been read of a part of a line. -/
structure Progress (α : Type) where
  /-- What the words mean, last one first. -/
  items : List α := []
  /-- The names of the options that have been given. -/
  seen : List String := []
  /-- An option whose value is still to come. -/
  pending : Option (OptionForm α) := none

namespace Progress

variable {α : Type}

/-- Notes an option, which must not have been noted before unless it is repeatable. -/
def note (p : Progress α) (form : OptionForm α) : Except Stop (Progress α) :=
  if ! form.repeatable && p.seen.contains form.name then
    .error (.refused (.repeated form.name))
  else .ok { p with seen := form.name :: p.seen }

/-- Adds what a word means. -/
def add (p : Progress α) (meaning : Except UsageError α) : Except Stop (Progress α) :=
  match meaning with
  | .ok item => .ok { p with items := item :: p.items }
  | .error cause => .error (.refused cause)

/-- Adds an option that stands in a word together with its value, or without one. -/
def addOption (p : Progress α) (form : OptionForm α) (value : Option String) :
    Except Stop (Progress α) :=
  match form.role, value with
  | .stop cause, none => .error cause
  | .flag item, none => do (← p.note form).add (.ok item)
  | .valued read, some value => do (← p.note form).add (read value)
  | .valued _, none => do return { ← p.note form with pending := some form }
  | _, some value => .error (.refused (.unexpected value))

/-- Adds the value of the pending option. -/
def addValue (p : Progress α) (form : OptionForm α) (value : String) : Except Stop (Progress α) :=
  match form.role with
  | .valued read => { p with pending := none }.add (read value)
  | _ => .error (.refused (.unexpected value))

end Progress

namespace Grammar

variable {α : Type}

/-- Reads the text behind two hyphens. -/
def readLong (g : Grammar α) (p : Progress α) (text : List Char) : Except Stop (Progress α) :=
  let name := String.ofList (text.takeWhile (· ≠ '='))
  match g.options.find? (·.name = name) with
  | none => .error (.refused (.unexpected ("--" ++ name)))
  | some form =>
    match text.dropWhile (· ≠ '=') with
    | _ :: value => p.addOption form (some (String.ofList value))
    | [] => p.addOption form none

/-- Reads the letters behind one hyphen. What follows the letter of an option with a value is the
value, with or without an equals sign in front. -/
def readLetters (g : Grammar α) (p : Progress α) : List Char → Except Stop (Progress α)
  | [] => .ok p
  | c :: r =>
    match g.options.find? (·.letter = some c) with
    | none => .error (.refused (.unexpected (String.ofList ['-', c])))
    | some form =>
      match form.role, r with
      | .valued _, '=' :: value => p.addOption form (some (String.ofList value))
      | .valued _, _ :: _ => p.addOption form (some (String.ofList r))
      | _, _ => do readLetters g (← p.addOption form none) r

/-- Whether a word looks like an option. -/
def isDashed (word : String) : Bool :=
  match word.toList with
  | '-' :: _ :: _ => true
  | _ => false

/-- Reads words none of which is an option. -/
def readArguments (g : Grammar α) (p : Progress α) : List String → Except Stop (Progress α)
  | [] => .ok p
  | word :: rest =>
    match g.argument with
    | none => .error (.refused (.unexpected word))
    | some read => do readArguments g (← p.add (read word)) rest

/-- Reads a part of a line: what its words mean, and the words behind it. -/
def readWords (g : Grammar α) (p : Progress α) :
    List String → Except Stop (List α × List String)
  | [] =>
    match p.pending with
    | some form => .error (.refused (.noValue form.name))
    | none => .ok (p.items.reverse, [])
  | word :: rest =>
    match p.pending with
    | some form =>
      if isDashed word then .error (.refused (.noValue form.name))
      else do readWords g (← p.addValue form word) rest
    | none =>
      if word = "--" then do return ((← readArguments g p rest).items.reverse, [])
      else
        match word.toList with
        | '-' :: '-' :: text => do readWords g (← g.readLong p text) rest
        | '-' :: c :: letters => do readWords g (← g.readLetters p (c :: letters)) rest
        | _ =>
          match g.argument with
          | none => .ok (p.items.reverse, word :: rest)
          | some read => do readWords g (← p.add (read word)) rest

/-- Reads a part of a line: what its words mean, and the words behind it. -/
def read (g : Grammar α) (words : List String) : Except Stop (List α × List String) :=
  g.readWords {} words

end Grammar

end CredentialPolicy.Program
