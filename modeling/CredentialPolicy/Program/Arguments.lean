import CredentialPolicy.Program.Grammar
import CredentialPolicy.Settings.Program
import CredentialPolicy.Text.Search
import CredentialPolicy.Unicode.Blank

/-!
The command line of the program.

Options for the program as a whole stand before the command, those of a command behind it.
-/

set_option autoImplicit false

namespace CredentialPolicy.Program

/-! ## What is asked for -/

/-- A command on the settings of the program. -/
inductive SettingsCommand where
  /-- Prints the settings. -/
  | print
  /-- Changes one setting. -/
  | set (key value : String)
  /-- Writes a file with the settings. -/
  | create (overwrite : Bool)
  deriving DecidableEq, Repr, Inhabited

/-- A command of the program. -/
inductive Command where
  /-- Draws passwords for the password policies in some files. -/
  | generate (files : List String) (count : UInt32)
  /-- Prints what the password rules in some files amount to. -/
  | merge (files : List String)
  /-- Checks a user against the account policies in some files. -/
  | checkAccount (files : List String) (username : String) (attributes : List (String × String))
  /-- Prints or changes settings. -/
  | settings (command : SettingsCommand)
  deriving DecidableEq, Repr, Inhabited

/-- The files that a command reads, apart from those with settings. -/
def Command.files : Command → List String
  | generate files _ | merge files | checkAccount files _ _ => files
  | settings _ => []

/-- A use of the program. -/
structure Invocation where
  /-- A file with settings of the engine. -/
  engineFile : Option String := none
  /-- The format of what is written, in place of that of the settings. -/
  outputFormat : Option OutputFormat := none
  /-- Whether everything is logged. -/
  verbose : Bool := false
  /-- The command. -/
  command : Command
  deriving DecidableEq, Repr, Inhabited

/-- What a command line asks for. -/
inductive Request where
  /-- To run a command. -/
  | run (invocation : Invocation)
  /-- To print the version, under the name of the program and the commands before. -/
  | version (names : List String)
  /-- To print help. -/
  | help
  /-- Nothing: the line is refused. -/
  | refuse (cause : UsageError)
  deriving DecidableEq, Repr, Inhabited

/-- The files that have to be read, apart from the one with the settings of the program. -/
def Request.files : Request → List String
  | run invocation => invocation.engineFile.toList ++ invocation.command.files
  | version _ | help | refuse _ => []

/-! ## Words -/

/-- The variable that names a file with settings of the engine. -/
def engineFileVariable : String := "IDM_CONFIG"

/-- A path, which must not be empty. -/
def readPath (word : String) : Except UsageError String :=
  if word = "" then .error (.invalidValue word) else .ok word

/-- A number of passwords: digits with a sign in front or without one. -/
def readCount (word : String) : Except UsageError UInt32 :=
  let count? : Option UInt32 :=
    match word.toList with
    | '-' :: digits => (Text.natOfDigits? 10 digits).bind fun n => if n = 0 then some 0 else none
    | text => Text.uint32OfText? text
  match count? with
  | some n => .ok n
  | none => .error (.invalidValue word)

/-- A format of what is written. -/
def readFormat (word : String) : Except UsageError OutputFormat :=
  match OutputFormat.ofName? word with
  | some format => .ok format
  | none => .error (.invalidValue word)

/-- An attribute: what comes before the first equals sign, without blanks around it, names the
schema, and all behind it is the value. -/
def readAttribute (word : String) : Except UsageError (String × String) :=
  match Text.cutAt? ['='] word.toList with
  | some (schema, value) =>
    let schema := Unicode.trim schema
    if schema.isEmpty then .error (.invalidAttribute word)
    else .ok (String.ofList schema, String.ofList value)
  | none => .error (.invalidAttribute word)

/-- What a word or an option with its value means. -/
inductive Item where
  | engineFile (path : String)
  | outputFormat (format : OutputFormat)
  | verbose
  | file (path : String)
  | count (n : UInt32)
  | username (name : String)
  | attribute (schema value : String)
  | overwrite
  | word (text : String)
  deriving DecidableEq, Repr, Inhabited

namespace Item

/-- The path, if the item is that of a file with settings. -/
def engineFile? : Item → Option String
  | engineFile path => some path
  | _ => none

/-- The format, if the item is one. -/
def outputFormat? : Item → Option OutputFormat
  | outputFormat format => some format
  | _ => none

/-- The path, if the item is that of a policy. -/
def file? : Item → Option String
  | file path => some path
  | _ => none

/-- The count, if the item is one. -/
def count? : Item → Option UInt32
  | count n => some n
  | _ => none

/-- The name, if the item is one. -/
def username? : Item → Option String
  | username name => some name
  | _ => none

/-- The attribute, if the item is one. -/
def attribute? : Item → Option (String × String)
  | .attribute schema value => some (schema, value)
  | _ => none

/-- The text, if the item is a plain word. -/
def word? : Item → Option String
  | word text => some text
  | _ => none

end Item

/-! ## Grammars -/

/-- The options that may stand on every part of a line. -/
def commonOptions : List (OptionForm Item) :=
  [{ name := "help", letter := some 'h', role := .stop .help },
    { name := "version", letter := some 'V', role := .stop .version }]

/-- The part before the command. -/
def programGrammar : Grammar Item where
  options :=
    [{ name := "config", letter := some 'c',
        role := .valued fun w => (readPath w).map .engineFile },
      { name := "output", letter := some 'o',
        role := .valued fun w => (readFormat w).map .outputFormat },
      { name := "verbose", letter := some 'v', role := .flag .verbose }] ++ commonOptions

/-- The part behind `generate`. -/
def generateGrammar : Grammar Item where
  options :=
    { name := "count", letter := some 'n', role := .valued fun w => (readCount w).map .count } ::
      commonOptions
  argument := some fun w => (readPath w).map .file

/-- The part behind `merge`. -/
def mergeGrammar : Grammar Item where
  options := commonOptions
  argument := some fun w => (readPath w).map .file

/-- The part behind `check-account`. -/
def checkAccountGrammar : Grammar Item where
  options :=
    [{ name := "username", letter := some 'u', role := .valued fun w => .ok (.username w) },
      { name := "attr", repeatable := true,
        role := .valued fun w => (readAttribute w).map fun a => .attribute a.1 a.2 }] ++
    commonOptions
  argument := some fun w => (readPath w).map .file

/-- The part behind `config`, and the one behind `config show`. -/
def settingsGrammar : Grammar Item where
  options := commonOptions

/-- The part behind `config set`. -/
def setGrammar : Grammar Item where
  options := commonOptions
  argument := some fun w => .ok (.word w)

/-- The part behind `config init`. -/
def createGrammar : Grammar Item where
  options := { name := "force", role := .flag .overwrite } :: commonOptions

/-! ## Commands -/

/-- The name of the program. -/
def programName : String := "idm-policy"

/-- The version of the program. -/
def programVersion : String := "0.1.0"

/-- What comes of a part of a line that must be the last one. -/
def lastPart (names : List String) (g : Grammar Item) (words : List String)
    (read : List Item → Except UsageError Command) : Except Request Command :=
  match g.read words with
  | .error (.refused cause) => .error (.refuse cause)
  | .error .version => .error (.version names)
  | .error .help => .error .help
  | .ok (_, word :: _) => .error (.refuse (.unexpected word))
  | .ok (items, []) =>
    match read items with
    | .ok command => .ok command
    | .error cause => .error (.refuse cause)

/-- What comes of a part of a line behind which a command has to follow. -/
def firstPart (names : List String) (g : Grammar Item) (words : List String) :
    Except Request (List Item × String × List String) :=
  match g.read words with
  | .error (.refused cause) => .error (.refuse cause)
  | .error .version => .error (.version names)
  | .error .help => .error .help
  | .ok (_, []) => .error (.refuse .noCommand)
  | .ok (items, name :: rest) => .ok (items, name, rest)

/-- The command on settings that some words give. -/
def readSettingsCommand (words : List String) : Except Request Command := do
  let here := [programName, "config"]
  let (_, name, rest) ← firstPart here settingsGrammar words
  match name with
  | "show" => lastPart (here ++ [name]) settingsGrammar rest fun _ => .ok (.settings .print)
  | "set" =>
    lastPart (here ++ [name]) setGrammar rest fun items =>
      match items.filterMap Item.word? with
      | [key, value] => .ok (.settings (.set key value))
      | _ :: _ :: extra :: _ => .error (.unexpected extra)
      | _ => .error (.required "KEY VALUE")
  | "init" =>
    lastPart (here ++ [name]) createGrammar rest fun items =>
      .ok (.settings (.create (items.contains .overwrite)))
  | "help" => throw .help
  | _ => throw (.refuse (.unexpected name))

/-- The command with a name and the words behind it. -/
def readCommand (name : String) (words : List String) : Except Request Command :=
  let here := [programName, name]
  match name with
  | "generate" =>
    lastPart here generateGrammar words fun items =>
      .ok (.generate (items.filterMap Item.file?) ((items.findSome? Item.count?).getD 1))
  | "merge" =>
    lastPart here mergeGrammar words fun items => .ok (.merge (items.filterMap Item.file?))
  | "check-account" =>
    lastPart here checkAccountGrammar words fun items =>
      match items.filterMap Item.file?, items.findSome? Item.username? with
      | [], _ => .error (.required "POLICIES")
      | _, none => .error (.required "--username")
      | files, some username =>
        .ok (.checkAccount files username (items.filterMap Item.attribute?))
  | "config" => readSettingsCommand words
  | "help" => .error .help
  | _ => .error (.refuse (.unexpected name))

/-- The file with settings of the engine: the one of the command line or else of the environment. -/
def engineFileOf (items : List Item) (env : Environment) : Except UsageError (Option String) :=
  match items.findSome? Item.engineFile?, env engineFileVariable with
  | some path, _ => .ok (some path)
  | none, some path => (readPath path).map some
  | none, none => .ok none

/-- What a command line asks for, read in some environment. -/
def requestOf (env : Environment) (words : List String) : Request :=
  let request : Except Request Request := do
    let (items, name, rest) ← firstPart [programName] programGrammar words
    let command ← readCommand name rest
    match engineFileOf items env with
    | .error cause => throw (.refuse cause)
    | .ok engineFile =>
      let outputFormat := items.findSome? Item.outputFormat?
      return .run { engineFile, outputFormat, verbose := items.contains .verbose, command }
  match request with
  | .ok r => r
  | .error r => r

end CredentialPolicy.Program
