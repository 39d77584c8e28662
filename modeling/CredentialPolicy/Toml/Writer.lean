import CredentialPolicy.Document.Value
import CredentialPolicy.Text.Digits

/-!
Writing TOML documents.

A text is written in the first form that needs no escapes: between quotes, between apostrophes, or
over several lines between three of these. If there is none, quotes with escapes are used. In a text
over several lines at most two quotes stand next to each other unescaped.
-/

set_option autoImplicit false

namespace CredentialPolicy.Toml

open Document (Value)

/-! ## Texts -/

/-- Whether a character is a control character other than the tab and the line feed. -/
def needsEscape (c : Char) : Bool :=
  (c.toNat < 0x20 || c.toNat = 0x7F) && c ≠ '\t' && c ≠ '\n'

/-- The length of the longest run of a character, if `run` of them come before the text. -/
def longestRunOf (c : Char) (run : Nat) : List Char → Nat
  | [] => run
  | d :: r => if d = c then longestRunOf c (run + 1) r else max run (longestRunOf c 0 r)

/-- How a text is written. -/
inductive TextForm where
  /-- Between quotes. -/
  | basic
  /-- Between apostrophes. -/
  | literal
  /-- Between three quotes. -/
  | basicLines
  /-- Between three apostrophes. -/
  | literalLines
  deriving DecidableEq, Repr

/-- The form in which a text is written. -/
def TextForm.ofText (s : List Char) : TextForm :=
  let control := s.any needsEscape
  let backslash := s.contains '\\'
  let newline := s.contains '\n'
  let quotes := longestRunOf '"' 0 s
  let apostrophes := longestRunOf '\x27' 0 s
  if ! control && ! backslash && quotes = 0 && ! newline then .basic
  else if ! control && apostrophes = 0 && ! newline then .literal
  else if ! control && ! backslash && quotes ≤ 2 then .basicLines
  else if ! control && apostrophes ≤ 2 then .literalLines
  else if newline then .basicLines
  else .basic

/-- The letter that stands for a character after a backslash. -/
def shortEscape? : Char → Option Char
  | '\x08' => some 'b'
  | '\t' => some 't'
  | '\x0c' => some 'f'
  | '\r' => some 'r'
  | '\\' => some '\\'
  | _ => none

/-- A text with its escapes, after some quotes in a row of which `allowed` may stand unescaped; a
line feed is escaped unless the text is written over several lines. -/
def escaped (lines : Bool) (allowed quotes : Nat) : List Char → List Char
  | [] => []
  | c :: r =>
    if c = '"' then
      if quotes < allowed then '"' :: escaped lines allowed (quotes + 1) r
      else '\\' :: '"' :: escaped lines allowed 0 r
    else if c = '\n' then
      if lines then '\n' :: escaped lines allowed 0 r else '\\' :: 'n' :: escaped lines allowed 0 r
    else
      match shortEscape? c with
      | some letter => '\\' :: letter :: escaped lines allowed 0 r
      | none =>
        if needsEscape c then
          '\\' :: 'u' :: Text.upperHex (Text.hexOfWidth 4 c.toNat) ++ escaped lines allowed 0 r
        else c :: escaped lines allowed 0 r

/-- What follows the opening delimiters of a text over several lines: a line break, if the text has
one of its own. -/
def openLines (s : List Char) : List Char := if s.contains '\n' then ['\n'] else []

/-- A text between delimiters. -/
def writeText (s : List Char) : List Char :=
  match TextForm.ofText s with
  | .basic => '"' :: escaped false 0 0 s ++ ['"']
  | .literal => '\x27' :: s ++ ['\x27']
  | .basicLines => ['"', '"', '"'] ++ openLines s ++ escaped true 2 0 s ++ ['"', '"', '"']
  | .literalLines => ['\x27', '\x27', '\x27'] ++ openLines s ++ s ++ ['\x27', '\x27', '\x27']

/-! ## Documents -/

/-- A value that is neither a list nor a record. -/
def writeScalar : Value → List Char
  | .bool true => "true".toList
  | .bool false => "false".toList
  | .int i => (toString i).toList
  | .text s => writeText s.toList
  | _ => []

/-- The line of a key, which consists of letters and underscores, and its value. -/
def writeLine (key : String) (v : Value) : List Char :=
  key.toList ++ [' ', '=', ' '] ++ writeScalar v ++ ['\n']

/-- The lines of all fields that are no records. -/
def writeLines (fields : List (String × Value)) : List Char :=
  fields.flatMap fun
    | (_, .record _) => []
    | (key, v) => writeLine key v

/-- A table: its header and its lines. -/
def writeTable (key : String) (fields : List (String × Value)) : List Char :=
  '[' :: key.toList ++ [']', '\n'] ++ writeLines fields

/-- The tables of all fields that are records. -/
def tables (fields : List (String × Value)) : List (List Char) :=
  fields.filterMap fun
    | (key, .record inner) => some (writeTable key inner)
    | _ => none

/-- A record whose fields are scalars, or records of scalars, as a document: first the lines of the
former, then the tables of the latter, with an empty line before each that does not come first. -/
def write (fields : List (String × Value)) : String :=
  let lines := writeLines fields
  let blocks := if lines.isEmpty then tables fields else lines :: tables fields
  String.ofList (['\n'].intercalate blocks)

end CredentialPolicy.Toml
