import CredentialPolicy.Document.Value
import CredentialPolicy.Text.Digits

/-!
Writing JSON text, on one line or spread over indented lines.

Quotes, backslashes and control characters are escaped, the short escapes first; every other
character stands for itself.
-/

set_option autoImplicit false

namespace CredentialPolicy.Json

open Document (Value)

/-- A character as it stands between quotes. -/
def escapeChar (c : Char) : List Char :=
  match c with
  | '"' => ['\\', '"']
  | '\\' => ['\\', '\\']
  | '\x08' => ['\\', 'b']
  | '\x0c' => ['\\', 'f']
  | '\n' => ['\\', 'n']
  | '\r' => ['\\', 'r']
  | '\t' => ['\\', 't']
  | c => if c.toNat < 0x20 then '\\' :: 'u' :: Text.hexOfWidth 4 c.toNat else [c]

/-- A text between quotes. -/
def quote (s : String) : List Char := '"' :: s.toList.flatMap escapeChar ++ ['"']

/-- A value that is neither a list nor a record. -/
def scalarText : Value → List Char
  | .bool true => "true".toList
  | .bool false => "false".toList
  | .int i => (toString i).toList
  | .real mantissa exponent => (toString mantissa).toList ++ 'e' :: (toString exponent).toList
  | .text s => quote s
  | _ => "null".toList

mutual

/-- A value without any blanks. -/
def compact : Value → List Char
  | .list items => '[' :: compactItems items ++ [']']
  | .record fields => '{' :: compactFields fields ++ ['}']
  | v => scalarText v

/-- Items with commas between them. -/
def compactItems : List Value → List Char
  | [] => []
  | [v] => compact v
  | v :: r => compact v ++ ',' :: compactItems r

/-- Fields with commas between them. -/
def compactFields : List (String × Value) → List Char
  | [] => []
  | [(k, v)] => quote k ++ ':' :: compact v
  | (k, v) :: r => quote k ++ ':' :: compact v ++ ',' :: compactFields r

end

/-- A new line with two blanks for each list or record that is open. -/
def newline (depth : Nat) : List Char := '\n' :: List.replicate (2 * depth) ' '

mutual

/-- A value with every item and field on a line of its own, inside `depth` open lists or records. -/
def indented (depth : Nat) : Value → List Char
  | .list [] => ['[', ']']
  | .list items => '[' :: indentedItems (depth + 1) items ++ newline depth ++ [']']
  | .record [] => ['{', '}']
  | .record fields => '{' :: indentedFields (depth + 1) fields ++ newline depth ++ ['}']
  | v => scalarText v

/-- Items, each after a line break. -/
def indentedItems (depth : Nat) : List Value → List Char
  | [] => []
  | [v] => newline depth ++ indented depth v
  | v :: r => newline depth ++ indented depth v ++ ',' :: indentedItems depth r

/-- Fields, each after a line break. -/
def indentedFields (depth : Nat) : List (String × Value) → List Char
  | [] => []
  | [(k, v)] => newline depth ++ quote k ++ ':' :: ' ' :: indented depth v
  | (k, v) :: r =>
    newline depth ++ quote k ++ ':' :: ' ' :: indented depth v ++ ',' :: indentedFields depth r

end

/-- The value on one line. -/
def write (v : Value) : String := String.ofList (compact v)

/-- The value over several lines. -/
def writeLines (v : Value) : String := String.ofList (indented 0 v)

end CredentialPolicy.Json
