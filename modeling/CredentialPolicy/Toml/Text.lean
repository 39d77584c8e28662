import CredentialPolicy.Text.Digits

/-!
Reading the four kinds of TOML text.

Basic texts stand between quotes and know escapes; literal texts stand between apostrophes and know
none. Either kind may stand between three delimiters and then span lines: a line break right after
the opening ones is dropped, every other one reads as a line feed, and in a basic text a backslash
at the end of a line drops all blanks up to the next character that is none.
-/

set_option autoImplicit false

namespace CredentialPolicy.Toml

open Text (charOfHex?)

/-- Whether a character is a blank within a line. -/
def isBlank (c : Char) : Bool := c = ' ' || c = '\t'

/-- The text without the blanks at its start. -/
def skipBlanks (s : List Char) : List Char := s.dropWhile isBlank

/-- What follows a line break, if the text starts with one. -/
def afterBreak? : List Char → Option (List Char)
  | '\n' :: r => some r
  | '\r' :: '\n' :: r => some r
  | _ => none

/-- Whether a character may stand for itself, apart from delimiters, backslashes and line breaks:
no control character but the tab. -/
def isPlain (c : Char) : Bool := c = '\t' || (0x20 ≤ c.toNat && c.toNat ≠ 0x7F)

/-- What a character after a backslash stands for. -/
def escaped? : Char → Option Char
  | 'b' => some '\x08'
  | 't' => some '\t'
  | 'n' => some '\n'
  | 'f' => some '\x0c'
  | 'r' => some '\r'
  | '"' => some '"'
  | '\\' => some '\\'
  | _ => none

/-- A character in front of what has been read. -/
def consRead (c : Char) : Option (List Char × List Char) → Option (List Char × List Char)
  | some (text, rest) => some (c :: text, rest)
  | none => none

/-- A basic text on one line up to its closing quote, and what follows it. -/
def readBasic : List Char → Option (List Char × List Char)
  | [] => none
  | '"' :: r => some ([], r)
  | '\\' :: 'u' :: a :: b :: c :: d :: r =>
    match charOfHex? [a, b, c, d] with
    | some x => consRead x (readBasic r)
    | none => none
  | '\\' :: 'U' :: a :: b :: c :: d :: e :: f :: g :: h :: r =>
    match charOfHex? [a, b, c, d, e, f, g, h] with
    | some x => consRead x (readBasic r)
    | none => none
  | '\\' :: c :: r =>
    match escaped? c with
    | some x => consRead x (readBasic r)
    | none => none
  | c :: r => if isPlain c && c ≠ '\\' then consRead c (readBasic r) else none

/-- A literal text on one line up to its closing apostrophe, and what follows it. -/
def readLiteral : List Char → Option (List Char × List Char)
  | [] => none
  | '\'' :: r => some ([], r)
  | c :: r => if isPlain c then consRead c (readLiteral r) else none

/-- Whether a line ends after some blanks. -/
def endsLine (s : List Char) : Bool := (afterBreak? (skipBlanks s)).isSome

/-- A basic text over several lines up to its closing quotes, and what follows them. Up to two
quotes may come right before the closing ones. While `skipping`, blanks and line breaks are dropped.
-/
def readBasicLines (skipping : Bool) (s : List Char) : Option (List Char × List Char) :=
  match s with
  | [] => none
  | '"' :: '"' :: '"' :: '"' :: '"' :: r => some (['"', '"'], r)
  | '"' :: '"' :: '"' :: '"' :: r => some (['"'], r)
  | '"' :: '"' :: '"' :: r => some ([], r)
  | '\r' :: '\n' :: r =>
    if skipping then readBasicLines true r else consRead '\n' (readBasicLines false r)
  | '\n' :: r => if skipping then readBasicLines true r else consRead '\n' (readBasicLines false r)
  | '\\' :: 'u' :: a :: b :: c :: d :: r =>
    match charOfHex? [a, b, c, d] with
    | some x => consRead x (readBasicLines false r)
    | none => none
  | '\\' :: 'U' :: a :: b :: c :: d :: e :: f :: g :: h :: r =>
    match charOfHex? [a, b, c, d, e, f, g, h] with
    | some x => consRead x (readBasicLines false r)
    | none => none
  | '\\' :: c :: r =>
    if endsLine (c :: r) then readBasicLines true (c :: r)
    else
      match escaped? c with
      | some x => consRead x (readBasicLines false r)
      | none => none
  | c :: r =>
    if skipping && isBlank c then readBasicLines true r
    else if isPlain c && c ≠ '\\' then consRead c (readBasicLines false r) else none

/-- A literal text over several lines up to its closing apostrophes, and what follows them. Up to
two apostrophes may come right before the closing ones. -/
def readLiteralLines : List Char → Option (List Char × List Char)
  | [] => none
  | '\'' :: '\'' :: '\'' :: '\'' :: '\'' :: r => some (['\'', '\''], r)
  | '\'' :: '\'' :: '\'' :: '\'' :: r => some (['\''], r)
  | '\'' :: '\'' :: '\'' :: r => some ([], r)
  | '\r' :: '\n' :: r => consRead '\n' (readLiteralLines r)
  | '\n' :: r => consRead '\n' (readLiteralLines r)
  | c :: r => if isPlain c then consRead c (readLiteralLines r) else none

/-- The text without a line break at its start. -/
def dropBreak (s : List Char) : List Char := (afterBreak? s).getD s

/-- A text of any kind, and what follows it. -/
def readText : List Char → Option (List Char × List Char)
  | '"' :: '"' :: '"' :: r => readBasicLines false (dropBreak r)
  | '"' :: r => readBasic r
  | '\'' :: '\'' :: '\'' :: r => readLiteralLines (dropBreak r)
  | '\'' :: r => readLiteral r
  | _ => none

example : readText "\"\"\"a\\\n   b\"\"\"\" c".toList = some ("ab\"".toList, " c".toList) := by
  decide +kernel

end CredentialPolicy.Toml
