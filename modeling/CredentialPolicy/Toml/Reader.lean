import CredentialPolicy.Toml.Scalar
import CredentialPolicy.Toml.Table

/-!
Reading TOML documents.

A document is a sequence of lines: each defines a key, opens the table that the following keys
belong to, or is empty but for blanks and a comment. A byte order mark in front is passed over.
Arrays and inline tables nest at most `maxDepth` deep, and a dotted key has at most as many parts.
-/

set_option autoImplicit false

namespace CredentialPolicy.Toml

open Document (Value)

/-- How deep arrays and inline tables may nest, and how many parts a dotted key may have. -/
def maxDepth : Nat := 79

/-! ## Blanks and comments -/

/-- Whether a character may stand in a comment. -/
def isCommentChar (c : Char) : Bool := isPlain c

/-- What follows blanks and a comment, which may be missing. -/
def skipComment (s : List Char) : List Char :=
  match skipBlanks s with
  | '#' :: r => r.dropWhile isCommentChar
  | r => r

/-- What follows the rest of a line that holds nothing but blanks and a comment; the last line may
end with the text. -/
def afterLine? (s : List Char) : Option (List Char) :=
  match skipComment s with
  | [] => some []
  | r => afterBreak? r

/-- What follows blanks, line breaks and comments. -/
def skipLines (s : List Char) : List Char :=
  match skipComment s with
  | '\n' :: r | '\r' :: '\n' :: r => if r.length < s.length then skipLines r else r
  | _ => skipBlanks s
  termination_by s.length

/-! ## Keys -/

/-- Whether a character may stand in a key without quotes. -/
def isBareChar (c : Char) : Bool :=
  'a' ≤ c && c ≤ 'z' || 'A' ≤ c && c ≤ 'Z' || '0' ≤ c && c ≤ '9' || c = '_' || c = '-'

/-- One part of a key, and what follows it. -/
def readKeyPart : List Char → Option (String × List Char)
  | '"' :: r => (readBasic r).map fun (text, rest) => (String.ofList text, rest)
  | '\x27' :: r => (readLiteral r).map fun (text, rest) => (String.ofList text, rest)
  | s =>
    let (text, rest) := s.span isBareChar
    if text.isEmpty then none else some (String.ofList text, rest)

/-- A dotted key of at most some number of parts, as the parts but the last and the last one, and
what follows it and the blanks after it. -/
def readKey : Nat → List Char → Option ((List String × String) × List Char)
  | 0, _ => none
  | parts + 1, s => do
    let (part, rest) ← readKeyPart (skipBlanks s)
    match skipBlanks rest with
    | '.' :: r => do
      let ((path, last), rest) ← readKey parts r
      return ((part :: path, last), rest)
    | rest => return (([], part), rest)

/-! ## Values -/

/-- The items of an array up to its closing bracket, each read by `item`. There may be a comma after
the last one. -/
def readItems (item : List Char → Option (Value × List Char)) (s : List Char) :
    Option (List Value × List Char) :=
  match skipLines s with
  | ']' :: r => some ([], r)
  | start => do
    let (v, rest) ← item start
    match skipLines rest with
    | ']' :: r => return ([v], r)
    | ',' :: r =>
      if r.length < s.length then do
        let (vs, rest) ← readItems item r
        return (v :: vs, rest)
      else none
    | _ => none
  termination_by s.length

/-- The pairs of an inline table up to its closing brace, each value read by `item`, added to the
pairs before them. -/
def readPairs (item : List Char → Option (Value × List Char)) (before : Items) (s : List Char) :
    Option (Items × List Char) := do
  let ((path, key), rest) ← readKey maxDepth s
  match rest with
  | '=' :: r => do
    let (v, rest) ← item (skipBlanks r)
    let items ← before.addValue path key v .defined
    match skipBlanks rest with
    | '}' :: r => return (items, r)
    | ',' :: r => if r.length < s.length then readPairs item items r else none
    | _ => none
  | _ => none
  termination_by s.length

/-- A value in which arrays and inline tables nest at most some number deep, and what follows it. -/
def readValue : Nat → List Char → Option (Value × List Char)
  | 0, '[' :: _ => none
  | 0, '{' :: _ => none
  | depth + 1, '[' :: r => (readItems (readValue depth) r).map fun (vs, rest) => (.list vs, rest)
  | depth + 1, '{' :: r =>
    match skipBlanks r with
    | '}' :: rest => some (.record [], rest)
    | start =>
      (readPairs (readValue depth) [] start).map fun (items, rest) =>
        (.record (fieldsOf items), rest)
  | _, s => readScalar s

/-! ## Documents -/

/-- The document so far, and the path of the header whose table is open. -/
structure Draft where
  /-- The items of the document. -/
  items : Items := []
  /-- The path of the open table. -/
  header : List String := []

/-- Reads a header up to its closing brackets, and what follows the line. -/
def readHeader (closing : List Char) (s : List Char) :
    Option ((List String × String) × List Char) := do
  let (key, rest) ← readKey maxDepth s
  if closing.isPrefixOf rest then return (key, ← afterLine? (rest.drop closing.length)) else none

/-- Reads the line of a key and its value, and gives what follows the line. -/
def Draft.readPair (d : Draft) (s : List Char) : Option (Draft × List Char) := do
  let ((path, key), rest) ← readKey maxDepth s
  match rest with
  | '=' :: r => do
    let (v, rest) ← readValue maxDepth (skipBlanks r)
    let items ← d.items.addValueAt d.header path key v
    return ({ d with items }, ← afterLine? rest)
  | _ => none

/-- Reads one line, and gives what follows it. -/
def Draft.readLine (d : Draft) (s : List Char) : Option (Draft × List Char) :=
  match skipBlanks s with
  | '[' :: '[' :: r => do
    let ((path, key), rest) ← readHeader [']', ']'] r
    return ({ items := ← d.items.appendTable path key, header := path ++ [key] }, rest)
  | '[' :: r => do
    let ((path, key), rest) ← readHeader [']'] r
    return ({ items := ← d.items.defineTable path key, header := path ++ [key] }, rest)
  | [] => some (d, [])
  | '#' :: _ | '\n' :: _ | '\r' :: _ => (afterLine? s).map fun rest => (d, rest)
  | start => d.readPair start

/-- Reads all lines. -/
def Draft.readAll (d : Draft) (s : List Char) : Option Draft :=
  match s with
  | [] => some d
  | c :: r =>
    match d.readLine (c :: r) with
    | some (next, rest) => if rest.length ≤ r.length then next.readAll rest else none
    | none => none
  termination_by s.length
  decreasing_by simp only [List.length_cons]; omega

/-- The text without a byte order mark in front. -/
def dropMark : List Char → List Char
  | '\ufeff' :: r => r
  | s => s

/-- The record that a document describes. -/
def read? (text : String) : Option Value :=
  (({} : Draft).readAll (dropMark text.toList)).map fun d => .record (fieldsOf d.items)

end CredentialPolicy.Toml
