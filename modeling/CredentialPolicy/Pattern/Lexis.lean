import CredentialPolicy.Pattern.Node
import CredentialPolicy.Text.Digits
import CredentialPolicy.Text.Search
import CredentialPolicy.Unicode.Blank

/-!
The smallest parts of a pattern: skipped text, counts and escapes.

Where the switch `extended` is on, blanks are skipped, and so are comments, which start with `#` and
end with the line. Each reader gives what follows the part that it reads.
-/

set_option autoImplicit false

namespace CredentialPolicy.Pattern

open Text (charOfHex? cutAt? isDecimal isHex ofDigits)
open Unicode (isBlank)

/-! ## Skipped text -/

/-- What follows blanks and comments; `comment` says whether a comment is open. -/
def skipFrom (comment : Bool) : List Char → List Char
  | [] => []
  | c :: r =>
    if comment then skipFrom (c ≠ '\n') r
    else if isBlank c then skipFrom false r
    else if c = '#' then skipFrom true r
    else c :: r

/-- What follows text that is skipped. -/
def skip (extended : Bool) (s : List Char) : List Char := if extended then skipFrom false s else s

theorem length_skipFrom_le (comment : Bool) (s : List Char) :
    (skipFrom comment s).length ≤ s.length := by
  induction s generalizing comment with
  | nil => simp [skipFrom]
  | cons c r ih =>
    have := ih true
    have := ih false
    have := ih (c ≠ '\n')
    simp only [skipFrom, List.length_cons]
    grind

theorem length_skip_le (extended : Bool) (s : List Char) : (skip extended s).length ≤ s.length := by
  cases extended
  · exact Nat.le_refl _
  · exact length_skipFrom_le false s

/-! ## Counts -/

/-- Decimal digits, with skipped text after each, and what follows them. -/
def takeDigits (extended : Bool) (s : List Char) : List Char × List Char :=
  match s with
  | c :: r =>
    if isDecimal c then
      let (digits, rest) := takeDigits extended (skip extended r)
      (c :: digits, rest)
    else ([], c :: r)
  | [] => ([], [])
  termination_by s.length
  decreasing_by
    have := length_skip_le extended r
    simp only [List.length_cons]
    omega

/-- A number below 2³², with blanks around it, if there is one, and what follows. -/
def readCount (extended : Bool) (s : List Char) : Option Nat × List Char :=
  let (digits, rest) := takeDigits extended (s.dropWhile isBlank)
  let rest := skip extended (rest.dropWhile isBlank)
  let n := ofDigits 10 digits
  (if digits ≠ [] ∧ n < 0x100000000 then some n else none, rest)

/-- Whether a repetition is greedy, which a question mark right after it denies. -/
def readGreedy : List Char → Bool × List Char
  | '?' :: r => (false, r)
  | s => (true, s)

/-- The bounds of a repetition up to the closing brace. -/
def readBounds (extended : Bool) (s : List Char) :
    Option ((Nat × Option Nat) × List Char) := do
  let (first?, rest) := readCount extended s
  let first ← first?
  match rest with
  | '}' :: r => return ((first, some first), r)
  | ',' :: r =>
    match skip extended r with
    | '}' :: r => return ((first, none), r)
    | s => do
      let (last?, rest) := readCount extended s
      let last ← last?
      match rest with
      | '}' :: r => if first ≤ last then return ((first, some last), r) else none
      | _ => none
  | _ => none

/-! ## Escapes -/

/-- Some number of hexadecimal digits, with skipped text after each. -/
def takeHex (extended : Bool) : Nat → List Char → Option (List Char × List Char)
  | 0, s => some ([], s)
  | n + 1, c :: r => do
    if isHex c then
      let (digits, rest) ← takeHex extended n (skip extended r)
      return (c :: digits, rest)
    else none
  | _ + 1, [] => none

/-- All characters up to a closing brace, less the skipped text. -/
def takeBraced (extended : Bool) (s : List Char) : Option (List Char × List Char) :=
  match s with
  | [] => none
  | c :: r =>
    if c = '}' then some ([], r)
    else
      match takeBraced extended (skip extended r) with
      | some (chars, rest) => some (c :: chars, rest)
      | none => none
  termination_by s.length
  decreasing_by
    have := length_skip_le extended r
    simp only [List.length_cons]
    omega

/-- A character given by its code: some number of digits, or any number of them between braces. -/
def readCode (extended : Bool) (width : Nat) (s : List Char) : Option (Literal × List Char) :=
  match skip extended s with
  | '{' :: r => do
    let (digits, rest) ← takeBraced extended (skip extended r)
    if digits.isEmpty then none
    let c ← charOfHex? digits
    return ({ char := c }, skip extended rest)
  | s => do
    let (digits, rest) ← takeHex extended width s
    let c ← charOfHex? digits
    return ({ char := c, byte := width = 2 }, rest)

/-- The class that a text between braces names; of several marks the negated one counts first. -/
def namedClass (negated : Bool) (text : List Char) : NamedClass :=
  match cutAt? ['!', '='] text with
  | some (name, value) => ⟨! negated, name, some value⟩
  | none =>
    match cutAt? [':'] text <|> cutAt? ['='] text with
    | some (name, value) => ⟨negated, name, some value⟩
    | none => ⟨negated, text, none⟩

/-- The name of a class: one character, or a text between braces. -/
def readNamedClass (extended negated : Bool) (s : List Char) : Option (NamedClass × List Char) :=
  match skip extended s with
  | [] => none
  | '{' :: r =>
    match takeBraced extended (skip extended r) with
    | some (text, rest) => some (namedClass negated text, rest)
    | none => none
  | c :: r => if c = '\\' then none else some (⟨negated, [c], none⟩, skip extended r)

/-- Whether a character may stand in the name of a word boundary. -/
def isBoundaryChar (c : Char) : Bool := 'a' ≤ c && c ≤ 'z' || 'A' ≤ c && c ≤ 'Z' || c = '-'

/-- The name of a word boundary, with skipped text after each character. -/
def takeBoundaryName (extended : Bool) (s : List Char) : List Char × List Char :=
  match s with
  | c :: r =>
    if isBoundaryChar c then
      let (name, rest) := takeBoundaryName extended (skip extended r)
      (c :: name, rest)
    else ([], c :: r)
  | [] => ([], [])
  termination_by s.length
  decreasing_by
    have := length_skip_le extended r
    simp only [List.length_cons]
    omega

/-- The word boundary with a given name. -/
def boundaryOfName? (name : List Char) : Option Place :=
  match String.ofList name with
  | "start" => some .wordStart
  | "end" => some .wordEnd
  | "start-half" => some .wordStartHalf
  | "end-half" => some .wordEndHalf
  | _ => none

/-- A word boundary, which may have a name between braces. Braces that start otherwise than a name
does are left for a repetition. -/
def readBoundary (extended : Bool) (s : List Char) : Option (Place × List Char) :=
  match s with
  | '{' :: r =>
    match skip extended r with
    | [] => none
    | c :: t =>
      if isBoundaryChar c then
        match takeBoundaryName extended (c :: t) with
        | (name, '}' :: rest) => (boundaryOfName? name).map fun p => (p, rest)
        | _ => none
      else some (.wordBoundary, s)
  | _ => some (.wordBoundary, s)

/-- Whether a character may stand for itself after a backslash: any ASCII character but letters,
digits and the two angle brackets. -/
def isEscapable (c : Char) : Bool :=
  c.toNat < 0x80 && ! c.isAlphanum && c ≠ '<' && c ≠ '>'

/-- What a letter after a backslash stands for, if that is a character. -/
def escapedChar? : Char → Option Char
  | 'a' => some '\x07'
  | 'f' => some '\x0c'
  | 'n' => some '\n'
  | 'r' => some '\r'
  | 't' => some '\t'
  | 'v' => some '\x0b'
  | _ => none

/-- What follows a backslash. -/
def readEscape (extended : Bool) : List Char → Option (Node × List Char)
  | [] => none
  | 'x' :: r => (readCode extended 2 r).map fun (l, rest) => (.literal l, rest)
  | 'u' :: r => (readCode extended 4 r).map fun (l, rest) => (.literal l, rest)
  | 'U' :: r => (readCode extended 8 r).map fun (l, rest) => (.literal l, rest)
  | 'p' :: r => (readNamedClass extended false r).map fun (c, rest) => (.named c, rest)
  | 'P' :: r => (readNamedClass extended true r).map fun (c, rest) => (.named c, rest)
  | 'd' :: r => some (.short .digit false, r)
  | 'D' :: r => some (.short .digit true, r)
  | 's' :: r => some (.short .blank false, r)
  | 'S' :: r => some (.short .blank true, r)
  | 'w' :: r => some (.short .word false, r)
  | 'W' :: r => some (.short .word true, r)
  | 'A' :: r => some (.place .textStart, r)
  | 'z' :: r => some (.place .textEnd, r)
  | 'b' :: r => (readBoundary extended r).map fun (p, rest) => (.place p, rest)
  | 'B' :: r => some (.place .notWordBoundary, r)
  | '<' :: r => some (.place .wordStart, r)
  | '>' :: r => some (.place .wordEnd, r)
  | c :: r =>
    if isEscapable c then some (.literal { char := c }, r)
    else (escapedChar? c).map fun x => (.literal { char := x }, r)

example : (readBounds false " 2 , 3 \x7dx".toList) = some ((2, some 3), ['x']) := by decide +kernel

end CredentialPolicy.Pattern
