import CredentialPolicy.Document.Value
import CredentialPolicy.Text.Digits
import CredentialPolicy.Text.Double

/-!
The tokens of JSON text.

Blanks separate tokens and are dropped. A number that is too large for a double, or a text with half
of a surrogate pair in it, is well formed but stands for nothing: it is kept as unreadable.
-/

set_option autoImplicit false

namespace CredentialPolicy.Json

open Document (Value)
open Text (isDecimal isHex ofDigits)

/-- A token. -/
inductive Token where
  /-- A left bracket. -/
  | openList
  /-- A right bracket. -/
  | closeList
  /-- A left brace. -/
  | openRecord
  /-- A right brace. -/
  | closeRecord
  /-- A comma. -/
  | comma
  /-- A colon. -/
  | colon
  /-- A quoted text, unless it holds half of a surrogate pair. -/
  | text (value : Option String)
  /-- A number or a word that stands for a value. -/
  | scalar (value : Value)

/-- Whether a character separates tokens. -/
def isBlank (c : Char) : Bool := c = ' ' || c = '\n' || c = '\r' || c = '\t'

/-! ## Texts -/

/-- What a character after a backslash stands for. -/
def escaped? : Char → Option Char
  | '"' => some '"'
  | '\\' => some '\\'
  | '/' => some '/'
  | 'b' => some '\x08'
  | 'f' => some '\x0c'
  | 'n' => some '\n'
  | 'r' => some '\r'
  | 't' => some '\t'
  | _ => none

/-- The code units of a text up to its closing quote, and what follows the quote. Characters stand
for themselves; an escape by number may be half of a surrogate pair. -/
def readUnits : List Char → Option (List Nat × List Char)
  | [] => none
  | '"' :: r => some ([], r)
  | '\\' :: 'u' :: a :: b :: c :: d :: r =>
    if [a, b, c, d].all isHex then
      (readUnits r).map fun (units, rest) => (ofDigits 16 [a, b, c, d] :: units, rest)
    else none
  | '\\' :: c :: r =>
    match escaped? c with
    | some e => (readUnits r).map fun (units, rest) => (e.toNat :: units, rest)
    | none => none
  | c :: r =>
    if c.toNat < 0x20 ∨ c = '\\' then none
    else (readUnits r).map fun (units, rest) => (c.toNat :: units, rest)

/-- Whether a code unit is the first half of a surrogate pair. -/
def isHighSurrogate (u : Nat) : Bool := 0xD800 ≤ u && u < 0xDC00

/-- Whether a code unit is the second half of a surrogate pair. -/
def isLowSurrogate (u : Nat) : Bool := 0xDC00 ≤ u && u < 0xE000

/-- The characters that code units stand for, with surrogate pairs joined; none if a half is alone.
-/
def decodeUnits : List Nat → Option (List Char)
  | [] => some []
  | u :: r =>
    if isHighSurrogate u then
      match r with
      | v :: r' =>
        if isLowSurrogate v then
          (decodeUnits r').map (Char.ofNat (0x10000 + (u - 0xD800) * 0x400 + (v - 0xDC00)) :: ·)
        else none
      | [] => none
    else if isLowSurrogate u then none
    else (decodeUnits r).map (Char.ofNat u :: ·)

/-- The text up to its closing quote, and what follows the quote. -/
def readText (s : List Char) : Option (Option String × List Char) :=
  (readUnits s).map fun (units, rest) => ((decodeUnits units).map String.ofList, rest)

/-! ## Numbers -/

/-- The digits at the start of a text, if there are any, and what follows them. -/
def readDigits (s : List Char) : Option (List Char × List Char) :=
  let (digits, rest) := s.span isDecimal
  if digits.isEmpty then none else some (digits, rest)

/-- The whole part: a zero alone, or digits of which the first is not zero. -/
def readWhole : List Char → Option (List Char × List Char)
  | '0' :: r => some (['0'], r)
  | s => readDigits s

/-- The fraction, if a point follows. -/
def readFraction : List Char → Option (Option (List Char) × List Char)
  | '.' :: r => (readDigits r).map fun (digits, rest) => (some digits, rest)
  | s => some (none, s)

/-- The digits of an exponent after its sign. -/
def readSigned : List Char → Option (Int × List Char)
  | '+' :: r => (readDigits r).map fun (digits, rest) => ((ofDigits 10 digits : Nat), rest)
  | '-' :: r => (readDigits r).map fun (digits, rest) => (-(ofDigits 10 digits : Nat), rest)
  | s => (readDigits s).map fun (digits, rest) => ((ofDigits 10 digits : Nat), rest)

/-- The exponent, if its letter follows. -/
def readExponent : List Char → Option (Option Int × List Char)
  | 'e' :: r | 'E' :: r => (readSigned r).map fun (e, rest) => (some e, rest)
  | s => some (none, s)

/-- The value of a number. Only a whole part without a fraction or an exponent is an integer, and a
negative zero is not one. -/
def numberValue (negative : Bool) (whole : List Char) (fraction : Option (List Char))
    (exponent : Option Int) : Value :=
  let digits := whole ++ fraction.getD []
  let mantissa := ofDigits 10 digits
  let scale : Int := exponent.getD 0 - (fraction.getD []).length
  let signed : Int := if negative then -(mantissa : Nat) else (mantissa : Nat)
  if Text.overflowsDouble mantissa scale then .unreadable
  else if fraction.isNone && exponent.isNone && !(negative && mantissa == 0) then .int signed
  else .real signed scale

/-- The number at the start of a text, and what follows it. -/
def readNumber (s : List Char) : Option (Value × List Char) := do
  let (negative, s) := match s with
    | '-' :: r => (true, r)
    | _ => (false, s)
  let (whole, s) ← readWhole s
  let (fraction, s) ← readFraction s
  let (exponent, s) ← readExponent s
  return (numberValue negative whole fraction exponent, s)

/-! ## Tokens -/

/-- The token at the start of a text that is no blank, and what follows it. -/
def readToken : List Char → Option (Token × List Char)
  | '[' :: r => some (.openList, r)
  | ']' :: r => some (.closeList, r)
  | '{' :: r => some (.openRecord, r)
  | '}' :: r => some (.closeRecord, r)
  | ',' :: r => some (.comma, r)
  | ':' :: r => some (.colon, r)
  | '"' :: r => (readText r).map fun (t, rest) => (.text t, rest)
  | 'n' :: 'u' :: 'l' :: 'l' :: r => some (.scalar .null, r)
  | 't' :: 'r' :: 'u' :: 'e' :: r => some (.scalar (.bool true), r)
  | 'f' :: 'a' :: 'l' :: 's' :: 'e' :: r => some (.scalar (.bool false), r)
  | s => (readNumber s).map fun (v, rest) => (.scalar v, rest)

/-- The tokens of a text; none if some part of it is no token. -/
def tokens (s : List Char) : Option (List Token) :=
  match s with
  | [] => some []
  | c :: r =>
    if isBlank c then tokens r
    else
      match readToken (c :: r) with
      | none => none
      | some (t, rest) =>
        if rest.length ≤ r.length then (tokens rest).map (t :: ·) else none
  termination_by s.length
  decreasing_by all_goals (simp only [List.length_cons]; omega)

end CredentialPolicy.Json
