import CredentialPolicy.Document.Value
import CredentialPolicy.Text.Double
import CredentialPolicy.Toml.Text

/-!
Reading TOML numbers, dates and times.

A date or time means nothing to this library: it stands for a record of one field, its text.
-/

set_option autoImplicit false

namespace CredentialPolicy.Toml

open Document (Value)
open Text (isDecimal isDigitOf ofDigits)

/-! ## Numbers -/

/-- The digits of a radix after the first one, with single underscores between them left out, and
what follows them. -/
def moreDigits (radix : Nat) : List Char → List Char × List Char
  | '_' :: d :: r =>
    if isDigitOf radix d then
      let (digits, rest) := moreDigits radix r
      (d :: digits, rest)
    else ([], '_' :: d :: r)
  | d :: r =>
    if isDigitOf radix d then
      let (digits, rest) := moreDigits radix r
      (d :: digits, rest)
    else ([], d :: r)
  | [] => ([], [])

/-- The digits of a radix at the start of a text, if there are any, and what follows them. -/
def readDigits (radix : Nat) : List Char → Option (List Char × List Char)
  | d :: r =>
    if isDigitOf radix d then
      let (digits, rest) := moreDigits radix r
      some (d :: digits, rest)
    else none
  | [] => none

/-- Whether a sign is a minus, and what follows the sign, which may be missing. -/
def readSign : List Char → Bool × List Char
  | '-' :: r => (true, r)
  | '+' :: r => (false, r)
  | s => (false, s)

/-- A decimal whole number with an optional sign: a zero alone, or digits of which the first is not
zero. -/
def readWhole (s : List Char) : Option (Bool × List Char × List Char) :=
  match readSign s with
  | (negative, '0' :: r) => some (negative, ['0'], r)
  | (negative, r) => (readDigits 10 r).map fun (digits, rest) => (negative, digits, rest)

/-- An integer of 64 bits with a sign. -/
def int64? (negative : Bool) (n : Nat) : Option Value :=
  if negative then if n ≤ 0x8000000000000000 then some (.int (-(n : Int))) else none
  else if n < 0x8000000000000000 then some (.int n) else none

/-- A number in another radix, after its mark. -/
def readRadix (radix : Nat) (s : List Char) : Option (Value × List Char) := do
  let (digits, rest) ← readDigits radix s
  return (← int64? false (ofDigits radix digits), rest)

/-- An integer, and what follows it. -/
def readInteger : List Char → Option (Value × List Char)
  | '0' :: 'x' :: r => readRadix 16 r
  | '0' :: 'o' :: r => readRadix 8 r
  | '0' :: 'b' :: r => readRadix 2 r
  | s => do
    let (negative, digits, rest) ← readWhole s
    return (← int64? negative (ofDigits 10 digits), rest)

/-- The digits of a fraction, if a point follows. -/
def readFraction : List Char → Option (Option (List Char) × List Char)
  | '.' :: r => (readDigits 10 r).map fun (digits, rest) => (some digits, rest)
  | s => some (none, s)

/-- The exponent, if its letter follows. -/
def readExponent : List Char → Option (Option Int × List Char)
  | 'e' :: r | 'E' :: r =>
    let (negative, r) := readSign r
    (readDigits 10 r).map fun (digits, rest) =>
      let n : Int := (ofDigits 10 digits : Nat)
      (some (if negative then -n else n), rest)
  | s => some (none, s)

/-- A number with a fraction, an exponent or both, and what follows it. A positive one must round to
a finite double. -/
def readReal (s : List Char) : Option (Value × List Char) := do
  let (negative, whole, s) ← readWhole s
  let (fraction, s) ← readFraction s
  let (exponent, s) ← readExponent s
  if fraction.isNone && exponent.isNone then none
  else
    let mantissa := ofDigits 10 (whole ++ fraction.getD [])
    let scale : Int := exponent.getD 0 - (fraction.getD []).length
    if Text.overflowsDouble mantissa scale then
      if negative then some (.notFinite, s) else none
    else some (.real (if negative then -(mantissa : Int) else mantissa) scale, s)

/-- An infinity or what is not a number, and what follows it. -/
def readNotFinite (s : List Char) : Option (Value × List Char) :=
  match (readSign s).2 with
  | 'i' :: 'n' :: 'f' :: r => some (.notFinite, r)
  | 'n' :: 'a' :: 'n' :: r => some (.notFinite, r)
  | _ => none

/-! ## Dates and times -/

/-- A number of exactly two digits within bounds, and what follows it. -/
def readTwo (lo hi : Nat) : List Char → Option (Nat × List Char)
  | a :: b :: r =>
    let n := ofDigits 10 [a, b]
    if isDecimal a && isDecimal b && lo ≤ n && n ≤ hi then some (n, r) else none
  | _ => none

/-- What follows a given character. -/
def after? (c : Char) : List Char → Option (List Char)
  | d :: r => if d = c then some r else none
  | [] => none

/-- Whether a year has a leap day. -/
def isLeap (year : Nat) : Bool := year % 4 = 0 && (year % 100 ≠ 0 || year % 400 = 0)

/-- The number of days of a month. -/
def daysOf (year month : Nat) : Nat :=
  if month = 2 then if isLeap year then 29 else 28
  else if month = 4 ∨ month = 6 ∨ month = 9 ∨ month = 11 then 30
  else 31

/-- What follows a date. -/
def afterDate? : List Char → Option (List Char)
  | a :: b :: c :: d :: r =>
    if [a, b, c, d].all isDecimal then do
      let year := ofDigits 10 [a, b, c, d]
      let (month, r) ← readTwo 1 12 (← after? '-' r)
      let (_, r) ← readTwo 1 (daysOf year month) (← after? '-' r)
      return r
    else none
  | _ => none

/-- What follows a time of the day. -/
def afterTime? (s : List Char) : Option (List Char) := do
  let (_, s) ← readTwo 0 23 s
  let (_, s) ← readTwo 0 59 (← after? ':' s)
  let (_, s) ← readTwo 0 60 (← after? ':' s)
  match s with
  | '.' :: d :: r => if isDecimal d then some (r.dropWhile isDecimal) else none
  | '.' :: [] => none
  | _ => some s

/-- What follows an offset from universal time, or the text itself where there is none. -/
def afterOffset : List Char → List Char
  | 'Z' :: r | 'z' :: r => r
  | s =>
    let offset? := do
      let (_, r) ← readTwo 0 23 (← (after? '+' s).or (after? '-' s))
      let (_, r) ← readTwo 0 59 (← after? ':' r)
      return r
    offset?.getD s

/-- What follows a date, a time, or a date and a time between which stands a `T` or a space. -/
def afterDateTime? (s : List Char) : Option (List Char) :=
  match afterDate? s with
  | some rest =>
    match rest with
    | c :: r =>
      if c = 'T' ∨ c = 't' ∨ c = ' ' then
        match afterTime? r with
        | some r' => some (afterOffset r')
        | none => some rest
      else some rest
    | [] => some rest
  | none => afterTime? s

/-- The record that a date or time stands for. -/
def dateValue (text : List Char) : Value := .record [("datetime", .text (String.ofList text))]

/-- A date or time, and what follows it. -/
def readDateTime (s : List Char) : Option (Value × List Char) :=
  (afterDateTime? s).map fun rest => (dateValue (s.take (s.length - rest.length)), rest)

/-! ## Scalars -/

/-- A number, a date or a time, and what follows it. -/
def readNumber (s : List Char) : Option (Value × List Char) :=
  (readDateTime s).or ((readReal s).or ((readNotFinite s).or (readInteger s)))

/-- A text, a truth value, a number, a date or a time, and what follows it. -/
def readScalar : List Char → Option (Value × List Char)
  | 't' :: 'r' :: 'u' :: 'e' :: r => some (.bool true, r)
  | 'f' :: 'a' :: 'l' :: 's' :: 'e' :: r => some (.bool false, r)
  | s =>
    match readText s with
    | some (text, rest) => some (.text (String.ofList text), rest)
    | none => readNumber s

example : (readScalar "1979-05-27 07:32:00.5-07:00 # x".toList).map (·.2) = some " # x".toList := by
  decide +kernel

example : (readScalar "0x_1".toList).isNone ∧ (readScalar "+inf".toList).isSome := by decide +kernel

end CredentialPolicy.Toml
