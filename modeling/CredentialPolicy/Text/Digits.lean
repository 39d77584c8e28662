/-!
Numbers in digits.

Reading gives the value of a run of digits in some radix, or the character with that code; writing
gives lowercase hexadecimal digits, with or without a fixed width.
-/

set_option autoImplicit false

namespace CredentialPolicy.Text

/-- The value of a character as a digit of any radix up to sixteen, in either letter case. -/
def digitValue? (c : Char) : Option Nat :=
  if '0' ≤ c ∧ c ≤ '9' then some (c.toNat - 0x30)
  else if 'a' ≤ c ∧ c ≤ 'f' then some (c.toNat - 0x61 + 10)
  else if 'A' ≤ c ∧ c ≤ 'F' then some (c.toNat - 0x41 + 10)
  else none

/-- Whether a character is a digit of a radix. -/
def isDigitOf (radix : Nat) (c : Char) : Bool :=
  match digitValue? c with
  | some d => d < radix
  | none => false

/-- Whether a character is one of the ten decimal digits. -/
def isDecimal (c : Char) : Bool := '0' ≤ c && c ≤ '9'

/-- Whether a character is a hexadecimal digit. -/
def isHex (c : Char) : Bool := isDigitOf 16 c

/-- The number that some digits write; a character that is no digit counts as zero. -/
def ofDigits (radix : Nat) (digits : List Char) : Nat :=
  digits.foldl (fun acc c => acc * radix + (digitValue? c).getD 0) 0

/-- The number that a text of digits writes, if it has digits and nothing else. -/
def natOfDigits? (radix : Nat) (text : List Char) : Option Nat :=
  if text ≠ [] ∧ text.all (isDigitOf radix) then some (ofDigits radix text) else none

/-- The character with the code that some hexadecimal digits write, if there is one. -/
def charOfHex? (digits : List Char) : Option Char :=
  if digits.all isHex then
    let code := ofDigits 16 digits
    if code.isValidChar then some (Char.ofNat code) else none
  else none

/-- The number of 32 bits that a decimal text writes, with an optional plus sign in front. -/
def uint32OfText? (text : List Char) : Option UInt32 :=
  let digits := match text with
    | '+' :: r => r
    | _ => text
  match natOfDigits? 10 digits with
  | some n => if n < 0x100000000 then some (UInt32.ofNat n) else none
  | none => none

/-- The lowercase hexadecimal digit of a value below sixteen. -/
def hexDigit (n : Nat) : Char :=
  if n < 10 then Char.ofNat (0x30 + n) else Char.ofNat (0x61 + n - 10)

/-- The last `width` hexadecimal digits of a number, with zeros in front. -/
def hexOfWidth : Nat → Nat → List Char
  | 0, _ => []
  | width + 1, n => hexOfWidth width (n / 16) ++ [hexDigit (n % 16)]

/-- The hexadecimal digits of a number, with none to spare. -/
def hex (n : Nat) : List Char :=
  if n < 16 then [hexDigit n] else hex (n / 16) ++ [hexDigit (n % 16)]
  termination_by n

/-- A character that is a capital letter `A` to `F` where it is a hexadecimal digit. -/
def upperHex (digits : List Char) : List Char := digits.map Char.toUpper

example : uint32OfText? "+0042".toList = some 42 ∧ uint32OfText? "4294967296".toList = none := by
  decide

example : uint32OfText? "".toList = none ∧ uint32OfText? "1_0".toList = none := by decide

example : hexOfWidth 4 0x1f = "001f".toList := by decide

end CredentialPolicy.Text
