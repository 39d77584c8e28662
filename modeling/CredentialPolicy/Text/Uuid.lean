import CredentialPolicy.Text.Digits

/-!
Identifiers of 128 bits and their text.

An identifier is written as 32 lowercase hexadecimal digits with hyphens after the eighth, twelfth,
sixteenth and twentieth. It is read in either letter case, without the hyphens, and with them also
in braces or after `urn:uuid:`.
-/

set_option autoImplicit false

namespace CredentialPolicy.Text

/-- An identifier of 128 bits. -/
structure Uuid where
  /-- The identifier as a number. -/
  bits : BitVec 128
  deriving DecidableEq, Inhabited

namespace Uuid

/-- The identifier as text. -/
def toText (u : Uuid) : String :=
  let digits := hexOfWidth 32 u.bits.toNat
  let part (start length : Nat) := (digits.drop start).take length
  String.ofList
    (part 0 8 ++ '-' :: part 8 4 ++ '-' :: part 12 4 ++ '-' :: part 16 4 ++ '-' :: part 20 12)

/-- The identifier with the given 32 digits. -/
def ofHex? (digits : List Char) : Option Uuid :=
  if digits.length = 32 then (natOfDigits? 16 digits).map fun n => ⟨BitVec.ofNat 128 n⟩ else none

/-- The digits of a text with a hyphen at each of the four places, if it is one of that length. -/
def dropHyphens? (text : List Char) : Option (List Char) :=
  if text.length = 36 ∧ [8, 13, 18, 23].all (fun i => text[i]? = some '-') then
    some (text.take 8 ++ (text.drop 9).take 4 ++ (text.drop 14).take 4 ++ (text.drop 19).take 4 ++
      text.drop 24)
  else none

/-- The identifier that a text with hyphens writes. -/
def ofHyphenated? (text : List Char) : Option Uuid := (dropHyphens? text).bind ofHex?

/-- The text between braces, if it stands between braces. -/
def unbraced? : List Char → Option (List Char)
  | '{' :: r => if r.getLast? = some '}' then some r.dropLast else none
  | _ => none

/-- The text after `urn:uuid:`, if it starts so. -/
def afterUrn? (text : List Char) : Option (List Char) :=
  let start := "urn:uuid:".toList
  if start.isPrefixOf text then some (text.drop start.length) else none

/-- The identifier that a text writes. -/
def ofText? (text : String) : Option Uuid :=
  let cs := text.toList
  match ofHex? cs with
  | some u => some u
  | none =>
    match ofHyphenated? cs with
    | some u => some u
    | none =>
      match unbraced? cs with
      | some inner => ofHyphenated? inner
      | none => (afterUrn? cs).bind ofHyphenated?

example : (ofText? "{0190C5F2-7D4E-7B3A-8C1D-2E3F4A5B6C7D}").map toText =
    some "0190c5f2-7d4e-7b3a-8c1d-2e3f4a5b6c7d" := by decide +kernel

end Uuid

end CredentialPolicy.Text
