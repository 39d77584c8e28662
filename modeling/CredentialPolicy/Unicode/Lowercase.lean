import CredentialPolicy.Unicode.Case

/-!
The lowercase form of a text.

Each character becomes its own lowercase form, with two exceptions of the standard: `İ` becomes two
characters, and a capital sigma becomes the final sigma `ς` where it ends a word. It ends a word if
some cased character precedes it and none follows, with case-ignorable characters skipped on both
sides.
-/

set_option autoImplicit false

namespace CredentialPolicy.Unicode

/-- Whether the first character that is not skipped is cased. -/
def startsCased (text : List Char) : Bool :=
  match text.dropWhile isCaseIgnorable with
  | c :: _ => isCased c
  | [] => false

/-- The lowercase form of a character between the characters before it, last first, and those
after it. -/
def lowerBetween (before : List Char) (c : Char) (after : List Char) : List Char :=
  if c = 'Σ' then if startsCased before && ! startsCased after then ['ς'] else ['σ']
  else if c = 'İ' then ['i', '\u0307']
  else [lowerChar c]

/-- The lowercase form of the rest of a text, after the characters before it, last first. -/
def lowerFrom (before : List Char) : List Char → List Char
  | [] => []
  | c :: r => lowerBetween before c r ++ lowerFrom (c :: before) r

/-- The lowercase form of a text. -/
def lower (text : List Char) : List Char := lowerFrom [] text

example : lower "ΟΔΟΣ ΣΑΣ.".toList = "οδος σας.".toList := by decide +kernel

example : lower "İZ".toList = ['i', '\u0307', 'z'] := by decide +kernel

end CredentialPolicy.Unicode
