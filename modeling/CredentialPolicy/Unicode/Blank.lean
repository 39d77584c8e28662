import CredentialPolicy.Unicode.Stride

/-!
Blank characters: those with the property `White_Space`.
-/

set_option autoImplicit false

namespace CredentialPolicy.Unicode

/-- The characters with the property `White_Space`. -/
def blankStrides : List Stride :=
  [⟨0x9, 0xD, 1⟩, ⟨0x20, 0x20, 1⟩, ⟨0x85, 0x85, 1⟩, ⟨0xA0, 0xA0, 1⟩, ⟨0x1680, 0x1680, 1⟩,
   ⟨0x2000, 0x200A, 1⟩, ⟨0x2028, 0x2029, 1⟩, ⟨0x202F, 0x202F, 1⟩, ⟨0x205F, 0x205F, 1⟩,
   ⟨0x3000, 0x3000, 1⟩]

/-- Whether a character is blank. -/
def isBlank (c : Char) : Bool := anyContains blankStrides c.toNat

/-- The text without the blanks at its start and at its end. -/
def trim (text : List Char) : List Char :=
  ((text.dropWhile isBlank).reverse.dropWhile isBlank).reverse

/-- The text without the blanks at its start and at its end. -/
def trimText (text : String) : String := String.ofList (trim text.toList)

/-- Whether a text has no character but blanks. -/
def isBlankText (text : String) : Bool := text.toList.all isBlank

example : trim "\t\u3000a b\u0085".toList = "a b".toList := by decide

example : isBlank '\u200b' = false := by decide

end CredentialPolicy.Unicode
