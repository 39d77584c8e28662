import CredentialPolicy.Text.Digits
import CredentialPolicy.Unicode.Printable

/-!
Texts between quotes, as messages show them.

A character that could be mistaken is written as an escape: quotes and backslashes, line breaks, and
every character without a glyph of its own or joined to the one before it.
-/

set_option autoImplicit false

namespace CredentialPolicy.Text

/-- A character as it stands between quotes. -/
def quoteChar (c : Char) : List Char :=
  match c with
  | '\x00' => ['\\', '0']
  | '\t' => ['\\', 't']
  | '\n' => ['\\', 'n']
  | '\r' => ['\\', 'r']
  | '"' => ['\\', '"']
  | '\\' => ['\\', '\\']
  | c =>
    if Unicode.isGraphemeExtend c || ! Unicode.isPrintable c then
      '\\' :: 'u' :: '{' :: hex c.toNat ++ ['}']
    else [c]

/-- A text between quotes. -/
def quoted (s : String) : String :=
  String.ofList ('"' :: s.toList.flatMap quoteChar ++ ['"'])

example : quoteChar '\u00a0' = ['\\', 'u', '{', 'a', '0', '}'] := by decide +kernel

end CredentialPolicy.Text
