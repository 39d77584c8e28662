/-!
Patterns as they are written.

A pattern is a tree of `Node`s. The tree keeps what the text says and settles nothing: the meaning
of a node depends on the switches that are on where it stands. How a repetition shares the text with
what follows it (`greedy`) does not change which texts are matched as a whole, but it does change
how the repetition is written.
-/

set_option autoImplicit false

namespace CredentialPolicy.Pattern

/-- What a pattern can switch on and off for what follows. -/
inductive Switch where
  /-- Letter case does not matter. -/
  | caseless
  /-- The places `^` and `$` are found at every line. -/
  | multiline
  /-- The dot stands for line feeds too. -/
  | dotAll
  /-- Repetitions are lazy, unless they are marked. -/
  | lazy
  /-- Characters are those of all scripts. -/
  | unicode
  /-- Lines may end with a carriage return. -/
  | crlf
  /-- Blanks and comments in the pattern are skipped. -/
  | extended
  deriving DecidableEq, Repr

/-- A switch and whether it is on. -/
abbrev Setting := Switch × Bool

/-- A condition on a place in the text. -/
inductive Place where
  | lineStart
  | lineEnd
  | textStart
  | textEnd
  | wordBoundary
  | notWordBoundary
  | wordStart
  | wordEnd
  | wordStartHalf
  | wordEndHalf
  deriving DecidableEq, Repr

/-- A class of characters with a name of one letter. -/
inductive ShortClass where
  | digit
  | blank
  | word
  deriving DecidableEq, Repr

/-- A named class of ASCII characters. -/
inductive AsciiClass where
  | alnum
  | alpha
  | ascii
  | blank
  | cntrl
  | digit
  | graph
  | lower
  | print
  | punct
  | space
  | upper
  | word
  | xdigit
  deriving DecidableEq, Repr

namespace AsciiClass

/-- Every class, with its name. -/
def all : List (String × AsciiClass) :=
  [("alnum", alnum), ("alpha", alpha), ("ascii", ascii), ("blank", blank), ("cntrl", cntrl),
   ("digit", digit), ("graph", graph), ("lower", lower), ("print", print), ("punct", punct),
   ("space", space), ("upper", upper), ("word", word), ("xdigit", xdigit)]

/-- The ranges of code points that make up the class. -/
def ranges : AsciiClass → List (Nat × Nat)
  | alnum => [(0x30, 0x39), (0x41, 0x5A), (0x61, 0x7A)]
  | alpha => [(0x41, 0x5A), (0x61, 0x7A)]
  | ascii => [(0x00, 0x7F)]
  | blank => [(0x09, 0x09), (0x20, 0x20)]
  | cntrl => [(0x00, 0x1F), (0x7F, 0x7F)]
  | digit => [(0x30, 0x39)]
  | graph => [(0x21, 0x7E)]
  | lower => [(0x61, 0x7A)]
  | print => [(0x20, 0x7E)]
  | punct => [(0x21, 0x2F), (0x3A, 0x40), (0x5B, 0x60), (0x7B, 0x7E)]
  | space => [(0x09, 0x0D), (0x20, 0x20)]
  | upper => [(0x41, 0x5A)]
  | word => [(0x30, 0x39), (0x41, 0x5A), (0x5F, 0x5F), (0x61, 0x7A)]
  | xdigit => [(0x30, 0x39), (0x41, 0x46), (0x61, 0x66)]

end AsciiClass

/-- A class of characters named after a property. -/
structure NamedClass where
  /-- Whether the characters are those without the property. -/
  negated : Bool
  /-- The name of the property, or of one of its values. -/
  name : List Char
  /-- The value, if the name is that of the property. -/
  value : Option (List Char) := none
  deriving DecidableEq, Repr

/-- A character that stands for itself. -/
structure Literal where
  /-- The character. -/
  char : Char
  /-- Whether it is written with two hexadecimal digits, as a byte can be. -/
  byte : Bool := false
  deriving DecidableEq, Repr

/-- An operation on two sets of characters. -/
inductive SetOp where
  | intersection
  | difference
  | symmetricDifference
  deriving DecidableEq, Repr

mutual

/-- An item between brackets. -/
inductive ClassItem where
  /-- A character. -/
  | literal (l : Literal)
  /-- All characters from one to another. -/
  | range (first last : Literal)
  /-- A named class of ASCII characters. -/
  | ascii (c : AsciiClass) (negated : Bool)
  /-- A class named after a property. -/
  | named (c : NamedClass)
  /-- A class with a name of one letter. -/
  | short (c : ShortClass) (negated : Bool)
  /-- Brackets within brackets. -/
  | nested (negated : Bool) (set : ClassSet)

/-- What stands between brackets. -/
inductive ClassSet where
  /-- Items next to each other. -/
  | items (items : List ClassItem)
  /-- Two sets with an operation between them. -/
  | combined (op : SetOp) (left right : ClassSet)

end

/-- A pair of parentheses. -/
inductive GroupKind where
  /-- The parentheses mark a part of the match. -/
  | capture
  /-- The parentheses hold parts together, under some settings. -/
  | plain (settings : List Setting)
  deriving DecidableEq, Repr

/-- A part of a pattern. -/
inductive Node where
  /-- Settings for what follows within the same parentheses. -/
  | settings (settings : List Setting)
  /-- A character that stands for itself. -/
  | literal (l : Literal)
  /-- Any character. -/
  | dot
  /-- A condition on the place. -/
  | place (p : Place)
  /-- A class named after a property. -/
  | named (c : NamedClass)
  /-- A class with a name of one letter. -/
  | short (c : ShortClass) (negated : Bool)
  /-- A class between brackets. -/
  | bracketed (negated : Bool) (set : ClassSet)
  /-- A part that is repeated. -/
  | repetition (node : Node) (min : Nat) (max : Option Nat) (greedy : Bool)
  /-- A part between parentheses. -/
  | group (kind : GroupKind) (node : Node)
  /-- One of several parts. -/
  | alternation (nodes : List Node)
  /-- Parts one after the other. -/
  | concat (nodes : List Node)

/-! ## Depth -/

mutual

/-- How deep an item between brackets nests. -/
def ClassItem.depth : ClassItem → Nat
  | .nested _ set => set.depth + 1
  | _ => 0

/-- How deep a set between brackets nests; several items next to each other count as a level. -/
def ClassSet.depth : ClassSet → Nat
  | .items [] => 0
  | .items [item] => item.depth
  | .items items => deepestItem items + 1
  | .combined _ left right => max left.depth right.depth + 1

/-- The depth of the deepest item. -/
def deepestItem : List ClassItem → Nat
  | [] => 0
  | item :: r => max item.depth (deepestItem r)

end

mutual

/-- How deep a part nests: parentheses, brackets, repetitions, alternations and sequences count as a
level each. -/
def Node.depth : Node → Nat
  | .bracketed _ set => set.depth + 1
  | .repetition node _ _ _ => node.depth + 1
  | .group _ node => node.depth + 1
  | .alternation nodes => deepestNode nodes + 1
  | .concat [] => 0
  | .concat nodes => deepestNode nodes + 1
  | _ => 0

/-- The depth of the deepest part. -/
def deepestNode : List Node → Nat
  | [] => 0
  | node :: r => max node.depth (deepestNode r)

end

end CredentialPolicy.Pattern
