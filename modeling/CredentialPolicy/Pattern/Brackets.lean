import CredentialPolicy.Pattern.Lexis

/-!
Reading what stands between brackets.

The reader goes from item to item and keeps the brackets that are open on a stack, so brackets may
nest to any depth. Operations between sets all bind alike and group to the left.
-/

set_option autoImplicit false

namespace CredentialPolicy.Pattern

open Unicode (isBlank)

/-- Brackets that are not closed yet. -/
structure OpenBrackets where
  /-- Whether the characters are those outside the set. -/
  negated : Bool
  /-- The items since the last operation, last one first. -/
  items : List ClassItem
  /-- The set before the last operation, and that operation. -/
  pending : Option (ClassSet × SetOp) := none

namespace OpenBrackets

/-- The set so far. -/
def set (b : OpenBrackets) : ClassSet :=
  match b.pending with
  | some (left, op) => .combined op left (.items b.items.reverse)
  | none => .items b.items.reverse

/-- Adds an item. -/
def addItem (b : OpenBrackets) (item : ClassItem) : OpenBrackets :=
  { b with items := item :: b.items }

/-- Starts the right side of an operation. -/
def addOp (b : OpenBrackets) (op : SetOp) : OpenBrackets :=
  { b with items := [], pending := some (b.set, op) }

end OpenBrackets

/-- Hyphens, which count as characters, and what follows them and skipped text. -/
def takeHyphens (extended : Bool) (s : List Char) : List ClassItem × List Char :=
  match s with
  | '-' :: r =>
    let (items, rest) := takeHyphens extended (skip extended r)
    (.literal { char := '-' } :: items, rest)
  | s => ([], s)
  termination_by s.length
  decreasing_by
    have := length_skip_le extended r
    simp only [List.length_cons]
    omega

/-- What follows an opening bracket: a mark of negation, hyphens that count as characters and, if
there are none, a closing bracket that counts as a character. -/
def readOpening (extended : Bool) (s : List Char) : OpenBrackets × List Char :=
  let s := skip extended s
  let (negated, s) := match s with
    | '^' :: r => (true, skip extended r)
    | s => (false, s)
  match takeHyphens extended s with
  | ([], ']' :: r) => (⟨negated, [.literal { char := ']' }], none⟩, skip extended r)
  | (items, rest) => (⟨negated, items, none⟩, rest)

/-- A named class of ASCII characters, of which the opening bracket has been read. -/
def readAsciiClass? : List Char → Option (ClassItem × List Char)
  | ':' :: r =>
    let (negated, r) := match r with
      | '^' :: r => (true, r)
      | r => (false, r)
    match r.span (· ≠ ':') with
    | (name, ':' :: ']' :: rest) =>
      (AsciiClass.all.lookup (String.ofList name)).map fun c => (.ascii c negated, rest)
    | _ => none
  | _ => none

/-- An escape, or a character that stands for itself. -/
def readClassPart (extended : Bool) : List Char → Option (Node × List Char)
  | [] => none
  | '\\' :: r => readEscape extended r
  | c :: r => some (.literal { char := c }, r)

/-- The part as an item, if it stands for characters. -/
def itemOfNode? : Node → Option ClassItem
  | .literal l => some (.literal l)
  | .short c negated => some (.short c negated)
  | .named c => some (.named c)
  | _ => none

/-- The first character that is not skipped; one within a comment counts, if it is not blank. -/
def peekFrom (comment : Bool) : List Char → Option Char
  | [] => none
  | c :: r =>
    if isBlank c then peekFrom comment r
    else if c = '#' ∧ comment = false then peekFrom true r
    else some c

/-- The character that comes next, if text is skipped where the switch says so. -/
def peek (extended : Bool) (s : List Char) : Option Char :=
  if extended then peekFrom false s <|> s.head? else s.head?

/-- One item, which may be a range. A hyphen is part of a range unless a closing bracket or another
hyphen follows it. -/
def readClassItem (extended : Bool) (s : List Char) : Option (ClassItem × List Char) := do
  let (part, rest) ← readClassPart extended s
  match skip extended rest with
  | '-' :: r =>
    if peek extended r = some ']' ∨ peek extended r = some '-' then
      return (← itemOfNode? part, '-' :: r)
    else do
      let (last, rest) ← readClassPart extended (skip extended r)
      match part, last with
      | .literal a, .literal b => if a.char ≤ b.char then return (.range a b, rest) else none
      | _, _ => none
  | rest => return (← itemOfNode? part, rest)

/-- The brackets that are open, the innermost ones apart from the others, innermost first; or the
class that the outermost ones made when they were closed. -/
inductive BracketState where
  /-- Some brackets are open. -/
  | within (inner : OpenBrackets) (outer : List OpenBrackets)
  /-- All brackets are closed. -/
  | closed (node : Node)

/-- Reads one item, one operation or one bracket. -/
def readBracketStep (extended : Bool) (inner : OpenBrackets) (outer : List OpenBrackets)
    (s : List Char) : Option (BracketState × List Char) :=
  match skip extended s with
  | [] => none
  | '[' :: r =>
    match readAsciiClass? r with
    | some (item, rest) => some (.within (inner.addItem item) outer, rest)
    | none =>
      let (opened, rest) := readOpening extended r
      some (.within opened (inner :: outer), rest)
  | ']' :: r =>
    match outer with
    | [] => some (.closed (.bracketed inner.negated inner.set), r)
    | b :: outer => some (.within (b.addItem (.nested inner.negated inner.set)) outer, r)
  | '&' :: '&' :: r => some (.within (inner.addOp .intersection) outer, r)
  | '-' :: '-' :: r => some (.within (inner.addOp .difference) outer, r)
  | '~' :: '~' :: r => some (.within (inner.addOp .symmetricDifference) outer, r)
  | start => (readClassItem extended start).map fun (item, rest) =>
    (.within (inner.addItem item) outer, rest)

/-- Reads up to the bracket that closes the outermost ones. -/
def readBrackets (extended : Bool) (inner : OpenBrackets) (outer : List OpenBrackets)
    (s : List Char) : Option (Node × List Char) :=
  match readBracketStep extended inner outer s with
  | some (.closed node, rest) => some (node, rest)
  | some (.within inner outer, rest) =>
    if rest.length < s.length then readBrackets extended inner outer rest else none
  | none => none
  termination_by s.length

/-- Reads a class between brackets, of which the opening one has been read. -/
def readBracketed (extended : Bool) (s : List Char) : Option (Node × List Char) :=
  let (opened, rest) := readOpening extended s
  readBrackets extended opened [] rest

end CredentialPolicy.Pattern
