import CredentialPolicy.Pattern.Brackets
import CredentialPolicy.Unicode.Property

/-!
Reading patterns.

The reader goes from part to part and keeps the parentheses that are open on a stack. A part that
is followed by `?`, `*`, `+` or bounds between braces is replaced by its repetition; a bar starts
the next alternative. What no rule allows is refused: parentheses that do not match, a repetition of
nothing, a name that is used twice, conditions on the text around a match, references to earlier
parts, and escapes of letters without a meaning.
-/

set_option autoImplicit false

namespace CredentialPolicy.Pattern

/-! ## Settings and names -/

/-- The switch with a given letter. -/
def Switch.ofLetter? : Char → Option Switch
  | 'i' => some .caseless
  | 'm' => some .multiline
  | 's' => some .dotAll
  | 'U' => some .lazy
  | 'u' => some .unicode
  | 'R' => some .crlf
  | 'x' => some .extended
  | _ => none

/-- Settings up to a colon or a closing parenthesis, which is left. After the one minus sign that is
allowed, switches are turned off; some letter has to follow it. No letter may occur twice. -/
def readSettings (before : List Setting) (minus afterMinus : Bool) :
    List Char → Option (List Setting × List Char)
  | [] => none
  | c :: r =>
    if c = ':' ∨ c = ')' then if afterMinus then none else some (before, c :: r)
    else if c = '-' then if minus then none else readSettings before true true r
    else
      match Switch.ofLetter? c with
      | some switch =>
        if before.any (·.1 = switch) then none
        else readSettings (before ++ [(switch, ! minus)]) minus false r
      | none => none

/-- What settings say about a switch, if anything. -/
def settingOf (switch : Switch) (settings : List Setting) : Option Bool := settings.lookup switch

/-- Whether a character may start the name of a group. -/
def isNameStart (c : Char) : Bool := c = '_' || Unicode.alphabeticSet.contains c

/-- Whether a character may stand in the name of a group, but for its start. -/
def isNameChar (c : Char) : Bool :=
  c = '_' || c = '.' || c = '[' || c = ']' || Unicode.alphabeticSet.contains c ||
    (Unicode.GeneralCategory.setOfAll [.decimalNumber, .letterNumber, .otherNumber]).contains c

/-- The name of a group up to the closing angle bracket. -/
def readName (s : List Char) : Option (String × List Char) :=
  match s.span (· ≠ '>') with
  | (c :: r, _ :: rest) =>
    if isNameStart c && r.all isNameChar then some (String.ofList (c :: r), rest) else none
  | _ => none

/-! ## Parts -/

/-- Parentheses that are not closed yet, and what was read before them. -/
structure OpenGroup where
  /-- What the parentheses do. -/
  kind : GroupKind
  /-- Whether text is skipped outside of them. -/
  extended : Bool
  /-- The alternatives before the one that holds the parentheses, last one first. -/
  alternatives : List Node
  /-- The parts of that one before the parentheses, last one first. -/
  parts : List Node

/-- What has been read of a pattern. -/
structure Draft where
  /-- Whether text is skipped. -/
  extended : Bool := false
  /-- The names of groups. -/
  names : List String := []
  /-- The alternatives before the current one, last one first. -/
  alternatives : List Node := []
  /-- The parts of the current alternative, last one first. -/
  parts : List Node := []
  /-- The parentheses that are open, innermost ones first. -/
  outer : List OpenGroup := []

namespace Draft

/-- The current alternative. -/
def alternative (d : Draft) : Node :=
  match d.parts with
  | [part] => part
  | parts => .concat parts.reverse

/-- All alternatives of the innermost parentheses. -/
def body (d : Draft) : Node :=
  match d.alternatives with
  | [] => d.alternative
  | alternatives => .alternation (d.alternative :: alternatives).reverse

/-- Adds a part. -/
def add (d : Draft) (node : Node) : Draft := { d with parts := node :: d.parts }

/-- Replaces the last part by its repetition, if it can be repeated. -/
def repeatLast (d : Draft) (min : Nat) (max : Option Nat) (greedy : Bool) : Option Draft :=
  match d.parts with
  | [] | .settings _ :: _ => none
  | part :: parts => some { d with parts := .repetition part min max greedy :: parts }

/-- Starts the next alternative. -/
def startAlternative (d : Draft) : Draft :=
  { d with alternatives := d.alternative :: d.alternatives, parts := [] }

/-- Opens parentheses. -/
def openGroup (d : Draft) (kind : GroupKind) : Draft :=
  let extended := match kind with
    | .capture => d.extended
    | .plain settings => (settingOf .extended settings).getD d.extended
  { d with
    extended
    alternatives := []
    parts := []
    outer := ⟨kind, d.extended, d.alternatives, d.parts⟩ :: d.outer }

/-- Closes the innermost parentheses. -/
def closeGroup (d : Draft) : Option Draft :=
  match d.outer with
  | [] => none
  | g :: outer =>
    some { d with
      extended := g.extended
      alternatives := g.alternatives
      parts := .group g.kind d.body :: g.parts
      outer }

/-- Reads what follows an opening parenthesis, up to where the group's content starts; settings may
also stand alone between parentheses. -/
def readGroup (d : Draft) (s : List Char) : Option (Draft × List Char) :=
  match skip d.extended s with
  | '?' :: '=' :: _ | '?' :: '!' :: _ | '?' :: '<' :: '=' :: _ | '?' :: '<' :: '!' :: _ => none
  | '?' :: 'P' :: '<' :: r | '?' :: '<' :: r =>
    match readName r with
    | some (name, rest) =>
      if d.names.contains name then none
      else some ({ d with names := name :: d.names }.openGroup .capture, rest)
    | none => none
  | '?' :: r =>
    match readSettings [] false false r with
    | some (settings, ':' :: rest) => some (d.openGroup (.plain settings), rest)
    | some (settings, _ :: rest) =>
      if settings.isEmpty then none
      else
        let extended := (settingOf .extended settings).getD d.extended
        some ({ d with extended }.add (.settings settings), rest)
    | _ => none
  | rest => some (d.openGroup .capture, rest)

/-- Reads one part, or what changes the last one. -/
def readStep (d : Draft) : List Char → Option (Draft × List Char)
  | [] => none
  | '(' :: r => d.readGroup r
  | ')' :: r => d.closeGroup.map fun d => (d, r)
  | '|' :: r => some (d.startAlternative, r)
  | '[' :: r => (readBracketed d.extended r).map fun (node, rest) => (d.add node, rest)
  | '?' :: r =>
    let (greedy, rest) := readGreedy r
    (d.repeatLast 0 (some 1) greedy).map fun d => (d, rest)
  | '*' :: r =>
    let (greedy, rest) := readGreedy r
    (d.repeatLast 0 none greedy).map fun d => (d, rest)
  | '+' :: r =>
    let (greedy, rest) := readGreedy r
    (d.repeatLast 1 none greedy).map fun d => (d, rest)
  | '{' :: r => do
    let ((min, max), rest) ← readBounds d.extended (skip d.extended r)
    let (greedy, rest) := readGreedy (skip d.extended rest)
    return (← d.repeatLast min max greedy, rest)
  | '\\' :: r => (readEscape d.extended r).map fun (node, rest) => (d.add node, rest)
  | '.' :: r => some (d.add .dot, r)
  | '^' :: r => some (d.add (.place .lineStart), r)
  | '$' :: r => some (d.add (.place .lineEnd), r)
  | c :: r => some (d.add (.literal { char := c }), r)

/-- Reads all parts. -/
def readAll (d : Draft) (s : List Char) : Option Draft :=
  match skip d.extended s with
  | [] => some d
  | start =>
    match d.readStep start with
    | some (next, rest) => if rest.length < s.length then next.readAll rest else none
    | none => none
  termination_by s.length

end Draft

/-- How deep a pattern may nest. -/
def maxDepth : Nat := 250

/-- The pattern that a text writes. -/
def Node.ofText? (text : List Char) : Option Node := do
  let d ← ({} : Draft).readAll text
  if d.outer.isEmpty && d.body.depth ≤ maxDepth then return d.body else none

end CredentialPolicy.Pattern
