import CredentialPolicy.Pattern.Expr
import CredentialPolicy.Pattern.Node
import CredentialPolicy.Unicode.Fold
import CredentialPolicy.Unicode.Property

/-!
The meaning of a pattern: the expression that it stands for.

Settings take effect from where they stand to the end of the parentheses that they stand in, across
bars. Without the switch `unicode` classes hold ASCII characters only; what would go beyond these, a
dot or a complement for instance, has no meaning then, for it could match a part of a character.
-/

set_option autoImplicit false

namespace CredentialPolicy.Pattern

open Unicode (CharSet)

/-- The switches that bear on the meaning of what follows. -/
structure Context where
  /-- Letter case does not matter. -/
  caseless : Bool := false
  /-- Places at the ends of lines count. -/
  multiline : Bool := false
  /-- The dot stands for line feeds too. -/
  dotAll : Bool := false
  /-- Repetitions are lazy, unless they are marked. -/
  lazy : Bool := false
  /-- Characters are those of all scripts. -/
  unicode : Bool := true
  /-- Lines may end with a carriage return. -/
  crlf : Bool := false

namespace Context

/-- Puts one setting into effect. -/
def set (c : Context) (setting : Setting) : Context :=
  match setting.1 with
  | .caseless => { c with caseless := setting.2 }
  | .multiline => { c with multiline := setting.2 }
  | .dotAll => { c with dotAll := setting.2 }
  | .lazy => { c with lazy := setting.2 }
  | .unicode => { c with unicode := setting.2 }
  | .crlf => { c with crlf := setting.2 }
  | .extended => c

/-- Puts several settings into effect. -/
def setAll (c : Context) (settings : List Setting) : Context := settings.foldl set c

/-- What counts as a character of a word. -/
def wordKind (c : Context) : WordKind := if c.unicode then .unicode else .ascii

/-! ## Sets of characters -/

/-- The members and, where letter case does not matter, those that differ from them in case. -/
def folded (c : Context) (s : CharSet) : CharSet :=
  if c.caseless then if c.unicode then s.fold else s.foldAscii else s

/-- The set or the characters outside of it; without the switch `unicode` there is no complement. -/
def complemented? (c : Context) (negated : Bool) (s : CharSet) : Option CharSet :=
  if negated then if c.unicode then some s.compl else none else some s

/-- The character that a literal stands for between brackets. -/
def charOf? (c : Context) (l : Literal) : Option Char :=
  if c.unicode ∨ l.char.toNat < 0x80 then some l.char else none

/-- The union of some ranges of code points. -/
def setOfRanges (ranges : List (Nat × Nat)) : CharSet :=
  ranges.foldl (fun s r => s ∪ .ofCodes r.1 r.2) ∅

/-- A class with a name of one letter. -/
def shortSet (c : Context) (k : ShortClass) : CharSet :=
  match k, c.unicode with
  | .digit, true => Unicode.digitSet
  | .blank, true => Unicode.blankSet
  | .word, true => Unicode.wordSet
  | .digit, false => setOfRanges AsciiClass.digit.ranges
  | .blank, false => setOfRanges AsciiClass.space.ranges
  | .word, false => setOfRanges AsciiClass.word.ranges

/-- A class named after a property, if the name is known. -/
def namedSet? (c : Context) (k : NamedClass) : Option CharSet := do
  if ! c.unicode then none
  let s ← match k.value with
    | some value => Unicode.setOfValue? k.name value
    | none => Unicode.setOfName? k.name
  c.complemented? k.negated (c.folded s)

/-- The result of an operation on two sets. -/
def applyOp : SetOp → CharSet → CharSet → CharSet
  | .intersection, s, t => s ∩ t
  | .difference, s, t => s \ t
  | .symmetricDifference, s, t => s.symmDiff t

mutual

/-- The characters that an item between brackets stands for. -/
def itemSet? (c : Context) : ClassItem → Option CharSet
  | .literal l => (c.charOf? l).map .single
  | .range first last => do
    return .ofCodes (← c.charOf? first).toNat (← c.charOf? last).toNat
  | .ascii k negated => c.complemented? negated (c.folded (setOfRanges k.ranges))
  | .named k => c.namedSet? k
  | .short k negated => c.complemented? negated (c.shortSet k)
  | .nested negated set => do c.complemented? negated (c.folded (← c.classSet? set))

/-- The characters that what stands between brackets stands for. -/
def classSet? (c : Context) : ClassSet → Option CharSet
  | .items items => c.itemsSet? items
  | .combined op left right => do
    return applyOp op (c.folded (← c.classSet? left)) (c.folded (← c.classSet? right))

/-- The characters that any of some items stands for. -/
def itemsSet? (c : Context) : List ClassItem → Option CharSet
  | [] => some ∅
  | item :: r => do return (← c.itemSet? item) ∪ (← c.itemsSet? r)

end

/-! ## Expressions -/

/-- A character that stands for itself. Two hexadecimal digits write a byte where the switch
`unicode` is off, and a byte beyond ASCII is no character. -/
def literal? (c : Context) (l : Literal) : Option Expr :=
  if ! c.unicode ∧ l.byte ∧ 0x80 ≤ l.char.toNat then none
  else
    let s := c.folded (.single l.char)
    some (if s = .single l.char then .text [l.char] else .oneOf s)

/-- Any character. -/
def dot? (c : Context) : Option Expr :=
  if ! c.unicode then none
  else if c.dotAll then some (.oneOf .all)
  else if c.crlf then some (.oneOf (CharSet.ofList ['\n', '\r']).compl)
  else some (.oneOf (CharSet.single '\n').compl)

/-- A condition on a place. -/
def lookOf (c : Context) : Place → Look
  | .lineStart => if c.multiline then if c.crlf then .crlfLineStart else .lineStart else .textStart
  | .lineEnd => if c.multiline then if c.crlf then .crlfLineEnd else .lineEnd else .textEnd
  | .textStart => .textStart
  | .textEnd => .textEnd
  | .wordBoundary => .wordBoundary c.wordKind
  | .notWordBoundary => .notWordBoundary c.wordKind
  | .wordStart => .wordStart c.wordKind
  | .wordEnd => .wordEnd c.wordKind
  | .wordStartHalf => .wordStartHalf c.wordKind
  | .wordEndHalf => .wordEndHalf c.wordKind

end Context

mutual

/-- What a part stands for, and the switches for what follows it. -/
def Node.expr? (c : Context) : Node → Option (Expr × Context)
  | .settings settings => some (.text [], c.setAll settings)
  | .literal l => (c.literal? l).map (·, c)
  | .dot => c.dot?.map (·, c)
  | .place p => some (.look (c.lookOf p), c)
  | .named k => (c.namedSet? k).map fun s => (.oneOf s, c)
  | .short k negated => (c.complemented? negated (c.shortSet k)).map fun s => (.oneOf s, c)
  | .bracketed negated set => do
    let s ← c.complemented? negated (c.folded (← c.classSet? set))
    return (.oneOf s, c)
  | .repetition node min max greedy => do
    let (e, c) ← node.expr? c
    return (.repeated e min max (greedy != c.lazy), c)
  | .group .capture node => do return (.group (← node.expr? c).1, c)
  | .group (.plain settings) node => do return ((← node.expr? (c.setAll settings)).1, c)
  | .alternation nodes => (exprsOf? c nodes).map fun (es, c) => (.choice es, c)
  | .concat nodes => (exprsOf? c nodes).map fun (es, c) => (.concat es, c)

/-- What some parts stand for, each under the switches that the one before leaves. -/
def exprsOf? (c : Context) : List Node → Option (List Expr × Context)
  | [] => some ([], c)
  | node :: r => do
    let (e, c) ← node.expr? c
    let (es, c) ← exprsOf? c r
    return (e :: es, c)

end

end CredentialPolicy.Pattern
