import CredentialPolicy.Text.Digits
import CredentialPolicy.Text.Search
import CredentialPolicy.Unicode.Blank
import CredentialPolicy.Unicode.Property

/-!
Filters for the log.

A filter is a list of directives with commas between them. A directive gives a level for everything,
or for what comes from a target, or for what happens within spans, which are given by their name, by
fields they have, or by both. Directives without meaning are passed over, and a filter without any
lets errors through.

Of two directives for the same thing the later one counts. The more specific a directive is the
earlier it stands; those that depend on the span come last.
-/

set_option autoImplicit false

namespace CredentialPolicy

open Text (cutAt? natOfDigits? pieces)
open Unicode (CharSet GeneralCategory)

/-! ## Levels -/

/-- How much is let through: each level lets through all that the ones before it do. -/
inductive LogLevel where
  | off
  | error
  | warn
  | info
  | debug
  | trace
  deriving DecidableEq, Repr, Inhabited

namespace LogLevel

/-- All levels, each at the place of its number. -/
def all : List LogLevel := [off, error, warn, info, debug, trace]

/-- The name of a level. -/
def name : LogLevel → String
  | off => "off"
  | error => "error"
  | warn => "warn"
  | info => "info"
  | debug => "debug"
  | trace => "trace"

/-- The level with a number. -/
def ofNumber? (digits : List Char) : Option LogLevel :=
  (natOfDigits? 10 (match digits with
    | '+' :: r => r
    | _ => digits)).bind (all[·]?)

/-- The level that a text gives by its number, or by its name in any letter case. -/
def ofText? (text : List Char) : Option LogLevel :=
  (ofNumber? text).or (all.find? fun l => l.name.toList = text.map Char.toLower)

end LogLevel

/-! ## Directives -/

/-- A field that a span has, with some value if one is given. -/
structure SpanField where
  /-- The name of the field. -/
  name : String
  /-- Its value. -/
  value : Option String
  deriving DecidableEq, Repr

/-- What a directive lets through, and from where. -/
structure LogDirective where
  /-- Where it comes from. -/
  target : Option String := none
  /-- The span in which it happens. -/
  span : Option String := none
  /-- The fields that the span has. -/
  fields : List SpanField := []
  /-- How much is let through. -/
  level : LogLevel := .error
  deriving DecidableEq, Repr, Inhabited

namespace SpanField

/-- The field that a text gives. -/
def ofText? (text : List Char) : Option SpanField :=
  match pieces '=' text with
  | [] | [[]] => none
  | [name] => some ⟨String.ofList name, none⟩
  | name :: value :: _ => some ⟨String.ofList name, some (String.ofList value)⟩

/-- The field as a text. -/
def toText (f : SpanField) : String :=
  match f.value with
  | some value => s!"{f.name}={value}"
  | none => f.name

end SpanField

namespace LogDirective

/-- The characters of letters and numbers. -/
def alphanumericSet : CharSet :=
  Unicode.alphabeticSet ∪ GeneralCategory.setOfAll [.decimalNumber, .letterNumber, .otherNumber]

/-- Whether a target can start with a character. -/
def canStart (c : Char) : Bool := c = '-' || c = ':' || c = '_' || alphanumericSet.contains c

/-- The level that a text behind an equals sign gives: everything, if there is none. -/
def givenLevel? (text : List Char) : Option LogLevel :=
  if text.isEmpty then some .trace else LogLevel.ofText? text

/-- The level at the end of a directive for spans: everything, unless one is given. -/
def lastLevel? : List Char → Option LogLevel
  | [] => some .trace
  | '=' :: text => givenLevel? text
  | _ => none

/-- A directive for spans, from what lies behind the opening bracket. -/
def ofSpan? (target : Option String) (s : List Char) : Option LogDirective :=
  let name := s.takeWhile fun c => c ≠ ']' && c ≠ '{'
  match s.dropWhile fun c => c ≠ ']' && c ≠ '{' with
  | ']' :: rest => do
    return { target, span := some (String.ofList name), level := ← lastLevel? rest }
  | '{' :: rest =>
    match cutAt? ['}'] rest with
    | some (field, ']' :: rest) => do
      let field ← SpanField.ofText? field
      let span := if name.isEmpty then none else some (String.ofList name)
      return { target, span, fields := [field], level := ← lastLevel? rest }
    | _ => none
  | _ => none

/-- The directive that a text gives. The blanks around it do not count when the end of its target is
looked for, but target and level are then cut from the text as it stands, blanks included. -/
def ofText? (given : List Char) : Option LogDirective :=
  let text := Unicode.trim given
  let head := text.takeWhile fun c => c ≠ '=' && c ≠ '['
  let target := some (String.ofList (given.take head.length))
  match head, text.drop head.length with
  | [], '[' :: rest => ofSpan? none rest
  | [], _ => none
  | c :: _, rest =>
    if ! canStart c then none
    else
      match rest with
      | '[' :: rest => ofSpan? target rest
      | [] =>
        match LogLevel.ofText? given with
        | some level => some { level }
        | none => some { target := some (String.ofList given), level := .trace }
      | _ => do return { target, level := ← givenLevel? (given.drop (head.length + 1)) }

/-- The directive as a text. -/
def toText (d : LogDirective) : String :=
  let fields := if d.fields.isEmpty then ""
    else "\x7b" ++ ",".intercalate (d.fields.map SpanField.toText) ++ "\x7d"
  let span := if d.span.isNone && d.fields.isEmpty then ""
    else "[" ++ d.span.getD "" ++ fields ++ "]"
  let place := d.target.getD "" ++ span
  if d.target.isNone && span = "" then d.level.name else s!"{place}={d.level.name}"

/-- Whether a directive depends on spans. -/
def isSpanned (d : LogDirective) : Bool := d.span.isSome || ! d.fields.isEmpty

/-- Whether what a directive needs to know of an event is known before the event happens. -/
def isFixed (d : LogDirective) : Bool := d.span.isNone && d.fields.all (·.value.isNone)

/-- The size of a target, larger than that of no target. -/
def targetSize (d : LogDirective) : Nat :=
  match d.target with
  | some t => t.utf8ByteSize + 1
  | none => 0

/-- The order of directives from the least specific one; equal are those for the same thing. -/
def order (d e : LogDirective) : Ordering :=
  (compare d.targetSize e.targetSize).then <|
  (compare d.span.isSome.toNat e.span.isSome.toNat).then <|
  (compare d.fields.length e.fields.length).then <|
  (compare (d.target.getD "") (e.target.getD "")).then <|
  (compare (d.span.getD "") (e.span.getD "")).then <|
  compare (",".intercalate (d.fields.map SpanField.toText))
    (",".intercalate (e.fields.map SpanField.toText))

/-- Puts a directive before the first less specific one, in place of one for the same thing. -/
def insert (d : LogDirective) : List LogDirective → List LogDirective
  | [] => [d]
  | e :: r =>
    match order d e with
    | .gt => d :: e :: r
    | .eq => d :: r
    | .lt => e :: insert d r

/-- Directives from the most specific one on, each for something else. -/
def sorted (ds : List LogDirective) : List LogDirective := ds.foldl (fun l d => insert d l) []

end LogDirective

/-! ## Filters -/

/-- What is let through. -/
structure LogFilter where
  /-- The directives in the order in which they are tried. -/
  directives : List LogDirective
  deriving DecidableEq, Repr

namespace LogFilter

/-- The filter that a text gives. -/
def ofText (text : String) : LogFilter :=
  let ds := ((pieces ',' text.toList).filter (! ·.isEmpty)).filterMap LogDirective.ofText?
  let spanned := ds.filter (·.isSpanned)
  let fixed := ds.filter (! ·.isSpanned) ++ spanned.filter (·.isFixed)
  let all := LogDirective.sorted fixed ++ LogDirective.sorted spanned
  ⟨if all.isEmpty then [{}] else all⟩

/-- The filter as a text. -/
def toText (f : LogFilter) : String := ",".intercalate (f.directives.map LogDirective.toText)

end LogFilter

end CredentialPolicy
