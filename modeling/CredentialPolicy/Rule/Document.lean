import CredentialPolicy.Rule.Basic
import CredentialPolicy.Document.Record

/-!
Rules as documents.

A rule is a record whose field `kind` says which kind of rule it is; the other fields are those of
the kind, each with its default, in any order. It may also be a list of the kind and the values of
the fields in order, of which the last ones may be missing. Fields of no meaning are passed over,
but a rule's document must be readable throughout.
-/

set_option autoImplicit false

namespace CredentialPolicy

open Document

namespace PasswordRule

/-- The names of the fields, in order. -/
def fieldNames : List String :=
  ["name", "min_length", "max_length", "alphabetical", "uppercase", "lowercase", "digit", "special",
    "special_chars", "illegal_chars", "repeat_same", "username_allowed", "words_not_permitted",
    "schemas_not_permitted"]

/-- The rule with the given fields. -/
def ofFields? (f : Fields) : Option PasswordRule := do
  let name ← f.withDefault "name" Value.text? ""
  let minLength ← f.withDefault "min_length" Value.int32? 0
  let maxLength ← f.withDefault "max_length" Value.int32? 0
  let letters ← f.withDefault "alphabetical" Value.int32? 0
  let uppercase ← f.withDefault "uppercase" Value.int32? 0
  let lowercase ← f.withDefault "lowercase" Value.int32? 0
  let digits ← f.withDefault "digit" Value.int32? 0
  let specials ← f.withDefault "special" Value.int32? 0
  let specialChars ← f.withDefault "special_chars" Value.charSet? ∅
  let illegalChars ← f.withDefault "illegal_chars" Value.charSet? ∅
  let repeatSame ← f.withDefault "repeat_same" Value.int32? 0
  let usernameAllowed ← f.withDefault "username_allowed" Value.bool? false
  let forbiddenWords ← f.withDefault "words_not_permitted" Value.textSet? ∅
  let forbiddenSchemas ← f.withDefault "schemas_not_permitted" Value.textSet? ∅
  return { name, minLength, maxLength, letters, uppercase, lowercase, digits, specials,
           specialChars, illegalChars, repeatSame, usernameAllowed, forbiddenWords,
           forbiddenSchemas }

/-- The rule that a document describes. -/
def ofValue? (v : Value) : Option PasswordRule :=
  (Fields.ofValue? .refused fieldNames v).bind ofFields?

/-- The fields of the rule, in order. -/
def toFields (r : PasswordRule) : List (String × Value) :=
  [("name", .text r.name), ("min_length", .ofInt32 r.minLength),
    ("max_length", .ofInt32 r.maxLength),
    ("alphabetical", .ofInt32 r.letters), ("uppercase", .ofInt32 r.uppercase),
    ("lowercase", .ofInt32 r.lowercase), ("digit", .ofInt32 r.digits),
    ("special", .ofInt32 r.specials), ("special_chars", .ofCharSet r.specialChars),
    ("illegal_chars", .ofCharSet r.illegalChars), ("repeat_same", .ofInt32 r.repeatSame),
    ("username_allowed", .bool r.usernameAllowed),
    ("words_not_permitted", .ofTextSet r.forbiddenWords),
    ("schemas_not_permitted", .ofTextSet r.forbiddenSchemas)]

/-- The rule as a record. -/
def toValue (r : PasswordRule) : Value := .record r.toFields

end PasswordRule

namespace AccountRule

/-- The names of the fields, in order. -/
def fieldNames : List String :=
  ["name", "min_length", "max_length", "pattern", "all_upper_case", "all_lower_case",
    "words_not_permitted", "schemas_not_permitted", "prefixes_not_permitted",
    "suffixes_not_permitted"]

/-- A pattern that may be absent. -/
def pattern? : Value → Option (Option String)
  | .null => some none
  | v => v.text?.map some

/-- The rule with the given fields. -/
def ofFields? (f : Fields) : Option AccountRule := do
  let name ← f.withDefault "name" Value.text? ""
  let minLength ← f.withDefault "min_length" Value.int32? 0
  let maxLength ← f.withDefault "max_length" Value.int32? 0
  let pattern ← f.withDefault "pattern" pattern? none
  let allUppercase ← f.withDefault "all_upper_case" Value.bool? false
  let allLowercase ← f.withDefault "all_lower_case" Value.bool? false
  let forbiddenWords ← f.withDefault "words_not_permitted" Value.textSet? ∅
  let forbiddenSchemas ← f.withDefault "schemas_not_permitted" Value.textSet? ∅
  let forbiddenStarts ← f.withDefault "prefixes_not_permitted" Value.textSet? ∅
  let forbiddenEnds ← f.withDefault "suffixes_not_permitted" Value.textSet? ∅
  return { name, minLength, maxLength, pattern, allUppercase, allLowercase, forbiddenWords,
           forbiddenSchemas, forbiddenStarts, forbiddenEnds }

/-- The rule that a document describes. -/
def ofValue? (v : Value) : Option AccountRule :=
  (Fields.ofValue? .refused fieldNames v).bind ofFields?

/-- The fields of the rule, in order. -/
def toFields (r : AccountRule) : List (String × Value) :=
  [("name", .text r.name), ("min_length", .ofInt32 r.minLength),
    ("max_length", .ofInt32 r.maxLength),
    ("pattern", match r.pattern with
      | some p => .text p
      | none => .null),
    ("all_upper_case", .bool r.allUppercase), ("all_lower_case", .bool r.allLowercase),
    ("words_not_permitted", .ofTextSet r.forbiddenWords),
    ("schemas_not_permitted", .ofTextSet r.forbiddenSchemas),
    ("prefixes_not_permitted", .ofTextSet r.forbiddenStarts),
    ("suffixes_not_permitted", .ofTextSet r.forbiddenEnds)]

/-- The rule as a record. -/
def toValue (r : AccountRule) : Value := .record r.toFields

end AccountRule

namespace Rule

/-- The kind with a given tag. -/
def kindOfTag? (tag : String) : Option RuleKind := RuleKind.all.find? (·.bodyTag = tag)

/-- The kind that a document gives, and the document of the fields. -/
def kindAndFields? : Value → Option (RuleKind × Value)
  | .record fields => do
    let tag ← (← Fields.ofValue? .refused ["kind"] (.record fields)).required "kind" Value.text?
    return (← kindOfTag? tag, .record fields)
  | .list (tag :: rest) => do return (← kindOfTag? (← tag.text?), .list rest)
  | _ => none

/-- The rule that a document describes. -/
def ofValue? (v : Value) : Option Rule :=
  if v.readable then
    match kindAndFields? v with
    | some (.password, fields) => (PasswordRule.ofValue? fields).map .password
    | some (.account, fields) => (AccountRule.ofValue? fields).map .account
    | none => none
  else none

/-- The rule as a record, its kind first. -/
def toValue (r : Rule) : Value :=
  .record (("kind", .text r.kind.bodyTag) :: match r with
    | .password p => p.toFields
    | .account a => a.toFields)

end Rule

end CredentialPolicy
