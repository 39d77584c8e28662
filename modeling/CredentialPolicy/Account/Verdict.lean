import CredentialPolicy.Account.Snapshot
import CredentialPolicy.Pattern.Matcher
import CredentialPolicy.Policy.Registry
import CredentialPolicy.PolicyError
import CredentialPolicy.Text.Search
import CredentialPolicy.Unicode.Case

/-!
Verdicts on usernames.

A rule checks a username gate by gate and stops at the first one that it fails: length, letter case,
pattern, forbidden words, forbidden attributes, forbidden starts, forbidden ends. Each gate is a
function of its own; `AccountRule.verdict` takes them in order. Some policies accept a username if
every account rule of theirs that resolves does.
-/

set_option autoImplicit false

namespace CredentialPolicy

open Text (endsText occursIn startsText)

/-- A limit on lengths; a number that is not positive sets none. -/
def lengthLimit? (i : Int32) : Option Nat := if 0 < i.toInt then some i.toInt.toNat else none

namespace AccountRule

/-- The length must lie within the limits. -/
def lengthViolation? (r : AccountRule) (username : String) : Option AccountViolation :=
  ((lengthLimit? r.minLength).filter (username.length < ·)).map .tooShort <|>
  ((lengthLimit? r.maxLength).filter (· < username.length)).map .tooLong

/-- Letters must be of the case that the rule asks for, if it asks for one. -/
def caseViolation? (r : AccountRule) (username : String) : Option AccountViolation :=
  if r.allUppercase && username.toList.any Unicode.isLowercase then some .notAllUppercase
  else if r.allLowercase && username.toList.any Unicode.isUppercase then some .notAllLowercase
  else none

/-- The pattern that counts: an empty one does not. -/
def effectivePattern? (r : AccountRule) : Option String := r.pattern.filter fun p => ! p.isEmpty

/-- The pattern must be usable and match the whole username. -/
def patternError? (r : AccountRule) (username : String) : Option PolicyError :=
  r.effectivePattern?.bind fun pattern =>
    match Pattern.isMatch? pattern username with
    | none => some .malformedPattern
    | some true => none
    | some false => some (.violation (.patternMismatch pattern))

/-- No forbidden word may occur; the smallest one is reported. -/
def wordViolation? (r : AccountRule) (username : String) : Option AccountViolation :=
  (r.forbiddenWords.toList.find? fun w => occursIn w.toList username.toList).map .forbiddenWord

/-- No value of a forbidden attribute may occur, unless it is empty. -/
def schemaViolation? (r : AccountRule) (user : UserSnapshot) : Option AccountViolation :=
  (r.forbiddenSchemas.toList.find? fun schema =>
    (user.attribute? schema).any fun value =>
      ! value.isEmpty && occursIn value.toList user.username.toList).map .forbiddenSchema

/-- The username may have no forbidden start. -/
def startViolation? (r : AccountRule) (username : String) : Option AccountViolation :=
  (r.forbiddenStarts.toList.find? fun s => startsText s username).map .forbiddenStart

/-- The username may have no forbidden end. -/
def endViolation? (r : AccountRule) (username : String) : Option AccountViolation :=
  (r.forbiddenEnds.toList.find? fun s => endsText s username).map .forbiddenEnd

/-- The first gate that a user fails. -/
def failure? (r : AccountRule) (user : UserSnapshot) : Option PolicyError :=
  (r.lengthViolation? user.username).map .violation <|>
  (r.caseViolation? user.username).map .violation <|>
  r.patternError? user.username <|>
  (r.wordViolation? user.username).map .violation <|>
  (r.schemaViolation? user).map .violation <|>
  (r.startViolation? user.username).map .violation <|>
  (r.endViolation? user.username).map .violation

/-- Whether a rule accepts a user. -/
def verdict (r : AccountRule) (user : UserSnapshot) : Except PolicyError Unit :=
  match r.failure? user with
  | some e => .error e
  | none => .ok ()

end AccountRule

/-- The rule that usernames are checked against, if one has been set. -/
structure AccountEvaluator where
  /-- The rule. -/
  rule : Option AccountRule := none
  deriving DecidableEq, Inhabited

namespace AccountEvaluator

/-- Sets the rule, which must be given and be an account rule. -/
def configure (_ : AccountEvaluator) (rule : Option Rule) : Except PolicyError AccountEvaluator :=
  match rule with
  | none => .error (.missing .accountRule)
  | some (.account r) => .ok ⟨some r⟩
  | some (.password r) => .error (.notAnAccountRule (Rule.password r).kind)

/-- Checks a user. -/
def enforce (ev : AccountEvaluator) (user : UserSnapshot) : Except PolicyError Unit :=
  match ev.rule with
  | none => .error (.missing .accountRule)
  | some r => r.verdict user

end AccountEvaluator

/-- Checks a user against rules one after the other, with one evaluator that keeps the last one.
Rules of the other kind are passed over. -/
def enforceRules (user : UserSnapshot) (ev : AccountEvaluator) : List Rule → Except PolicyError Unit
  | [] => .ok ()
  | .password _ :: rest => enforceRules user ev rest
  | .account r :: rest => do
    let ev ← ev.configure (some (.account r))
    ev.enforce user
    enforceRules user ev rest

/-- Checks a user against every account rule of the given policies that resolves; an absent list is
refused. -/
def enforcePolicies (registry : Registry) (policies : Option (List AccountPolicy))
    (user : UserSnapshot) : Except PolicyError Unit :=
  match policies with
  | none => .error (.missing .accountPolicies)
  | some ps => enforceRules user {} (ps.flatMap registry.accountRules)

end CredentialPolicy
