import CredentialPolicy.Rule.Basic

/-!
Why a policy operation gives no result.

The causes are kept apart; `PolicyError.category` groups them the way callers tell them apart, and
`PolicyError.message` is the only place that words them.
-/

set_option autoImplicit false

namespace CredentialPolicy

/-- The first check that a username fails, with what it ran into. -/
inductive AccountViolation where
  /-- Fewer characters than the least length. -/
  | tooShort (min : Nat)
  /-- More characters than the greatest length. -/
  | tooLong (max : Nat)
  /-- A lowercase character where none is allowed. -/
  | notAllUppercase
  /-- An uppercase character where none is allowed. -/
  | notAllLowercase
  /-- The pattern does not match the whole username. -/
  | patternMismatch (pattern : String)
  /-- A forbidden word occurs. -/
  | forbiddenWord (word : String)
  /-- The value of a forbidden attribute occurs. -/
  | forbiddenSchema (schema : String)
  /-- A forbidden start. -/
  | forbiddenStart (start : String)
  /-- A forbidden end. -/
  | forbiddenEnd (ending : String)
  deriving DecidableEq, Repr, Inhabited

namespace AccountViolation

/-- What a user is told. -/
def message : AccountViolation → String
  | tooShort min => s!"username is shorter than {min} characters"
  | tooLong max => s!"username is longer than {max} characters"
  | notAllUppercase => "username must be all uppercase"
  | notAllLowercase => "username must be all lowercase"
  | patternMismatch pattern => s!"username does not match pattern {pattern}"
  | forbiddenWord word => s!"username contains forbidden word {word}"
  | forbiddenSchema schema => s!"username contains the value of attribute {schema}"
  | forbiddenStart start => s!"username starts with forbidden prefix {start}"
  | forbiddenEnd ending => s!"username ends with forbidden suffix {ending}"

end AccountViolation

/-- An argument that a caller may fail to give. -/
inductive Argument where
  | passwordRules
  | passwordPolicies
  | accountRule
  | accountPolicies
  deriving DecidableEq, Repr, Inhabited

/-- The argument's name in messages. -/
def Argument.label : Argument → String
  | passwordRules => "password rule configurations"
  | passwordPolicies => "password policies"
  | accountRule => "account rule configuration"
  | accountPolicies => "account policies"

/-- A part of a password, drawn from a pool of its own. -/
inductive Ingredient where
  | uppercase
  | lowercase
  | letter
  | digit
  | special
  | filler
  deriving DecidableEq, Repr, Inhabited

/-- The ingredient's name in messages. -/
def Ingredient.label : Ingredient → String
  | uppercase => "uppercase"
  | lowercase => "lowercase"
  | letter => "letter"
  | digit => "digit"
  | special => "special"
  | filler => "filler"

/-- Why a policy operation gives no result. -/
inductive PolicyError where
  /-- An argument is absent. -/
  | missing (argument : Argument)
  /-- A rule of another kind was given where an account rule is needed. -/
  | notAnAccountRule (kind : RuleKind)
  /-- Special characters are asked for and no character counts as special. -/
  | noSpecialsConfigured
  /-- An ingredient is asked for and all its characters are illegal. -/
  | allIllegal (ingredient : Ingredient)
  /-- The length has to exceed the required characters and every letter is illegal. -/
  | noFiller
  /-- A draw from an empty pool. -/
  | nothingToDraw (ingredient : Ingredient)
  /-- The required characters do not fit in the greatest length. -/
  | requiredExceedMaximum (required maximum : Nat)
  /-- Every candidate password was rejected. -/
  | attemptsExhausted (attempts : Nat)
  /-- The pattern of an account rule is malformed. -/
  | malformedPattern
  /-- The username breaks an account rule. -/
  | violation (cause : AccountViolation)
  deriving DecidableEq, Repr, Inhabited

namespace PolicyError

/-- The groups of errors that callers tell apart. -/
inductive Category where
  | missingInput
  | invalidArgument
  | capacityExceeded
  | patternSyntax
  | accountViolation
  deriving DecidableEq, Repr, Inhabited

/-- The group of an error. -/
def category : PolicyError → Category
  | missing _ => .missingInput
  | notAnAccountRule _ | noSpecialsConfigured | allIllegal _ | noFiller | nothingToDraw _ =>
    .invalidArgument
  | requiredExceedMaximum _ _ | attemptsExhausted _ => .capacityExceeded
  | malformedPattern => .patternSyntax
  | violation _ => .accountViolation

/-- Whether the error is the expected outcome for a bad username. -/
def isViolation (e : PolicyError) : Bool := e.category = .accountViolation

/-- Whether the error comes from rules that cannot be used. -/
def isConfigurationError (e : PolicyError) : Bool :=
  match e.category with
  | .invalidArgument | .capacityExceeded | .patternSyntax => true
  | .missingInput | .accountViolation => false

/-- The violation, if the error is one. -/
def violation? : PolicyError → Option AccountViolation
  | violation cause => some cause
  | _ => none

/-- The cause in words, without its group. -/
def detail : PolicyError → String
  | missing argument => s!"{argument.label} must not be null"
  | notAnAccountRule kind => s!"{kind.label} configuration cannot drive an account rule"
  | noSpecialsConfigured => "special characters are required but none are configured"
  | allIllegal ingredient => s!"every {ingredient.label} character is illegal"
  | noFiller => "no filler characters are available"
  | nothingToDraw ingredient => s!"no {ingredient.label} characters available"
  | requiredExceedMaximum required maximum =>
    s!"{required} required characters exceed the maximum length of {maximum}"
  | attemptsExhausted attempts => s!"no acceptable password after {attempts} attempts"
  | malformedPattern => ""
  | violation cause => cause.message

/-- What a user is told. The reason why a pattern is malformed is left out. -/
def message (e : PolicyError) : String :=
  match e.category with
  | .missingInput => e.detail
  | .invalidArgument => s!"invalid argument: {e.detail}"
  | .capacityExceeded => s!"capacity exceeded: {e.detail}"
  | .patternSyntax => "invalid pattern"
  | .accountViolation => s!"account policy violation: {e.detail}"

end PolicyError

end CredentialPolicy
