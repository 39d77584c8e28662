import CredentialPolicy.Rule.Basic
import CredentialPolicy.Text.Uuid

/-!
Policies: named lists of stored rules.

A stored rule is the text of a rule in some format, together with the tag of the engine that reads
the format and the kind of rule that it is declared to be. A policy keeps its rules in the order in
which they were added and takes no rule twice. What both sorts of policies do with their rules is
said once, for every type of policies whose rules can be replaced.
-/

set_option autoImplicit false

namespace CredentialPolicy

/-- A rule as it is stored. -/
structure StoredRule where
  /-- The name under which it is stored. -/
  key : String
  /-- The tag of the engine that reads the body. -/
  engine : String
  /-- The declared kind. -/
  kind : RuleKind
  /-- The text of the rule. -/
  body : String
  deriving DecidableEq, Repr, Inhabited

namespace StoredRule

/-- Whether a rule is new to a list of rules. -/
def isNew (rule : StoredRule) (rules : List StoredRule) : Bool := ! rules.contains rule

end StoredRule

/-- A policy on passwords. -/
structure PasswordPolicy where
  /-- Identifier. -/
  id : Text.Uuid
  /-- Name. -/
  name : String
  /-- Whether there may be no password. -/
  allowNullPassword : Bool := false
  /-- How many former passwords are remembered. -/
  historyLength : Int32 := 0
  /-- The rules, in order. -/
  rules : List StoredRule := []
  deriving DecidableEq, Inhabited

/-- The policy without rules, under an identifier. -/
def PasswordPolicy.empty (id : Text.Uuid) (name : String) : PasswordPolicy := { id, name }

/-- A policy on accounts. -/
structure AccountPolicy where
  /-- Identifier. -/
  id : Text.Uuid
  /-- Name. -/
  name : String
  /-- Whether a suspension reaches other systems. -/
  propagateSuspension : Bool := false
  /-- How many failed authentications are tolerated. -/
  maxAuthenticationAttempts : Int32 := 0
  /-- The rules, in order. -/
  rules : List StoredRule := []
  deriving DecidableEq, Inhabited

/-- The policy without rules, under an identifier. -/
def AccountPolicy.empty (id : Text.Uuid) (name : String) : AccountPolicy := { id, name }

/-- A call that attaches a rule to a policy. -/
inductive Attachment where
  /-- Adds the rule in place and answers whether the policy was without it. -/
  | add (rule : StoredRule)
  /-- Gives the policy with the rule and answers nothing. -/
  | withRule (rule : StoredRule)
  deriving DecidableEq, Repr

namespace Attachment

/-- The rule that is attached. -/
def rule : Attachment → StoredRule
  | add rule | withRule rule => rule

end Attachment

/-- The policies of one sort, as far as their rules go. -/
class Policy (π : Type) where
  /-- The rules, in order. -/
  rules : π → List StoredRule
  /-- The policy with other rules, and with all else as it was. -/
  withRules : π → List StoredRule → π
  rules_withRules (p : π) (new : List StoredRule) : rules (withRules p new) = new := by
    intros; rfl
  withRules_rules (p : π) : withRules p (rules p) = p := by
    intros; rfl
  withRules_withRules (p : π) (old new : List StoredRule) :
    withRules (withRules p old) new = withRules p new := by
    intros; rfl

instance : Policy PasswordPolicy where
  rules := PasswordPolicy.rules
  withRules p rules := { p with rules }

instance : Policy AccountPolicy where
  rules := AccountPolicy.rules
  withRules p rules := { p with rules }

namespace Policy

variable {π : Type} [Policy π]

/-- Adds a rule in place, unless the policy has it already, and answers whether it was added. -/
def add (rule : StoredRule) : StateM π Bool := do
  let p ← get
  if rule.isNew (rules p) then
    set (withRules p (rules p ++ [rule]))
    return true
  return false

/-- The policy with one more rule, unless it has it already. -/
def withRule (p : π) (rule : StoredRule) : π := ((add rule).run p).2

/-- Makes a call that attaches a rule and gives its answer, if it has one. -/
def attach : Attachment → StateM π (Option Bool)
  | .add rule => do return some (← add rule)
  | .withRule rule => do
    modify fun p => withRule p rule
    return none

/-- Makes some calls, one after the other, and gives their answers. -/
def attachAll (calls : List Attachment) : StateM π (List (Option Bool)) := calls.mapM attach

end Policy

end CredentialPolicy
