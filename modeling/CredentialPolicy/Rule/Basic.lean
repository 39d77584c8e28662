import CredentialPolicy.Rule.Password
import CredentialPolicy.Rule.Account

/-!
Rules of either kind, and the kind under which a rule is stored.
-/

set_option autoImplicit false

namespace CredentialPolicy

/-- What a rule is about. -/
inductive RuleKind where
  /-- Generated passwords. -/
  | password
  /-- Usernames. -/
  | account
  deriving DecidableEq, Repr, Inhabited

namespace RuleKind

/-- Every kind. -/
def all : List RuleKind := [password, account]

/-- The name under which a stored rule declares its kind. -/
def label : RuleKind → String
  | password => "PASSWORD_RULE"
  | account => "ACCOUNT_RULE"

/-- The name by which a rule's body says which kind it configures. -/
def bodyTag : RuleKind → String
  | password => "default_password_rule"
  | account => "default_account_rule"

end RuleKind

/-- A rule of either kind. -/
inductive Rule where
  /-- A rule about passwords. -/
  | password (rule : PasswordRule)
  /-- A rule about usernames. -/
  | account (rule : AccountRule)
  deriving DecidableEq, Inhabited

namespace Rule

/-- The kind of the rule. -/
def kind : Rule → RuleKind
  | password _ => .password
  | account _ => .account

/-- The display name of the rule. -/
def name : Rule → String
  | password r => r.name
  | account r => r.name

/-- The password rule, if it is one. -/
def password? : Rule → Option PasswordRule
  | password r => some r
  | account _ => none

/-- The account rule, if it is one. -/
def account? : Rule → Option AccountRule
  | password _ => none
  | account r => some r

end Rule

end CredentialPolicy
