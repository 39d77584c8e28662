import CredentialPolicy.Policy.Document
import CredentialPolicy.Rule.Document
import CredentialPolicy.Text.Dictionary

/-!
Resolving stored rules.

A registry maps engine tags to rule factories. A factory is anything that finds a rule in a stored
one or refuses it as malformed; each document format comes with one. A stored rule resolves if its
engine is registered, the factory there finds a rule in it, and the rule is of the declared kind.
Rules of a policy that do not resolve are passed over.
-/

set_option autoImplicit false

namespace CredentialPolicy

/-- Why a stored rule does not resolve. -/
inductive ResolveError where
  /-- The engine is not registered. -/
  | unsupportedEngine (engine : String)
  /-- The body describes no rule. -/
  | malformedBody (key : String)
  /-- The body describes a rule of another kind. -/
  | kindMismatch (key : String) (declared actual : RuleKind)
  deriving DecidableEq, Repr, Inhabited

/-- What a user is told. The reason why a body is malformed is left out. -/
def ResolveError.message : ResolveError → String
  | unsupportedEngine engine => s!"unsupported rule engine: {engine}"
  | malformedBody key => s!"malformed body for implementation {key}"
  | kindMismatch key declared actual =>
    s!"implementation {key} is declared {declared.label} but its body configures {actual.label}"

/-- What is told of a registered engine. -/
structure EngineInfo where
  /-- The tag under which it is registered. -/
  engine : String
  /-- The name of its factory. -/
  name : String
  /-- What the bodies of its rules look like. -/
  description : String
  deriving DecidableEq, Repr, Inhabited

/-- What makes rules of the stored ones of an engine. -/
structure RuleFactory where
  /-- The tag under which it is registered unless another is given. -/
  engine : String
  /-- Its name. -/
  name : String
  /-- What the bodies of its rules look like. -/
  description : String
  /-- The rule that it finds in a stored one. -/
  rule? : StoredRule → Option Rule
  deriving Inhabited

namespace RuleFactory

/-- What is told of the factory where it is registered under a tag. -/
def info (factory : RuleFactory) (tag : String) : EngineInfo :=
  { engine := tag, name := factory.name, description := factory.description }

/-- The rule that the factory makes of a stored one, whatever its engine and kind. Where it finds
none, the stored rule is malformed: a factory fails in no other way. -/
def build (factory : RuleFactory) (stored : StoredRule) : Except ResolveError Rule :=
  match factory.rule? stored with
  | some rule => .ok rule
  | none => .error (.malformedBody stored.key)

section

variable {factory : RuleFactory} {stored : StoredRule} {rule : Rule}

theorem build_eq_ok_iff : factory.build stored = .ok rule ↔ factory.rule? stored = some rule := by
  unfold build
  cases factory.rule? stored with
  | none => exact iff_of_false nofun nofun
  | some found => rw [Except.ok.injEq, Option.some.injEq]

theorem build_of_malformed (h : factory.rule? stored = none) :
    factory.build stored = .error (.malformedBody stored.key) := by
  rw [build, h]

/-- A factory fails exactly where it finds no rule. -/
theorem build_eq_error_iff :
    (∃ cause, factory.build stored = .error cause) ↔ factory.rule? stored = none := by
  cases h : factory.rule? stored with
  | none => exact iff_of_true ⟨_, build_of_malformed h⟩ rfl
  | some found => exact iff_of_false (by simp [build_eq_ok_iff.2 h]) nofun

end

end RuleFactory

namespace DocumentFormat

/-- The tag under which the factory of the format is registered unless another is given. -/
def engine : DocumentFormat → String
  | json => "JSON"
  | toml => "TOML"

/-- The name of the factory of the format. -/
def factoryName : DocumentFormat → String
  | json => "JSON rule factory"
  | toml => "TOML rule factory"

/-- What the bodies of rules in the format look like. -/
def description : DocumentFormat → String
  | json => "Internally tagged JSON rule configuration"
  | toml => "Internally tagged TOML rule configuration"

/-- The rule that a text describes in the format. -/
def rule? (format : DocumentFormat) (body : String) : Option Rule :=
  (format.read? body).bind Rule.ofValue?

/-- The factory of the format, which reads the body of a stored rule and nothing else of it. -/
def factory (format : DocumentFormat) : RuleFactory where
  engine := format.engine
  name := format.factoryName
  description := format.description
  rule? stored := format.rule? stored.body

instance : Coe DocumentFormat RuleFactory := ⟨factory⟩

/-- The rule that the body of a stored rule describes, whatever its engine and kind. -/
def build (format : DocumentFormat) (stored : StoredRule) : Except ResolveError Rule :=
  format.factory.build stored

end DocumentFormat

/-- A change to a registry. -/
inductive RegistryChange where
  /-- A factory is registered, under its own tag unless another one is given. -/
  | register (factory : RuleFactory) (tag : Option String := none)
  /-- A tag is removed. -/
  | unregister (tag : String)
  deriving Inhabited

namespace RegistryChange

/-- The tag that is changed. -/
def tag : RegistryChange → String
  | register factory tag => tag.getD factory.engine
  | unregister tag => tag

/-- What the tag stands for from now on. -/
def factory? : RegistryChange → Option RuleFactory
  | register factory _ => some factory
  | unregister _ => none

end RegistryChange

/-- The factories that are known, by engine tag. -/
structure Registry where
  /-- The factory of each tag. -/
  factories : Text.Dictionary RuleFactory

namespace Registry

/-- The registry without engines. -/
def empty : Registry := ⟨∅⟩

instance : EmptyCollection Registry := ⟨empty⟩

instance : Inhabited Registry := ⟨∅⟩

/-- The factory of a tag. -/
def factory? (r : Registry) (tag : String) : Option RuleFactory := r.factories.get? tag

/-- Whether a tag is registered. -/
def has (r : Registry) (tag : String) : Bool := (r.factory? tag).isSome

/-- The registered tags, in ascending order. -/
def engines (r : Registry) : List String := r.factories.keys

/-- Registers a factory under a tag, in place of the one registered there. -/
def register (r : Registry) (tag : String) (factory : RuleFactory) : Registry :=
  ⟨r.factories.insert tag factory⟩

/-- Removes a tag. -/
def unregister (r : Registry) (tag : String) : Registry := ⟨r.factories.erase tag⟩

/-- What is told of a tag, if it is registered. -/
def info? (r : Registry) (tag : String) : Option EngineInfo := (r.factory? tag).map (·.info tag)

/-- Makes a change: the factory that its tag stood for, if it was registered, and the registry
after. -/
def apply (r : Registry) (change : RegistryChange) : Option RuleFactory × Registry :=
  (r.factory? change.tag,
    match change.factory? with
    | some factory => r.register change.tag factory
    | none => r.unregister change.tag)

/-- The registry after some changes, one after the other. -/
def after (r : Registry) (changes : List RegistryChange) : Registry :=
  changes.foldl (fun r change => (r.apply change).2) r

/-- The registry with the factories of both formats under their own tags. -/
def standard : Registry :=
  (empty.register DocumentFormat.json.engine DocumentFormat.json).register
    DocumentFormat.toml.engine DocumentFormat.toml

/-- The rule that a stored rule stands for. -/
def resolve (r : Registry) (stored : StoredRule) : Except ResolveError Rule := do
  match r.factory? stored.engine with
  | none => throw (.unsupportedEngine stored.engine)
  | some factory =>
    let rule ← factory.build stored
    if rule.kind = stored.kind then return rule
    else throw (.kindMismatch stored.key stored.kind rule.kind)

/-- The rule that a stored rule stands for, if it resolves. -/
def resolve? (r : Registry) (stored : StoredRule) : Option Rule := (r.resolve stored).toOption

/-- The password rules of a policy that resolve, in order. -/
def passwordRules (r : Registry) (p : PasswordPolicy) : List PasswordRule :=
  p.rules.filterMap fun stored => (r.resolve? stored).bind Rule.password?

/-- The rules of an account policy that resolve, in order and of either kind. -/
def accountRules (r : Registry) (p : AccountPolicy) : List Rule := p.rules.filterMap r.resolve?

end Registry

end CredentialPolicy
