import CredentialPolicy.Proofs.Policy.Resolution
import Mathlib.Data.List.Forall2

/-!
Which rules of a policy come out of resolution.

A stored rule stands for a rule if its engine is registered, the factory registered there makes that
rule of it, and the rule is of the declared kind (`Registry.StandsFor`). Resolving gives the
rule that a stored rule stands for; where there is none, the error names the first of the three that
fails (`Registry.Settles`), so an error of a later step says that the earlier ones went well.

The rules of a policy are then the stored rules that stand for something, each replaced by what it
stands for. Neither a rule that fails nor one of the other kind is there to move its neighbours:
what comes out is paired, one to one and in order, with the stored rules that are kept
(`resolution_in_order`).
-/

set_option autoImplicit false

namespace CredentialPolicy

/-! ## Members that are replaced or left out -/

/-- Where a function gives something for exactly the members that are kept, what it gives is paired
with them in order. -/
theorem forall₂_filter_filterMap {α β : Type} {f : α → Option β} {q : α → Prop} [DecidablePred q]
    {R : α → β → Prop} (hsome : ∀ a b, f a = some b → q a ∧ R a b) (hnone : ∀ a, f a = none → ¬ q a)
    (l : List α) : List.Forall₂ R (l.filter q) (l.filterMap f) := by
  induction l with
  | nil => exact .nil
  | cons a rest ih =>
    cases h : f a with
    | none =>
      rw [List.filterMap_cons_none h, List.filter_cons_of_neg (by simpa using hnone a h)]
      exact ih
    | some b =>
      obtain ⟨hkept, hrelated⟩ := hsome a b h
      rw [List.filterMap_cons_some h, List.filter_cons_of_pos (by simpa using hkept)]
      exact .cons hrelated ih

namespace Registry

variable {registry : Registry} {stored : StoredRule} {rule : Rule}

/-! ## What a stored rule stands for -/

/-- Its engine is registered, the factory there makes the rule of it, and the rule is of the
declared kind. -/
def StandsFor (registry : Registry) (stored : StoredRule) (rule : Rule) : Prop :=
  ∃ factory, registry.factory? stored.engine = some factory ∧ factory.build stored = .ok rule ∧
    rule.kind = stored.kind

/-- What resolving a stored rule comes to, each outcome by the step that decides it. -/
structure Settles (registry : Registry) (stored : StoredRule) : Prop where
  /-- The rule that the stored one stands for, and no other. -/
  ok_iff (rule : Rule) : registry.resolve stored = .ok rule ↔ registry.StandsFor stored rule
  /-- No factory is registered for the engine. -/
  unsupportedEngine_iff (engine : String) :
    registry.resolve stored = .error (.unsupportedEngine engine) ↔
      registry.factory? stored.engine = none ∧ stored.engine = engine
  /-- The factory that is registered makes no rule of it. -/
  malformedBody_iff (key : String) :
    registry.resolve stored = .error (.malformedBody key) ↔
      (∃ factory, registry.factory? stored.engine = some factory ∧
        ∃ cause, factory.build stored = .error cause) ∧ stored.key = key
  /-- It makes one of another kind. -/
  kindMismatch_iff (key : String) (declared actual : RuleKind) :
    registry.resolve stored = .error (.kindMismatch key declared actual) ↔
      (∃ factory rule, registry.factory? stored.engine = some factory ∧
        factory.build stored = .ok rule ∧ rule.kind = actual) ∧
        actual ≠ declared ∧ stored.kind = declared ∧ stored.key = key

/-- The four outcomes of `resolve_cases` exclude one another, so each of them settles all four
questions: one in the affirmative, by the step at which it was reached, and the others not. -/
theorem settles (registry : Registry) (stored : StoredRule) : registry.Settles stored := by
  obtain ⟨hfactory, hresolve⟩ |
      ⟨factory, hfactory,
        ⟨hrule, hresolve⟩ | ⟨rule, hrule, ⟨hkind, hresolve⟩ | ⟨hkind, hresolve⟩⟩⟩ :=
    resolve_cases registry stored
  · constructor <;> intros <;> simp [hresolve, StandsFor, hfactory]
  -- Where a rule is made, it remains to say of which kind.
  all_goals
    constructor <;> intros <;>
      simp [hresolve, StandsFor, hfactory, RuleFactory.build_eq_ok_iff,
        RuleFactory.build_eq_error_iff, hrule]
  case inr.inr.inl.ok_iff =>
    rintro rfl
    exact hkind
  case inr.inr.inl.kindMismatch_iff =>
    constructor
    · rintro ⟨rfl, rfl, rfl⟩
      exact ⟨rfl, hkind, rfl, rfl⟩
    · rintro ⟨rfl, -, rfl, rfl⟩
      exact ⟨rfl, rfl, rfl⟩
  case inr.inr.inr.ok_iff =>
    rintro rfl
    exact hkind
  case inr.inr.inr.kindMismatch_iff =>
    rintro rfl hne rfl
    exact absurd hkind hne

/-- A stored rule resolves to what it stands for. -/
theorem resolve?_eq_some_iff :
    registry.resolve? stored = some rule ↔ registry.StandsFor stored rule := by
  rw [← (settles registry stored).ok_iff rule, resolve?]
  cases registry.resolve stored with
  | error cause => exact iff_of_false nofun nofun
  | ok found => rw [Except.toOption, Option.some.injEq, Except.ok.injEq]

/-- The stored rule stands for some rule. -/
def Resolves (registry : Registry) (stored : StoredRule) : Prop :=
  ∃ rule, registry.StandsFor stored rule

theorem isSome_resolve?_iff : (registry.resolve? stored).isSome ↔ registry.Resolves stored := by
  rw [Option.isSome_iff_exists, Resolves]
  exact exists_congr fun rule => resolve?_eq_some_iff

instance : Decidable (registry.Resolves stored) := decidable_of_iff _ isSome_resolve?_iff

/-! ## The rules of a policy -/

/-- The password rule that a stored rule gives is what it stands for. -/
theorem bind_password?_eq_some_iff {r : PasswordRule} :
    (registry.resolve? stored).bind Rule.password? = some r ↔
      registry.StandsFor stored (.password r) := by
  rw [← resolve?_eq_some_iff, Option.bind_eq_some_iff]
  constructor
  · rintro ⟨found, hfound, hr⟩
    cases found with
    | password s =>
      obtain rfl : s = r := Option.some.inj hr
      exact hfound
    | account s => exact absurd hr nofun
  · intro h
    exact ⟨.password r, h, rfl⟩

/-- A stored rule gives a password rule if it is declared to and resolves: what it resolves to is
then of that kind. -/
theorem exists_standsFor_password_iff :
    (∃ r, registry.StandsFor stored (.password r)) ↔
      stored.kind = .password ∧ registry.Resolves stored := by
  constructor
  · rintro ⟨r, h⟩
    obtain ⟨factory, hfactory, hbuild, hkind⟩ := h
    exact ⟨hkind.symm, .password r, factory, hfactory, hbuild, hkind⟩
  · rintro ⟨hdeclared, rule, factory, hfactory, hbuild, hkind⟩
    cases rule with
    | password r => exact ⟨r, factory, hfactory, hbuild, hkind⟩
    | account r =>
      rw [hdeclared] at hkind
      exact absurd hkind nofun

/-- The password rules of a policy stand beside the stored rules that give one, in their order. -/
theorem forall₂_passwordRules (registry : Registry) (p : PasswordPolicy) :
    List.Forall₂ (fun stored r => registry.StandsFor stored (.password r))
      (p.rules.filter fun stored => stored.kind = .password ∧ registry.Resolves stored)
      (registry.passwordRules p) := by
  apply forall₂_filter_filterMap
  · intro stored r h
    have hstands := bind_password?_eq_some_iff.1 h
    exact ⟨exists_standsFor_password_iff.1 ⟨r, hstands⟩, hstands⟩
  · intro stored hnone hkept
    obtain ⟨r, hstands⟩ := exists_standsFor_password_iff.2 hkept
    rw [bind_password?_eq_some_iff.2 hstands] at hnone
    exact absurd hnone nofun

/-- The rules of a policy on usernames stand beside the stored rules that resolve, of either kind,
in their order. -/
theorem forall₂_accountRules (registry : Registry) (p : AccountPolicy) :
    List.Forall₂ registry.StandsFor (p.rules.filter (registry.Resolves ·))
      (registry.accountRules p) := by
  apply forall₂_filter_filterMap
  · intro stored rule h
    have hstands := resolve?_eq_some_iff.1 h
    exact ⟨⟨rule, hstands⟩, hstands⟩
  · intro stored hnone hkept
    obtain ⟨rule, hstands⟩ := hkept
    rw [resolve?_eq_some_iff.2 hstands] at hnone
    exact absurd hnone nofun

/-- **Only rules of the declared kind come out of resolution, in order.** Resolving gives a rule
exactly if the engine is registered, the factory there makes it by itself and the rule is of the
declared kind, and it fails with the error of the first of these that does not hold. The
password rules of a policy are, one to one and in order, what the stored rules stand for that are
declared to be about passwords and resolve; the rules of an account policy are what all that resolve
stand for. Both lists are put together from those of the parts of the policy. -/
theorem resolution_in_order (registry : Registry) :
    (∀ stored, registry.Settles stored) ∧
      (∀ p : PasswordPolicy,
        List.Forall₂ (fun stored r => registry.StandsFor stored (.password r))
          (p.rules.filter fun stored => stored.kind = .password ∧ registry.Resolves stored)
          (registry.passwordRules p)) ∧
      (∀ p : AccountPolicy,
        List.Forall₂ registry.StandsFor (p.rules.filter (registry.Resolves ·))
          (registry.accountRules p)) ∧
      (∀ (p : PasswordPolicy) (front back : List StoredRule),
        registry.passwordRules { p with rules := front ++ back } =
          registry.passwordRules { p with rules := front } ++
            registry.passwordRules { p with rules := back }) ∧
      ∀ (p : AccountPolicy) (front back : List StoredRule),
        registry.accountRules { p with rules := front ++ back } =
          registry.accountRules { p with rules := front } ++
            registry.accountRules { p with rules := back } := by
  refine ⟨settles registry, forall₂_passwordRules registry, forall₂_accountRules registry, ?_, ?_⟩
  · intro p front back
    exact List.filterMap_append
  · intro p front back
    exact List.filterMap_append

end Registry

end CredentialPolicy
