import CredentialPolicy.Policy.Registry

/-!
What becomes of a stored rule.

Its engine is looked up, the factory there looks for a rule in it, and the kind of what is found is
compared with the declared one. `Registry.resolve_cases` says so once: each of the three steps may
fail, with an error of its own, and what passes all of them is the rule. So a stored rule gives no
password rule in four ways (`Registry.Idle`), of which only the last is no failure: it may be a rule
about usernames.
-/

set_option autoImplicit false

namespace CredentialPolicy.Registry

variable {registry : Registry} {stored : StoredRule} {factory : RuleFactory} {rule : Rule}

/-! ## The steps of resolving a rule -/

/-- The engine is looked up first, so nothing else is complained of if it is not there. -/
theorem resolve_of_unregistered (h : registry.factory? stored.engine = none) :
    registry.resolve stored = .error (.unsupportedEngine stored.engine) := by
  unfold resolve
  rw [h]
  rfl

/-- The factory of the engine has the rule to make, which has to be of the declared kind. -/
theorem resolve_of_factory? (h : registry.factory? stored.engine = some factory) :
    registry.resolve stored =
      (factory.build stored).bind fun rule =>
        if rule.kind = stored.kind then .ok rule
        else .error (.kindMismatch stored.key stored.kind rule.kind) := by
  unfold resolve
  rw [h]
  rfl

/-- A body of which the factory makes no rule is reported with the key of the stored rule. -/
theorem resolve_of_malformed (hfactory : registry.factory? stored.engine = some factory)
    (h : factory.rule? stored = none) :
    registry.resolve stored = .error (.malformedBody stored.key) := by
  rw [resolve_of_factory? hfactory, RuleFactory.build_of_malformed h]
  rfl

/-- A stored rule of which a rule is made resolves to it under its own kind, and under no other. -/
theorem resolve_of_rule? (hfactory : registry.factory? stored.engine = some factory)
    (h : factory.rule? stored = some rule) :
    registry.resolve stored =
      if rule.kind = stored.kind then .ok rule
      else .error (.kindMismatch stored.key stored.kind rule.kind) := by
  rw [resolve_of_factory? hfactory, RuleFactory.build_eq_ok_iff.2 h]
  rfl

/-- The outcomes of resolving a stored rule. -/
theorem resolve_cases (registry : Registry) (stored : StoredRule) :
    registry.factory? stored.engine = none ∧
        registry.resolve stored = .error (.unsupportedEngine stored.engine) ∨
      ∃ factory, registry.factory? stored.engine = some factory ∧
        (factory.rule? stored = none ∧
            registry.resolve stored = .error (.malformedBody stored.key) ∨
          ∃ rule, factory.rule? stored = some rule ∧
            (rule.kind ≠ stored.kind ∧
                registry.resolve stored =
                  .error (.kindMismatch stored.key stored.kind rule.kind) ∨
              rule.kind = stored.kind ∧ registry.resolve stored = .ok rule)) := by
  cases hfactory : registry.factory? stored.engine with
  | none => exact Or.inl ⟨rfl, resolve_of_unregistered hfactory⟩
  | some factory =>
    refine Or.inr ⟨factory, rfl, ?_⟩
    cases hrule : factory.rule? stored with
    | none => exact Or.inl ⟨rfl, resolve_of_malformed hfactory hrule⟩
    | some rule =>
      refine Or.inr ⟨rule, rfl, ?_⟩
      rw [resolve_of_rule? hfactory hrule]
      by_cases hkind : rule.kind = stored.kind
      · exact Or.inr ⟨hkind, if_pos hkind⟩
      · exact Or.inl ⟨hkind, if_neg hkind⟩

/-! ## Rules that give no password rule -/

/-- The ways in which a stored rule gives no password rule. -/
inductive Idle (registry : Registry) (stored : StoredRule) : Prop where
  /-- Its engine is not registered. -/
  | unregistered (h : registry.factory? stored.engine = none)
  /-- No rule is made of it. -/
  | malformed (factory : RuleFactory) (hfactory : registry.factory? stored.engine = some factory)
      (h : factory.rule? stored = none)
  /-- A rule of another kind than the declared one is made of it. -/
  | mismatched (factory : RuleFactory) (rule : Rule)
      (hfactory : registry.factory? stored.engine = some factory)
      (hrule : factory.rule? stored = some rule) (h : rule.kind ≠ stored.kind)
  /-- A rule about usernames is made of it, and it is declared to be one. -/
  | account (factory : RuleFactory) (rule : AccountRule)
      (hfactory : registry.factory? stored.engine = some factory)
      (hrule : factory.rule? stored = some (.account rule)) (h : stored.kind = .account)

/-- A stored rule gives no password rule in these ways and in no other. -/
theorem bind_password?_eq_none_iff :
    (registry.resolve? stored).bind Rule.password? = none ↔ registry.Idle stored := by
  unfold resolve?
  constructor
  · intro h
    obtain ⟨hfactory, -⟩ |
        ⟨factory, hfactory, ⟨hrule, -⟩ | ⟨rule, hrule, ⟨hkind, -⟩ | ⟨hkind, hok⟩⟩⟩ :=
      resolve_cases registry stored
    · exact .unregistered hfactory
    · exact .malformed factory hfactory hrule
    · exact .mismatched factory rule hfactory hrule hkind
    · -- What resolves is of the declared kind, so only rules on usernames are left.
      rw [hok] at h
      cases rule with
      | password r => exact absurd h (Option.some_ne_none r)
      | account r => exact .account factory r hfactory hrule hkind.symm
  · intro h
    cases h with
    | unregistered hfactory =>
      rw [resolve_of_unregistered hfactory]
      rfl
    | malformed factory hfactory hrule =>
      rw [resolve_of_malformed hfactory hrule]
      rfl
    | mismatched factory rule hfactory hrule hkind =>
      rw [resolve_of_rule? hfactory hrule, if_neg hkind]
      rfl
    | account factory rule hfactory hrule hkind =>
      have hactual : (Rule.account rule).kind = stored.kind := hkind.symm
      rw [resolve_of_rule? hfactory hrule, if_pos hactual]
      rfl

end CredentialPolicy.Registry
