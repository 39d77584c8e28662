import CredentialPolicy.Proofs.Policy.Resolution
import CredentialPolicy.Proofs.Text.Dictionary
import Mathlib.Data.List.Induction

/-!
A registry is a finite map that its history determines.

Changes register a factory under a tag, in place of one that may be there, or remove a tag. One
change settles what its own tag stands for and leaves every other tag alone (`factory?_apply`). So
after a run of changes a tag stands for what the last of them that touched it says
(`factory?_after_iff`), and all that can be asked of a registry is asked of that: whether a tag is
there, the list of the tags, what is told of a tag, what a stored rule resolves to, and what the
next change finds under its tag.

The standard registry is one with a history of its own: the two changes that build it.
-/

set_option autoImplicit false

namespace CredentialPolicy

/-- The last of some changes that touched a tag registered a factory under it. -/
def LastRegistered (changes : List RegistryChange) (tag : String) (factory : RuleFactory) :
    Prop :=
  ∃ earlier change later, changes = earlier ++ change :: later ∧ change.tag = tag ∧
    change.factory? = some factory ∧ ∀ c ∈ later, c.tag ≠ tag

theorem not_lastRegistered_nil {tag : String} {factory : RuleFactory} :
    ¬ LastRegistered [] tag factory := by
  rintro ⟨earlier, change, later, h, -⟩
  simp at h

/-- The last change settles its own tag, and leaves every other to the changes before it. -/
theorem lastRegistered_concat {changes : List RegistryChange} {change : RegistryChange}
    {tag : String} {factory : RuleFactory} :
    LastRegistered (changes ++ [change]) tag factory ↔
      if change.tag = tag then change.factory? = some factory
      else LastRegistered changes tag factory := by
  by_cases htag : change.tag = tag
  · rw [if_pos htag]
    constructor
    · rintro ⟨earlier, c, later, h, hc, hfactory, hlater⟩
      obtain rfl | ⟨later', last, rfl⟩ := later.eq_nil_or_concat
      · obtain ⟨-, hlast⟩ := List.append_inj' h rfl
        cases hlast
        exact hfactory
      · -- A change behind `c` would be the last one, and that one touches the tag.
        rw [List.concat_eq_append, ← List.cons_append, ← List.append_assoc] at h
        obtain ⟨-, hlast⟩ := List.append_inj' h rfl
        cases hlast
        exact absurd htag (hlater _ (by simp))
    · intro hfactory
      exact ⟨changes, change, [], rfl, htag, hfactory, nofun⟩
  · rw [if_neg htag]
    constructor
    · rintro ⟨earlier, c, later, h, hc, hfactory, hlater⟩
      obtain rfl | ⟨later', last, rfl⟩ := later.eq_nil_or_concat
      · obtain ⟨-, hlast⟩ := List.append_inj' h rfl
        cases hlast
        exact absurd hc htag
      · rw [List.concat_eq_append, ← List.cons_append, ← List.append_assoc] at h
        obtain ⟨rfl, -⟩ := List.append_inj' h rfl
        exact ⟨earlier, c, later', rfl, hc, hfactory, fun d hd => hlater d (by simp [hd])⟩
    · rintro ⟨earlier, c, later, rfl, hc, hfactory, hlater⟩
      refine ⟨earlier, c, later ++ [change], by simp, hc, hfactory, fun d hd => ?_⟩
      obtain hd | hd := List.mem_append.1 hd
      · exact hlater d hd
      · rw [List.mem_singleton.1 hd]
        exact htag

namespace Registry

/-! ## What a change does -/

/-- A change touches the tag that it names, and no other. -/
theorem factory?_apply (registry : Registry) (change : RegistryChange) (tag : String) :
    (registry.apply change).2.factory? tag =
      if change.tag = tag then change.factory? else registry.factory? tag := by
  simp only [apply]
  cases change.factory? with
  | none =>
    simp only [unregister, factory?, Text.Dictionary.get?_erase, eq_comm]
  | some factory =>
    simp only [register, factory?, Text.Dictionary.get?_insert, eq_comm]

theorem factory?_empty (tag : String) : (∅ : Registry).factory? tag = none := rfl

theorem after_concat (registry : Registry) (changes : List RegistryChange)
    (change : RegistryChange) :
    registry.after (changes ++ [change]) = ((registry.after changes).apply change).2 := by
  simp only [after, List.foldl_append, List.foldl_cons, List.foldl_nil]

/-- After a run, a tag stands for what was last registered under it. The induction is on the run
from its end, where a step is one change. -/
theorem factory?_after_iff (changes : List RegistryChange) (tag : String)
    (factory : RuleFactory) :
    ((∅ : Registry).after changes).factory? tag = some factory ↔
      LastRegistered changes tag factory := by
  induction changes using List.reverseRecOn with
  | nil => exact iff_of_false (by simp [after, factory?_empty]) not_lastRegistered_nil
  | append_singleton changes change ih =>
    rw [after_concat, factory?_apply, lastRegistered_concat]
    by_cases htag : change.tag = tag
    · rw [if_pos htag, if_pos htag]
    · rw [if_neg htag, if_neg htag, ih]

/-! ## What can be asked of a registry -/

section

variable {registry other : Registry} {tag : String}

theorem has_iff : registry.has tag = true ↔ ∃ factory, registry.factory? tag = some factory :=
  Option.isSome_iff_exists

theorem mem_engines_iff :
    tag ∈ registry.engines ↔ ∃ factory, registry.factory? tag = some factory :=
  Text.Dictionary.mem_keys_iff.trans Option.isSome_iff_exists

theorem info?_eq_some_iff {info : EngineInfo} :
    registry.info? tag = some info ↔
      ∃ factory, registry.factory? tag = some factory ∧ factory.info tag = info :=
  Option.map_eq_some_iff

/-- Only an engine that is not registered is unsupported. -/
theorem resolve_ne_unsupportedEngine_iff {stored : StoredRule} :
    (∀ engine, registry.resolve stored ≠ .error (.unsupportedEngine engine)) ↔
      ∃ factory, registry.factory? stored.engine = some factory := by
  obtain ⟨hfactory, hresolve⟩ | ⟨factory, hfactory, ⟨-, hresolve⟩ | ⟨rule, -, ⟨-, hresolve⟩ |
      ⟨-, hresolve⟩⟩⟩ := resolve_cases registry stored
  · rw [hresolve, hfactory]
    exact iff_of_false (fun h => h _ rfl) nofun
  all_goals
    rw [hresolve, hfactory]
    exact iff_of_true nofun ⟨factory, rfl⟩

/-- Two registries say the same of a tag, whatever they are asked. -/
structure SameAt (registry other : Registry) (tag : String) : Prop where
  has : registry.has tag = other.has tag
  engines : tag ∈ registry.engines ↔ tag ∈ other.engines
  info : registry.info? tag = other.info? tag
  resolve : ∀ stored : StoredRule, stored.engine = tag →
    registry.resolve stored = other.resolve stored

/-- Whatever a registry is asked of a tag, the answer depends on nothing but the factory of that
tag. -/
theorem sameAt_of_factory? (h : registry.factory? tag = other.factory? tag) :
    registry.SameAt other tag where
  has := by rw [Registry.has, Registry.has, h]
  engines := by rw [mem_engines_iff, mem_engines_iff, h]
  info := by rw [info?, info?, h]
  resolve := by
    -- Only the factory of the rule's own engine is asked for.
    rintro stored rfl
    unfold Registry.resolve
    rw [h]

end

/-! ## Histories -/

/-- A registry is what some changes, from the first to the last, have made of it. -/
structure Records (registry : Registry) (changes : List RegistryChange) : Prop where
  /-- A tag is there if it was registered last. -/
  has_iff (tag : String) : registry.has tag = true ↔ ∃ factory, LastRegistered changes tag factory
  /-- The tags that are there are listed. -/
  mem_engines_iff (tag : String) :
    tag ∈ registry.engines ↔ ∃ factory, LastRegistered changes tag factory
  /-- Each of them is listed once, in ascending order. -/
  engines_ascending : registry.engines.Pairwise (· < ·)
  /-- Something is told of the tags that are there, namely of what was registered last. -/
  info?_eq_some_iff (tag : String) (info : EngineInfo) :
    registry.info? tag = some info ↔
      ∃ factory, LastRegistered changes tag factory ∧ factory.info tag = info
  /-- The engines that are supported are those that are there. -/
  resolve_ne_unsupportedEngine_iff (stored : StoredRule) :
    (∀ engine, registry.resolve stored ≠ .error (.unsupportedEngine engine)) ↔
      ∃ factory, LastRegistered changes stored.engine factory
  /-- A stored rule is read in the factory that was registered last. -/
  resolve_eq (stored : StoredRule) (factory : RuleFactory)
    (h : LastRegistered changes stored.engine factory) :
    registry.resolve stored =
      (factory.build stored).bind fun rule =>
        if rule.kind = stored.kind then .ok rule
        else .error (.kindMismatch stored.key stored.kind rule.kind)
  /-- The next change gives back what its tag stands for. -/
  apply_eq_some_iff (change : RegistryChange) (factory : RuleFactory) :
    (registry.apply change).1 = some factory ↔ LastRegistered changes change.tag factory
  /-- The next change leaves the other tags as they are. -/
  apply_sameAt (change : RegistryChange) (tag : String) (h : change.tag ≠ tag) :
    (registry.apply change).2.SameAt registry tag

/-- What the changes say is carried over to all that can be asked, since every answer goes back to
the factory of a tag. -/
theorem records_after (changes : List RegistryChange) :
    ((∅ : Registry).after changes).Records changes := by
  have hfactory := factory?_after_iff changes
  constructor
  · intro tag
    rw [has_iff]
    exact exists_congr (hfactory tag)
  · intro tag
    rw [mem_engines_iff]
    exact exists_congr (hfactory tag)
  · exact Text.Dictionary.ascending _
  · intro tag info
    rw [info?_eq_some_iff]
    exact exists_congr fun factory => and_congr_left fun _ => hfactory tag factory
  · intro stored
    rw [resolve_ne_unsupportedEngine_iff]
    exact exists_congr (hfactory stored.engine)
  · intro stored factory h
    exact resolve_of_factory? ((hfactory _ _).2 h)
  · intro change factory
    exact hfactory change.tag factory
  · intro change tag htag
    apply sameAt_of_factory?
    rw [factory?_apply, if_neg htag]

/-- The changes that build the standard registry. -/
def standardChanges : List RegistryChange :=
  [.register DocumentFormat.json, .register DocumentFormat.toml]

/-- The standard registry has a past of two changes. -/
theorem standard_after (changes : List RegistryChange) :
    standard.after changes = (∅ : Registry).after (standardChanges ++ changes) := rfl

/-- **A registry is a finite map that its history determines.** Whatever factories are registered
and removed, in whichever order, a tag is there, is listed, has something told of it and is
supported as an engine exactly if the last change that touched it registered it; the factory
registered then is the one that is told of, makes the rules, and is given back by the next change of
the tag, which leaves all other tags as they are. The standard registry counts as one in which the
factories of the two formats have been registered before. -/
theorem registry_history (changes : List RegistryChange) :
    ((∅ : Registry).after changes).Records changes ∧
      (standard.after changes).Records (standardChanges ++ changes) :=
  ⟨records_after changes, standard_after changes ▸ records_after (standardChanges ++ changes)⟩

/-! ### Factories under other tags -/

/-- A factory of its own kind: it forbids the key of a stored rule as a word, whatever the body. -/
def keyFactory : RuleFactory where
  engine := "KEY"
  name := "key rule factory"
  description := "Anything"
  rule? stored := some (.account { forbiddenWords := .ofList [stored.key] })

/-- Each format under a tag that is not its own, TOML no more under its own, and a factory of
another kind beside them. -/
def retagging : List RegistryChange :=
  [.register DocumentFormat.toml (some "JSON"), .register DocumentFormat.json (some "YAML"),
    .unregister "TOML", .register keyFactory]

/-- A stored rule whose body is TOML and whose engine says JSON. -/
def mislabelledRule : StoredRule where
  key := "mislabelled"
  engine := "JSON"
  kind := .account
  body := "kind = \"default_account_rule\"\nmin_length = 3\n"

theorem registry_history_retagging :
    LastRegistered (standardChanges ++ retagging) "JSON" DocumentFormat.toml ∧
      (standard.after retagging).has "JSON" = true ∧
      (standard.after retagging).resolve mislabelledRule = .ok (.account { minLength := 3 }) ∧
      LastRegistered (standardChanges ++ retagging) "KEY" keyFactory ∧
      (standard.after retagging).resolve { mislabelledRule with engine := "KEY" } =
        .ok (.account { forbiddenWords := .ofList ["mislabelled"] }) ∧
      RegistryChange.tag (.register DocumentFormat.json) ≠ "YAML" ∧
      ((standard.after retagging).apply (.register DocumentFormat.json)).1 =
        some ↑DocumentFormat.toml ∧
      ((standard.after retagging).apply (.register DocumentFormat.json)).2.info? "YAML" =
        (standard.after retagging).info? "YAML" := by
  have hrecords := (registry_history retagging).2
  have hjson : LastRegistered (standardChanges ++ retagging) "JSON" DocumentFormat.toml :=
    ⟨standardChanges, _, _, rfl, rfl, rfl, by decide⟩
  have hkey : LastRegistered (standardChanges ++ retagging) "KEY" keyFactory :=
    ⟨standardChanges ++ retagging.take 3, _, [], rfl, rfl, rfl, nofun⟩
  have hother : RegistryChange.tag (.register DocumentFormat.json) ≠ "YAML" := by decide
  refine ⟨hjson, (hrecords.has_iff "JSON").2 ⟨_, hjson⟩, ?_, hkey, ?_, hother, ?_, ?_⟩
  · rw [hrecords.resolve_eq mislabelledRule _ hjson]
    decide +kernel
  · rw [hrecords.resolve_eq { mislabelledRule with engine := "KEY" } _ hkey]
    decide +kernel
  · exact (hrecords.apply_eq_some_iff (.register DocumentFormat.json) _).2 hjson
  · exact (hrecords.apply_sameAt (.register DocumentFormat.json) "YAML" hother).info

end Registry

end CredentialPolicy
