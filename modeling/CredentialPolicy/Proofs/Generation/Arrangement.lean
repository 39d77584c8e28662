import CredentialPolicy.Proofs.Generation.Policies

/-!
How rules are arranged makes no difference.

A password depends on a rule through its demands only: what is left of it when it is normalized and
the fields that no plan reads are erased (`PasswordRule.demands`). Since the table of a merge speaks
of a set of rules, two lists of rules with the same set of demands are merged into rules in force
with the same demands (`demands_mergeAll_eq`), and these have the same plan and the same passwords
(`compose_bare`).

So neither the order of the policies nor that of the rules in them matters, nor in which policy a
rule stands, how often it is repeated, or which rules that do not resolve stand beside it.
-/

set_option autoImplicit false

namespace CredentialPolicy

/-! ## Demands -/

namespace PasswordRule

/-- The rule without the fields that no plan reads. -/
def bare (r : PasswordRule) : PasswordRule :=
  { r with name := "", usernameAllowed := false, forbiddenSchemas := ∅ }

/-- What a rule asks of a password: the normalized rule without the fields that no plan reads. -/
def demands (r : PasswordRule) : PasswordRule := r.normalized.bare

/-- What a rule asks for is settled, so it asks for the same again. -/
theorem normalized_demands (r : PasswordRule) : r.demands.normalized = r.demands :=
  congrArg bare (normalized_normalized r)

/-- The counts are not among the fields that are erased. -/
theorem countFields_bare {f : PasswordRule → Int32} (hf : f ∈ countFields) (r : PasswordRule) :
    f r.bare = f r := by
  simp only [countFields, List.mem_cons, List.not_mem_nil, or_false] at hf
  rcases hf with rfl | rfl | rfl | rfl | rfl | rfl
  all_goals rfl

/-- A count is asked for unless it is negative. -/
theorem countFields_demands {f : PasswordRule → Int32} (hf : f ∈ countFields) (r : PasswordRule) :
    f r.demands = max (f r) 0 :=
  (countFields_bare hf r.normalized).trans ((countFields_laws hf).2.1 r)

/-- The table sees of each rule its demands only, apart from a flag that no plan reads. -/
theorem IsMergeOf.bare {m : PasswordRule} {rules : Set PasswordRule} (h : m.IsMergeOf rules) :
    m.bare.IsMergeOf (demands '' rules) := by
  -- Field by field, since the table of a merge has a clause for each.
  refine ⟨?_, ?_, fun f hf => ?_, fun c => ?_, fun c => ?_, fun w => ?_, ?_, rfl, rfl⟩
  · rw [Set.image_image]
    simp only [normalized_demands]
    exact h.minLength
  · rw [Set.image_image]
    simp only [normalized_demands]
    exact h.maxLength
  · rw [Set.image_image, countFields_bare hf]
    simp only [countFields_demands hf, max_eq_left Std.right_le_max]
    exact h.counts f hf
  · rw [Set.exists_mem_image]
    exact h.specialChars c
  · rw [Set.exists_mem_image]
    exact h.illegalChars c
  · rw [Set.exists_mem_image]
    exact h.forbiddenWords w
  · -- The flag is erased on both sides.
    rw [Set.exists_mem_image]
    exact ⟨fun hm => absurd hm Bool.false_ne_true, fun ⟨_, _, hr⟩ => absurd hr Bool.false_ne_true⟩

/-- Rules with the same demands, in any order and number, are merged into the same rule but for the
fields that no plan reads. -/
theorem bare_mergeAll_eq {rules others : List PasswordRule} (hrules : rules ≠ [])
    (hothers : others ≠ [])
    (h : demands '' {r | r ∈ rules} = demands '' {r | r ∈ others}) :
    (mergeAll rules).bare = (mergeAll others).bare := by
  have hmerge := (isMergeOf_mergeAll hrules).bare
  rw [h] at hmerge
  exact hmerge.unique (isMergeOf_mergeAll hothers).bare

end PasswordRule

/-! ## Passwords -/

namespace Generation

open CredentialPolicy.Random
open CredentialPolicy.PasswordRule (demands mergeAll)

variable {σ : Type} [WordSource σ]

/-- The erased fields have no part in the plan, hence none in the password. -/
theorem compose_bare (maxAttempts : UInt32) (r : PasswordRule) :
    (compose maxAttempts r.bare : Draw σ String) = compose maxAttempts r := rfl

section

variable {registry : Registry} {policies others : List PasswordPolicy}

/-- Rules ask for nothing at all only if there are none; a rule without wishes still asks for the
default length. -/
theorem image_demands_eq_empty_iff {rules : List PasswordRule} :
    demands '' {r | r ∈ rules} = ∅ ↔ rules = [] := by
  rw [Set.image_eq_empty, Set.eq_empty_iff_forall_notMem, List.eq_nil_iff_forall_not_mem]
  exact Iff.rfl

/-- Policies whose rules have the same demands have the same passwords. -/
theorem passwordFor_congr
    (h : demands '' {r | r ∈ rulesOf registry policies} =
      demands '' {r | r ∈ rulesOf registry others}) (maxAttempts : UInt32) :
    (passwordFor registry maxAttempts (some policies) : Draw σ String) =
      passwordFor registry maxAttempts (some others) := by
  have hnil : rulesOf registry policies = [] ↔ rulesOf registry others = [] := by
    rw [← image_demands_eq_empty_iff, h, image_demands_eq_empty_iff]
  by_cases hrules : rulesOf registry policies = []
  · rw [passwordFor_of_eq_nil hrules, passwordFor_of_eq_nil (hnil.1 hrules)]
  · have hothers : rulesOf registry others ≠ [] := fun hempty => hrules (hnil.2 hempty)
    rw [passwordFor_of_ne_nil hrules, passwordFor_of_ne_nil hothers, ← compose_bare,
      PasswordRule.bare_mergeAll_eq hrules hothers h, compose_bare]

/-- Policies that store the same rules, as far as these resolve, have the same rules. -/
theorem setOf_mem_rulesOf_congr
    (h : ∀ stored, (registry.resolve? stored).bind Rule.password? ≠ none →
      ((∃ p ∈ policies, stored ∈ p.rules) ↔ ∃ p ∈ others, stored ∈ p.rules)) :
    {r | r ∈ rulesOf registry policies} = {r | r ∈ rulesOf registry others} := by
  ext r
  show r ∈ rulesOf registry policies ↔ r ∈ rulesOf registry others
  rw [mem_rulesOf, mem_rulesOf]
  refine exists_congr fun stored => and_congr_left fun hr => h stored ?_
  rw [hr]
  exact Option.some_ne_none r

end

/-- **Passwords do not depend on how rules are arranged.** From the same state, two lists of
policies whose rules have the same demands give the same password or the same error and leave the
same state behind. This is so in particular where they store the same rules, as far as these
resolve. -/
theorem passwordFor_arrangement (registry : Registry) (policies others : List PasswordPolicy)
    (maxAttempts : UInt32) (s : σ) :
    (demands '' {r | r ∈ rulesOf registry policies} =
        demands '' {r | r ∈ rulesOf registry others} →
      passwordFor registry maxAttempts (some policies) s =
        passwordFor registry maxAttempts (some others) s) ∧
    ((∀ stored, (registry.resolve? stored).bind Rule.password? ≠ none →
        ((∃ p ∈ policies, stored ∈ p.rules) ↔ ∃ p ∈ others, stored ∈ p.rules)) →
      passwordFor registry maxAttempts (some policies) s =
        passwordFor registry maxAttempts (some others) s) := by
  refine ⟨fun h => congrFun (passwordFor_congr h maxAttempts) s, fun h => ?_⟩
  have hdemands := congrArg (demands '' ·) (setOf_mem_rulesOf_congr h)
  exact congrFun (passwordFor_congr hdemands maxAttempts) s

/-! ### Rules arranged anew -/

/-- A stored rule with the demands of `tightRule`: it has a name and a flag, the default least
length, and negative counts elsewhere. -/
def tightTwin : StoredRule where
  key := "twin"
  engine := "JSON"
  kind := .password
  body := "[\"default_password_rule\",\"t\",8,6,-1,0,1,0,0,[],[\"!\"],-3,true]"

/-- The rules of the conflicting policies in another order and in other policies, one of them
repeated by its twin. -/
def rearrangedPolicies : List PasswordPolicy :=
  [{ id := ⟨3⟩, name := "third", rules := [tightTwin, strayRule, tightRule] },
    { id := ⟨4⟩, name := "fourth", rules := [] },
    { id := ⟨1⟩, name := "first", rules := [wideRule] }]

/-- The rule that `tightTwin` stands for. -/
def twinnedRule : PasswordRule where
  name := "t"
  minLength := 8
  maxLength := 6
  letters := -1
  lowercase := 1
  illegalChars := .ofList ['!']
  repeatSame := -3
  usernameAllowed := true

/-- The stray rule does not resolve, so the twin is the only rule too many. -/
theorem rulesOf_rearrangedPolicies :
    rulesOf Registry.standard rearrangedPolicies = twinnedRule :: conflictingRules.reverse := by
  decide +kernel

theorem passwordFor_rearrangedPolicies :
    demands '' {r | r ∈ rulesOf Registry.standard conflictingPolicies} =
        demands '' {r | r ∈ rulesOf Registry.standard rearrangedPolicies} ∧
      passwordFor Registry.standard 3 (some conflictingPolicies) crowdedWords =
        passwordFor Registry.standard 3 (some rearrangedPolicies) crowdedWords := by
  have hcons : {r | r ∈ twinnedRule :: conflictingRules.reverse} =
      insert twinnedRule {r | r ∈ conflictingRules} := by
    ext r
    exact List.mem_cons.trans (or_congr_right List.mem_reverse)
  have htwin : twinnedRule.demands ∈ demands '' {r | r ∈ conflictingRules} :=
    List.mem_map.1 (by decide)
  have hsame : demands '' {r | r ∈ rulesOf Registry.standard conflictingPolicies} =
      demands '' {r | r ∈ rulesOf Registry.standard rearrangedPolicies} := by
    rw [rulesOf_conflictingPolicies, rulesOf_rearrangedPolicies, hcons, Set.image_insert_eq,
      Set.insert_eq_of_mem htwin]
  exact ⟨hsame, (passwordFor_arrangement _ _ _ 3 crowdedWords).1 hsame⟩

end Generation

end CredentialPolicy
