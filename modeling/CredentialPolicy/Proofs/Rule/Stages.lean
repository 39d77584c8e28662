import CredentialPolicy.Proofs.Rule.Merge

/-!
Merging in stages.

Rules may be merged group by group and the results merged again: this puts the same rule in force as
merging all of them at once (`mergeAll_flatten`). A rule in force is settled, so normalizing it
again changes nothing, and for all fields but one the table of the groups' results is that of the
rules themselves.

The exception is the greatest length. A group whose bounds contradict each other keeps its least
length in place of the smallest greatest length, which is then lost. But that least length is no
more than the least length of all, to which the greatest length is raised at the end anyway: below a
bound that the latter meets, the group's result says the same as its rules
(`IsMergeOf.maxLength_le_iff`).
-/

set_option autoImplicit false

namespace CredentialPolicy.PasswordRule

/-! ## Groups of rules -/

section

variable {groups : List (List PasswordRule)}

/-- If each merged group has something exactly if some rule of the group has it, then some merged
group has it exactly if some rule of any group has it. -/
theorem exists_mem_map_mergeAll_iff {p q : PasswordRule → Prop}
    (h : ∀ g ∈ groups, p (mergeAll g) ↔ ∃ r ∈ g, q r) :
    (∃ m ∈ {m | m ∈ groups.map mergeAll}, p m) ↔ ∃ r ∈ {r | r ∈ groups.flatten}, q r := by
  constructor
  · rintro ⟨m, hm, hp⟩
    obtain ⟨g, hg, rfl⟩ := List.mem_map.1 hm
    obtain ⟨r, hr, hq⟩ := (h g hg).1 hp
    exact ⟨r, List.mem_flatten.2 ⟨g, hg, hr⟩, hq⟩
  · rintro ⟨r, hr, hq⟩
    obtain ⟨g, hg, hrg⟩ := List.mem_flatten.1 hr
    exact ⟨mergeAll g, List.mem_map_of_mem hg, (h g hg).2 ⟨r, hrg, hq⟩⟩

variable (hne : ∀ g ∈ groups, g ≠ [])

include hne

/-- The greatest length of a group may have been raised to its own least length. No group has a
least length above that of all, so in the end nothing more comes of that. -/
theorem maxLength_le_iff_of_groups {m : PasswordRule}
    (hm : m.IsMergeOf {m | m ∈ groups.map mergeAll}) {b : Int32} :
    m.maxLength ≤ b ↔
      m.minLength ≤ b ∧ ∃ r ∈ {r | r ∈ groups.flatten}, r.normalized.maxLength ≤ b := by
  rw [hm.maxLength_le_iff]
  refine and_congr_right fun hmin => exists_mem_map_mergeAll_iff fun g hg => ?_
  have hgroup : (mergeAll g).minLength ≤ b := by
    have hle := hm.normalized_minLength_le (r := mergeAll g) (List.mem_map_of_mem hg)
    rw [(settled_mergeAll g).normalized_eq] at hle
    exact Int32.le_trans hle hmin
  rw [(settled_mergeAll g).normalized_eq, (isMergeOf_mergeAll (hne g hg)).maxLength_le_iff]
  exact and_iff_right hgroup

/-- What merging the merged groups gives, the table says of all their rules. -/
theorem IsMergeOf.of_groups {m : PasswordRule} (hm : m.IsMergeOf {m | m ∈ groups.map mergeAll})
    (hflatten : groups.flatten ≠ []) : m.IsMergeOf {r | r ∈ groups.flatten} := by
  have hgroup : ∀ g ∈ groups, (mergeAll g).IsMergeOf {r | r ∈ g} := fun g hg =>
    isMergeOf_mergeAll (hne g hg)
  refine ⟨?_, ?_, fun f hf => ?_, fun c => ?_, fun c => ?_, fun w => ?_, ?_, hm.name,
    hm.forbiddenSchemas⟩
  · refine isGreatest_image_iff.2 fun b => ?_
    rw [isGreatest_image_iff.1 hm.minLength]
    refine exists_mem_map_mergeAll_iff fun g hg => ?_
    rw [(settled_mergeAll g).normalized_eq]
    exact isGreatest_image_iff.1 (hgroup g hg).minLength b
  · -- The smallest greatest length of all rules, which no group need have kept.
    obtain ⟨least, hleast, -⟩ := (isMergeOf_mergeAll hflatten).maxLength
    refine ⟨least, hleast, ?_⟩
    have hiff : ∀ b, m.maxLength ≤ b ↔ max m.minLength least ≤ b := fun b => by
      rw [maxLength_le_iff_of_groups hne hm, Std.max_le_iff, isLeast_image_iff.1 hleast]
    exact Int32.le_antisymm ((hiff _).2 (Int32.le_refl _)) ((hiff _).1 (Int32.le_refl _))
  · refine isGreatest_image_iff.2 fun b => ?_
    rw [isGreatest_image_iff.1 (hm.counts f hf)]
    refine exists_mem_map_mergeAll_iff fun g hg => ?_
    rw [max_eq_left ((settled_mergeAll g).counts_nonneg f hf)]
    exact isGreatest_image_iff.1 ((hgroup g hg).counts f hf) b
  · rw [hm.specialChars]
    exact exists_mem_map_mergeAll_iff fun g hg => (hgroup g hg).specialChars c
  · rw [hm.illegalChars]
    exact exists_mem_map_mergeAll_iff fun g hg => (hgroup g hg).illegalChars c
  · rw [hm.forbiddenWords]
    exact exists_mem_map_mergeAll_iff fun g hg => (hgroup g hg).forbiddenWords w
  · rw [hm.usernameAllowed]
    exact exists_mem_map_mergeAll_iff fun g hg => (hgroup g hg).usernameAllowed

end

/-- Merging group by group and then the results is merging all at once. -/
theorem mergeAll_flatten (groups : List (List PasswordRule)) (hne : ∀ g ∈ groups, g ≠ []) :
    mergeAll groups.flatten = mergeAll (groups.map mergeAll) := by
  cases groups with
  | nil => rfl
  | cons g groups =>
    have hflatten : (g :: groups).flatten ≠ [] := by
      rw [List.flatten_cons]
      exact List.append_ne_nil_of_left_ne_nil (hne g List.mem_cons_self) _
    have hstages := isMergeOf_mergeAll (List.cons_ne_nil (mergeAll g) (groups.map mergeAll))
    exact (isMergeOf_mergeAll hflatten).unique (hstages.of_groups hne hflatten)

/-! ## Rules in force among other rules -/

theorem name_mergeAll (rules : List PasswordRule) : (mergeAll rules).name = "" := by
  cases rules <;> rfl

theorem forbiddenSchemas_mergeAll (rules : List PasswordRule) :
    (mergeAll rules).forbiddenSchemas = ∅ := by
  cases rules <;> rfl

/-- A rule in force is put in force as it is. -/
theorem mergeAll_singleton_mergeAll (rules : List PasswordRule) :
    mergeAll [mergeAll rules] = mergeAll rules :=
  mergeAll_singleton_of_settled (settled_mergeAll rules) (name_mergeAll rules)
    (forbiddenSchemas_mergeAll rules)

/-- A rule in force stands for the rules it came from when more are added. -/
theorem mergeAll_cons_mergeAll {rules : List PasswordRule} (hne : rules ≠ [])
    (more : List PasswordRule) : mergeAll (mergeAll rules :: more) = mergeAll (rules ++ more) := by
  -- Both are the merge of the same results, those of the further rules taken one by one.
  have hsingle : ∀ g ∈ more.map ([·]), g ≠ [] := by
    intro g hg
    obtain ⟨r, -, rfl⟩ := List.mem_map.1 hg
    exact List.cons_ne_nil r []
  have hflat : (more.map ([·])).flatten = more := by
    rw [← List.flatMap_def, List.flatMap_singleton']
  have hone := mergeAll_flatten ([mergeAll rules] :: more.map ([·]))
    (List.forall_mem_cons.2 ⟨List.cons_ne_nil _ _, hsingle⟩)
  have hall := mergeAll_flatten (rules :: more.map ([·]))
    (List.forall_mem_cons.2 ⟨hne, hsingle⟩)
  rw [List.flatten_cons, hflat, List.map_cons, mergeAll_singleton_mergeAll] at hone
  rw [List.flatten_cons, hflat, List.map_cons] at hall
  exact hone.trans hall.symm

/-! ## Merges of merges -/

/-- **Merging can be done in stages.** The merge of some nonempty groups' merges is that of all
their rules, further rules can be added to a merge, and every merge is settled: it is normalized,
and merged alone it stays what it is. -/
theorem merge_stages :
    (∀ groups : List (List PasswordRule), (∀ g ∈ groups, g ≠ []) →
      merge (some groups.flatten) =
        (groups.mapM fun g => merge (some g)) >>= fun merged => merge (some merged)) ∧
    (∀ rules more : List PasswordRule, rules ≠ [] →
      merge (some (rules ++ more)) =
        merge (some rules) >>= fun merged => merge (some (merged :: more))) ∧
    ∀ rules : List PasswordRule, ∃ m, merge (some rules) = .ok m ∧ merge (some [m]) = .ok m ∧
      m.normalized = m := by
  refine ⟨fun groups hne => ?_, fun rules more hne => ?_, fun rules => ?_⟩
  · have hgroups : (groups.mapM fun g => merge (some g)) = .ok (groups.map mergeAll) :=
      List.mapM_pure
    rw [hgroups]
    exact congrArg Except.ok (mergeAll_flatten groups hne)
  · exact congrArg Except.ok (mergeAll_cons_mergeAll hne more).symm
  · exact ⟨mergeAll rules, rfl, congrArg Except.ok (mergeAll_singleton_mergeAll rules),
      (settled_mergeAll rules).normalized_eq⟩

/-- Groups of which the first has bounds that contradict each other. -/
def contraryGroups : List (List PasswordRule) :=
  [[{ minLength := 8, maxLength := 3 }, { minLength := 7, maxLength := 4, digits := -1 }],
    [{ minLength := 12, uppercase := 1 }], [{ maxLength := 14, digits := 2 }, {}]]

theorem merge_contraryGroups :
    (∀ g ∈ contraryGroups, g ≠ []) ∧
      merge (some contraryGroups.flatten) =
        ((contraryGroups.mapM fun g => merge (some g)) >>= fun merged => merge (some merged)) ∧
      merge (some contraryGroups.flatten) =
        .ok { minLength := 12, maxLength := 12, uppercase := 1, digits := 2 } := by
  have hne : ∀ g ∈ contraryGroups, g ≠ [] := by decide
  exact ⟨hne, merge_stages.1 contraryGroups hne, by decide⟩

end CredentialPolicy.PasswordRule
