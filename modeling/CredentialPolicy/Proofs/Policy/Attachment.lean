import CredentialPolicy.Policy.Basic
import Mathlib.Data.List.Induction
import Mathlib.Data.List.Nodup

/-!
Attaching rules keeps their order and takes none twice.

A call looks at the rules that the policy has by then. A rule that was refused was there already, so
these are the rules that it had at first and those that calls have named since, though not each as
often (`mem_append_firstOccurrences`). A run of calls can therefore be described by the rules that
it names: it adds those that differ from every rule before them (`firstOccurrences`), and tells so
where it is asked (`answersTo`).

The run is followed from its end, where a step is one call (`attachAll_eq`). That the same run
changes nothing the second time needs no induction: all of its rules are there by then.
-/

set_option autoImplicit false

namespace CredentialPolicy

/-- The answer to a call whose rule was added, or was not. -/
def Attachment.answer (added : Bool) : Attachment → Option Bool
  | add _ => some added
  | withRule _ => none

/-! ## First occurrences -/

/-- Those of some added rules that differ from every rule before them: from the rules that were
there at first and from those that were added earlier. -/
def firstOccurrences (rules added : List StoredRule) : List StoredRule :=
  (List.range added.length).filterMap fun i =>
    added[i]?.filter fun rule => rule ∉ rules ++ added.take i

/-- The answers to some calls, if a rule is added where it differs from every rule before it. -/
def answersTo (rules : List StoredRule) (calls : List Attachment) : List (Option Bool) :=
  calls.mapIdx fun i call =>
    call.answer (call.rule ∉ rules ++ (calls.take i).map Attachment.rule)

section

variable {rules added : List StoredRule} {rule last : StoredRule}

theorem firstOccurrences_nil : firstOccurrences rules [] = [] := rfl

/-- Whether a rule is a first occurrence is settled by what stands before it, so a rule at the end
changes nothing for the others. -/
theorem firstOccurrences_concat :
    firstOccurrences rules (added ++ [last]) =
      firstOccurrences rules added ++ if last ∈ rules ++ added then [] else [last] := by
  unfold firstOccurrences
  rw [List.length_append, List.length_singleton, List.range_succ, List.filterMap_append]
  congr 1
  · -- What stands before a place of `added` is the same with another rule behind them all.
    apply List.filterMap_congr
    intro i hi
    rw [List.mem_range] at hi
    rw [List.getElem?_append_left hi, List.take_append_of_le_length (Nat.le_of_lt hi)]
  · rw [List.filterMap_cons, List.filterMap_nil, List.getElem?_concat_length,
      List.take_append_length, Option.filter_some]
    simp only [decide_eq_true_eq, ite_not]
    by_cases h : last ∈ rules ++ added
    · rw [if_pos h, if_pos h]
    · rw [if_neg h, if_neg h]

/-- Whether a rule was added or refused, it is there afterwards. -/
theorem mem_append_firstOccurrences :
    rule ∈ rules ++ firstOccurrences rules added ↔ rule ∈ rules ++ added := by
  induction added using List.reverseRecOn with
  | nil => rw [firstOccurrences_nil]
  | append_singleton added last ih =>
    rw [firstOccurrences_concat, ← List.append_assoc, ← List.append_assoc,
      List.mem_append (s := rules ++ firstOccurrences rules added), ih,
      List.mem_append (s := rules ++ added), List.mem_singleton]
    by_cases h : last ∈ rules ++ added
    · rw [if_pos h]
      constructor
      · rintro (hrule | hnil)
        · exact Or.inl hrule
        · exact absurd hnil List.not_mem_nil
      · rintro (hrule | rfl)
        · exact Or.inl hrule
        · exact Or.inl h
    · rw [if_neg h, List.mem_singleton]

/-- A rule stands there twice only if it did so before. -/
theorem nodup_append_firstOccurrences :
    (rules ++ firstOccurrences rules added).Nodup ↔ rules.Nodup := by
  induction added using List.reverseRecOn with
  | nil => rw [firstOccurrences_nil, List.append_nil]
  | append_singleton added last ih =>
    rw [firstOccurrences_concat, ← List.append_assoc]
    by_cases h : last ∈ rules ++ added
    · rw [if_pos h, List.append_nil, ih]
    · have hnew : last ∉ rules ++ firstOccurrences rules added := by
        rwa [mem_append_firstOccurrences]
      rw [if_neg h, (List.perm_append_singleton last _).nodup_iff, List.nodup_cons,
        and_iff_right hnew, ih]

/-- Rules that are all there already have no first occurrences. -/
theorem firstOccurrences_eq_nil (h : ∀ rule ∈ added, rule ∈ rules) :
    firstOccurrences rules added = [] := by
  rw [firstOccurrences, List.filterMap_eq_nil_iff]
  intro i _
  rw [Option.filter_eq_none_iff]
  intro rule hrule
  have hmem : rule ∈ rules ++ added.take i :=
    List.mem_append_left _ (h rule (List.mem_of_getElem? hrule))
  rw [decide_eq_true_eq]
  exact not_not_intro hmem

/-- An answer too is settled by the calls before it. -/
theorem answersTo_concat {calls : List Attachment} {call : Attachment} :
    answersTo rules (calls ++ [call]) =
      answersTo rules calls ++
        [call.answer (call.rule ∉ rules ++ calls.map Attachment.rule)] := by
  unfold answersTo
  rw [List.mapIdx_concat, List.take_append_length]
  congr 1
  rw [List.mapIdx_eq_mapIdx_iff]
  intro i hi
  rw [List.take_append_of_le_length (Nat.le_of_lt hi)]

end

namespace Policy

variable {π : Type} [Policy π]

/-! ## One call and a run of calls -/

/-- Either call does the same to the policy. -/
theorem attach_eq (call : Attachment) (p : π) :
    attach call p =
      (call.answer (call.rule ∉ rules p),
        withRules p (rules p ++ if call.rule ∈ rules p then [] else [call.rule])) := by
  have hadd : ∀ rule, add rule p = (decide (rule ∉ rules p),
      withRules p (rules p ++ if rule ∈ rules p then [] else [rule])) := by
    intro rule
    have hnew : rule.isNew (rules p) = decide (rule ∉ rules p) := by
      rw [StoredRule.isNew, List.contains_eq_mem, decide_not]
    show (if rule.isNew (rules p) = true then _ else _ : StateM π Bool) p = _
    rw [hnew]
    by_cases h : rule ∈ rules p
    · rw [decide_eq_false (not_not_intro h), if_pos h, List.append_nil, withRules_rules]
      rfl
    · rw [decide_eq_true h, if_neg h]
      rfl
  cases call with
  | add rule =>
    show (some (add rule p).1, (add rule p).2) = _
    rw [hadd]
    rfl
  | withRule rule =>
    show (none, (add rule p).2) = _
    rw [hadd]
    rfl

theorem attachAll_concat (calls : List Attachment) (call : Attachment) (p : π) :
    attachAll (calls ++ [call]) p =
      ((attachAll calls p).1 ++ [(attach call (attachAll calls p).2).1],
        (attach call (attachAll calls p).2).2) := by
  rw [attachAll, List.mapM_append]
  rfl

/-- A run of calls, by the rules that it names. The induction is on the calls from their end, and
what a call finds are the rules that were named before, though not each as often. -/
theorem attachAll_eq (calls : List Attachment) (p : π) :
    attachAll calls p =
      (answersTo (rules p) calls,
        withRules p (rules p ++ firstOccurrences (rules p) (calls.map Attachment.rule))) := by
  induction calls using List.reverseRecOn with
  | nil =>
    rw [List.map_nil, firstOccurrences_nil, List.append_nil, withRules_rules]
    rfl
  | append_singleton calls call ih =>
    rw [attachAll_concat, ih, attach_eq, rules_withRules, withRules_withRules]
    simp only [mem_append_firstOccurrences]
    rw [answersTo_concat, List.map_append, List.map_singleton, firstOccurrences_concat,
      List.append_assoc]

/-- The same run again finds all of its rules there. -/
theorem attachAll_replay (calls : List Attachment) (p : π) :
    (attachAll calls (attachAll calls p).2).2 = (attachAll calls p).2 := by
  have hrules : rules (attachAll calls p).2 =
      rules p ++ firstOccurrences (rules p) (calls.map Attachment.rule) := by
    rw [attachAll_eq, rules_withRules]
  have hnone : firstOccurrences (rules (attachAll calls p).2) (calls.map Attachment.rule) = [] := by
    apply firstOccurrences_eq_nil
    intro rule hrule
    rw [hrules, mem_append_firstOccurrences]
    exact List.mem_append_right _ hrule
  rw [attachAll_eq calls (attachAll calls p).2, hnone, List.append_nil, withRules_rules]

/-- No run brings a rule in twice. -/
theorem nodup_attachAll_iff (calls : List Attachment) (p : π) :
    (rules (attachAll calls p).2).Nodup ↔ (rules p).Nodup := by
  rw [attachAll_eq, rules_withRules, nodup_append_firstOccurrences]

/-- **Attaching rules.** Whatever rules a policy has, the calls of any run add to them those that
differ from every rule before them, in the order in which they are named first. Of the calls that
answer, exactly those answer that their rule was added; nothing else of the policy changes; and the
same run again leaves the policy as it is. A policy that was empty at first never has a rule
twice. -/
theorem attached_in_order (calls : List Attachment) :
    (∀ p : PasswordPolicy,
        attachAll calls p =
            (answersTo p.rules calls,
              { p with rules :=
                p.rules ++ firstOccurrences p.rules (calls.map Attachment.rule) }) ∧
          (attachAll calls (attachAll calls p).2).2 = (attachAll calls p).2) ∧
      (∀ p : AccountPolicy,
        attachAll calls p =
            (answersTo p.rules calls,
              { p with rules :=
                p.rules ++ firstOccurrences p.rules (calls.map Attachment.rule) }) ∧
          (attachAll calls (attachAll calls p).2).2 = (attachAll calls p).2) ∧
      ∀ (id : Text.Uuid) (name : String),
        (attachAll calls (PasswordPolicy.empty id name)).2.rules.Nodup ∧
          (attachAll calls (AccountPolicy.empty id name)).2.rules.Nodup := by
  refine ⟨fun p => ⟨attachAll_eq calls p, attachAll_replay calls p⟩,
    fun p => ⟨attachAll_eq calls p, attachAll_replay calls p⟩, fun id name => ⟨?_, ?_⟩⟩
  · exact (nodup_attachAll_iff calls (PasswordPolicy.empty id name)).2 List.nodup_nil
  · exact (nodup_attachAll_iff calls (AccountPolicy.empty id name)).2 List.nodup_nil

/-- Rules that a policy has twice stay, and one that differs in its engine alone is another one. -/
example :
    attachAll [.add ⟨"a", "TOML", .password, ""⟩, .withRule ⟨"a", "JSON", .password, ""⟩,
        .add ⟨"a", "TOML", .password, ""⟩]
        ({ id := ⟨0⟩, name := "p",
           rules := [⟨"a", "JSON", .password, ""⟩, ⟨"a", "JSON", .password, ""⟩] } :
          PasswordPolicy) =
      ([some true, none, some false],
        { id := ⟨0⟩, name := "p",
          rules := [⟨"a", "JSON", .password, ""⟩, ⟨"a", "JSON", .password, ""⟩,
            ⟨"a", "TOML", .password, ""⟩] }) := by
  rfl

end Policy

end CredentialPolicy
