/-!
Finite sets kept as strictly ascending lists.

A set has one list only, so equal sets are equal values and listing a set needs no sorting. The
operations are membership, `insert`, `union`, `filter` and `ofList`; each is pinned down by what it
does to membership, and two sets with the same members are equal (`Ascending.ext_mem`).
-/

set_option autoImplicit false

namespace CredentialPolicy

/-- A finite set, listed in strictly ascending order. -/
structure Ascending (α : Type) [LT α] where
  /-- The members, smallest first. -/
  toList : List α
  /-- Each member is below all later ones. -/
  ascending : toList.Pairwise (· < ·)

namespace Ascending

section Basic

variable {α : Type} [LT α]

@[ext] theorem ext {s t : Ascending α} (h : s.toList = t.toList) : s = t := by
  cases s; cases t; simp_all

instance [DecidableEq α] : DecidableEq (Ascending α) := fun s t =>
  decidable_of_iff (s.toList = t.toList) ⟨ext, fun h => h ▸ rfl⟩

instance : Membership α (Ascending α) := ⟨fun s a => a ∈ s.toList⟩

theorem mem_def {s : Ascending α} {a : α} : a ∈ s ↔ a ∈ s.toList := Iff.rfl

instance [DecidableEq α] (a : α) (s : Ascending α) : Decidable (a ∈ s) :=
  inferInstanceAs (Decidable (a ∈ s.toList))

/-- The set without members. -/
def empty : Ascending α := ⟨[], .nil⟩

instance : EmptyCollection (Ascending α) := ⟨empty⟩

instance : Inhabited (Ascending α) := ⟨∅⟩

@[simp] theorem toList_empty : (∅ : Ascending α).toList = [] := rfl

@[simp] theorem not_mem_empty (a : α) : ¬ a ∈ (∅ : Ascending α) := by simp [mem_def]

/-- Whether the set has no member. -/
def isEmpty (s : Ascending α) : Bool := s.toList.isEmpty

/-- The members that satisfy a test. -/
def filter (p : α → Bool) (s : Ascending α) : Ascending α :=
  ⟨s.toList.filter p, s.ascending.sublist List.filter_sublist⟩

@[simp] theorem mem_filter {p : α → Bool} {s : Ascending α} {a : α} :
    a ∈ s.filter p ↔ a ∈ s ∧ p a = true := by simp [mem_def, filter]

section Extensionality

variable [LE α] [Std.LawfulOrderLT α]

theorem eq_of_mem_iff_of_pairwise {l m : List α} (hl : l.Pairwise (· < ·))
    (hm : m.Pairwise (· < ·)) (h : ∀ x, x ∈ l ↔ x ∈ m) : l = m := by
  induction l generalizing m with
  | nil =>
    cases m with
    | nil => rfl
    | cons b _ => exact absurd ((h b).2 List.mem_cons_self) List.not_mem_nil
  | cons a r ih =>
    cases m with
    | nil => exact absurd ((h a).1 List.mem_cons_self) List.not_mem_nil
    | cons b q =>
      have ha := List.pairwise_cons.1 hl
      have hb := List.pairwise_cons.1 hm
      have hab : a = b := by
        rcases List.mem_cons.1 ((h a).1 List.mem_cons_self) with e | haq
        · exact e
        · rcases List.mem_cons.1 ((h b).2 List.mem_cons_self) with e | hbr
          · exact e.symm
          · exact absurd (ha.1 b hbr) (Std.Asymm.asymm _ _ (hb.1 a haq))
      subst hab
      congr 1
      refine ih ha.2 hb.2 fun x => ⟨fun hx => ?_, fun hx => ?_⟩
      · rcases List.mem_cons.1 ((h x).1 (List.mem_cons_of_mem _ hx)) with e | hq
        · exact absurd (e ▸ ha.1 x hx) (Std.Irrefl.irrefl a)
        · exact hq
      · rcases List.mem_cons.1 ((h x).2 (List.mem_cons_of_mem _ hx)) with e | hr
        · exact absurd (e ▸ hb.1 x hx) (Std.Irrefl.irrefl a)
        · exact hr

/-- Two sets with the same members are equal. -/
theorem ext_mem {s t : Ascending α} (h : ∀ x, x ∈ s ↔ x ∈ t) : s = t :=
  ext (eq_of_mem_iff_of_pairwise s.ascending t.ascending h)

end Extensionality

end Basic

section Ordered

variable {α : Type} [LE α] [LT α] [Std.LawfulOrderLT α] [Std.IsLinearOrder α] [DecidableLT α]

/-- A new member goes before the first larger one; a member already listed stays alone. -/
def insertList (a : α) : List α → List α
  | [] => [a]
  | b :: r => if a < b then a :: b :: r else if b < a then b :: insertList a r else b :: r

theorem mem_insertList {a x : α} {l : List α} : x ∈ insertList a l ↔ x = a ∨ x ∈ l := by
  induction l with
  | nil => simp [insertList]
  | cons b r ih =>
    unfold insertList
    split
    · simp
    · split
      · simp [ih]; grind
      · have hab : a = b := Std.le_antisymm (Std.not_lt.1 ‹¬ b < a›) (Std.not_lt.1 ‹¬ a < b›)
        simp [hab]

theorem pairwise_insertList {a : α} {l : List α} (h : l.Pairwise (· < ·)) :
    (insertList a l).Pairwise (· < ·) := by
  induction l with
  | nil => simp [insertList]
  | cons b r ih =>
    have hb := List.pairwise_cons.1 h
    unfold insertList
    split
    · refine List.pairwise_cons.2 ⟨fun x hx => ?_, h⟩
      cases hx with
      | head => assumption
      | tail _ hx => exact Std.lt_trans ‹a < b› (hb.1 x hx)
    · split
      · refine List.pairwise_cons.2 ⟨fun x hx => ?_, ih hb.2⟩
        rcases mem_insertList.1 hx with rfl | hx
        · assumption
        · exact hb.1 x hx
      · exact h

/-- Adds a member. -/
def insert (a : α) (s : Ascending α) : Ascending α :=
  ⟨insertList a s.toList, pairwise_insertList s.ascending⟩

@[simp] theorem mem_insert {a x : α} {s : Ascending α} : x ∈ s.insert a ↔ x = a ∨ x ∈ s :=
  mem_insertList

/-- Adds every member of a list. -/
def insertAll (s : Ascending α) (l : List α) : Ascending α := l.foldl (fun t a => t.insert a) s

@[simp] theorem mem_insertAll {x : α} {s : Ascending α} {l : List α} :
    x ∈ s.insertAll l ↔ x ∈ s ∨ x ∈ l := by
  induction l generalizing s with
  | nil => simp [insertAll]
  | cons a r ih =>
    have := ih (s := s.insert a)
    simp only [insertAll, List.foldl_cons] at this ⊢
    rw [this]
    simp
    grind

/-- The set of a list's elements: their order and repetitions do not matter. -/
def ofList (l : List α) : Ascending α := insertAll ∅ l

@[simp] theorem mem_ofList {x : α} {l : List α} : x ∈ ofList l ↔ x ∈ l := by simp [ofList]

/-- The set of the members of either set. -/
def union (s t : Ascending α) : Ascending α := s.insertAll t.toList

instance : Union (Ascending α) := ⟨union⟩

@[simp] theorem mem_union {x : α} {s t : Ascending α} : x ∈ s ∪ t ↔ x ∈ s ∨ x ∈ t :=
  mem_insertAll

/-- Listing a set and reading the list back gives the set. -/
theorem ofList_toList (s : Ascending α) : ofList s.toList = s :=
  ext_mem fun _ => by simp [← mem_def]

end Ordered

end Ascending

end CredentialPolicy
