import CredentialPolicy.Text.Dictionary
import Mathlib.Logic.Basic

/-!
Finite maps from texts by what their keys are mapped to: inserting or erasing a key changes what
that key is mapped to, and nothing else.
-/

set_option autoImplicit false

namespace CredentialPolicy.Text.Dictionary

variable {β : Type}

/-- The first entry is found by its own key and by no other. -/
theorem lookup_cons (key other : String) (value : β) (l : List (String × β)) :
    ((key, value) :: l).lookup other = if other = key then some value else l.lookup other := by
  by_cases h : other = key
  · rw [List.lookup_cons, beq_iff_eq.2 h, if_pos h]
  · rw [List.lookup_cons, beq_false_of_ne h, if_neg h]

/-- An entry goes in front of those with larger keys, or in place of the one with its own key, so
nothing else is found than before but by that key. The induction is on the entries that it goes
past. -/
theorem lookup_insertEntry (key other : String) (value : β) (l : List (String × β)) :
    (insertEntry key value l).lookup other =
      if other = key then some value else l.lookup other := by
  induction l with
  | nil => exact lookup_cons key other value []
  | cons e rest ih =>
    obtain ⟨k, v⟩ := e
    simp only [insertEntry]
    by_cases hbefore : key < k
    · rw [if_pos hbefore, lookup_cons]
    · rw [if_neg hbefore]
      by_cases hbehind : k < key
      · -- The new entry goes further down, so `k` keeps its value and is not the new key.
        have hne : k ≠ key := fun h => Std.lt_irrefl (h ▸ hbehind)
        rw [if_pos hbehind, lookup_cons, lookup_cons, ih]
        by_cases hother : other = k
        · rw [if_pos hother, if_pos hother, if_neg (hother ▸ hne)]
        · rw [if_neg hother, if_neg hother]
      · obtain rfl : k = key := Std.le_antisymm (Std.not_lt.1 hbefore) (Std.not_lt.1 hbehind)
        rw [if_neg hbehind, lookup_cons, lookup_cons]
        by_cases hother : other = k
        · rw [if_pos hother, if_pos hother]
        · rw [if_neg hother, if_neg hother, if_neg hother]

/-- Without the entries of a key nothing is found by it, and all else is found as before. -/
theorem lookup_filter_ne (key other : String) (l : List (String × β)) :
    (l.filter fun e => e.1 ≠ key).lookup other =
      if other = key then none else l.lookup other := by
  induction l with
  | nil => exact (ite_self none).symm
  | cons e rest ih =>
    obtain ⟨k, v⟩ := e
    by_cases hk : k = key
    · rw [List.filter_cons_of_neg (by simpa using hk), ih, lookup_cons]
      by_cases hother : other = key
      · rw [if_pos hother, if_pos hother]
      · rw [if_neg hother, if_neg hother, if_neg (hk ▸ hother)]
    · rw [List.filter_cons_of_pos (by simpa using hk), lookup_cons, lookup_cons, ih]
      by_cases hother : other = k
      · rw [if_pos hother, if_pos hother, if_neg (hother ▸ hk)]
      · rw [if_neg hother, if_neg hother]

/-- A key that is inserted is mapped to what it is inserted with, and no other key is touched. -/
theorem get?_insert (d : Dictionary β) (key other : String) (value : β) :
    (d.insert key value).get? other = if other = key then some value else d.get? other :=
  lookup_insertEntry key other value d.entries

/-- A key that is erased is mapped to nothing, and no other key is touched. -/
theorem get?_erase (d : Dictionary β) (key other : String) :
    (d.erase key).get? other = if other = key then none else d.get? other :=
  lookup_filter_ne key other d.entries

/-- A key is listed exactly if it is mapped to something. -/
theorem mem_keys_iff {d : Dictionary β} {key : String} : key ∈ d.keys ↔ (d.get? key).isSome := by
  unfold keys get?
  induction d.entries with
  | nil => simp
  | cons e rest ih =>
    obtain ⟨k, v⟩ := e
    rw [List.map_cons, List.mem_cons, ih, lookup_cons]
    by_cases h : key = k
    · simp [h]
    · simp [h]

end CredentialPolicy.Text.Dictionary
