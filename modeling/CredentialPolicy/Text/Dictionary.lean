import CredentialPolicy.Ascending

/-!
Finite maps from texts, kept in ascending order of their keys.
-/

set_option autoImplicit false

namespace CredentialPolicy.Text

/-- A finite map from texts: its entries in ascending order of their keys, which are all distinct.
-/
structure Dictionary (β : Type) where
  /-- The keys and what they are mapped to, smallest key first. -/
  entries : List (String × β)
  /-- Each key is below all later ones. -/
  ascending : (entries.map (·.1)).Pairwise (· < ·)

namespace Dictionary

variable {β : Type}

@[ext] theorem ext {d e : Dictionary β} (h : d.entries = e.entries) : d = e := by
  cases d; cases e; simp_all

instance [DecidableEq β] : DecidableEq (Dictionary β) := fun d e =>
  decidable_of_iff (d.entries = e.entries) ⟨ext, fun h => h ▸ rfl⟩

/-- The map without entries. -/
def empty : Dictionary β := ⟨[], .nil⟩

instance : EmptyCollection (Dictionary β) := ⟨empty⟩

instance : Inhabited (Dictionary β) := ⟨∅⟩

/-- The keys, in ascending order. -/
def keys (d : Dictionary β) : List String := d.entries.map (·.1)

/-- What a key is mapped to. -/
def get? (d : Dictionary β) (key : String) : Option β := d.entries.lookup key

/-- Whether a key is mapped to something. -/
def contains (d : Dictionary β) (key : String) : Bool := (d.get? key).isSome

/-- The entries without that of a key. -/
def erase (d : Dictionary β) (key : String) : Dictionary β :=
  ⟨d.entries.filter (fun e => e.1 ≠ key),
    d.ascending.sublist (List.filter_sublist.map _)⟩

/-- Puts an entry before the first one with a larger key, in place of one with the same key. -/
def insertEntry (key : String) (value : β) : List (String × β) → List (String × β)
  | [] => [(key, value)]
  | e :: r =>
    if key < e.1 then (key, value) :: e :: r
    else if e.1 < key then e :: insertEntry key value r
    else (key, value) :: r

theorem keys_insertEntry (key : String) (value : β) (l : List (String × β)) :
    (insertEntry key value l).map (·.1) = Ascending.insertList key (l.map (·.1)) := by
  induction l with
  | nil => rfl
  | cons e r ih =>
    simp only [insertEntry, List.map_cons, Ascending.insertList]
    split
    · rfl
    · split
      · simp [ih]
      · have : key = e.1 :=
          Std.le_antisymm (Std.not_lt.1 ‹¬ e.1 < key›) (Std.not_lt.1 ‹¬ key < e.1›)
        simp [this]

/-- Maps a key to a value, whatever it was mapped to. -/
def insert (d : Dictionary β) (key : String) (value : β) : Dictionary β :=
  ⟨insertEntry key value d.entries, by
    rw [keys_insertEntry]; exact Ascending.pairwise_insertList d.ascending⟩

/-- The map with the given entries; of several for one key the last one counts. -/
def ofList (l : List (String × β)) : Dictionary β := l.foldl (fun d e => d.insert e.1 e.2) ∅

end Dictionary

end CredentialPolicy.Text
