import CredentialPolicy.Document.Record
import Mathlib.Data.List.Nodup

/-!
Records by the names of their fields, and values of the kinds that fields have.

A record whose keys are pairwise different is read by looking its keys up, and each key gives the
value it stands beside (`Fields.ofValue?_record`, `lookup_of_mem`); in which order the fields stand
and which others stand among them makes no difference to that. A field's value then gives back what
it was made from: an integer of 32 bits, or a list of what is read back one by one.
-/

set_option autoImplicit false

namespace CredentialPolicy.Document

/-! ## Fields -/

/-- Among pairwise different keys each stands beside one value. -/
theorem lookup_of_mem {fields : List (String × Value)} (h : (fields.map (·.1)).Nodup) {k : String}
    {v : Value} (hmem : (k, v) ∈ fields) : fields.lookup k = some v := by
  induction fields with
  | nil => exact absurd hmem List.not_mem_nil
  | cons f fields ih =>
    obtain ⟨hf, hfields⟩ := List.nodup_cons.1 h
    rw [List.lookup_cons]
    rcases List.mem_cons.1 hmem with rfl | hmem
    · rw [beq_self_eq_true]
    · have hk : k ∈ fields.map (·.1) := List.mem_map.2 ⟨(k, v), hmem, rfl⟩
      have hne : k ≠ f.1 := by
        rintro rfl
        exact hf hk
      rw [beq_false_of_ne hne]
      exact ih hfields hmem

namespace Fields

/-- A record with pairwise different keys is read by looking its keys up. -/
theorem ofValue?_record {fields : List (String × Value)} (h : (fields.map (·.1)).Nodup)
    (surplus : Surplus) (names : List String) :
    Fields.ofValue? surplus names (.record fields) = some fun name => fields.lookup name := by
  have hcount : ∀ name, fields.countP (fun f => f.1 = name) ≤ 1 := by
    intro name
    have hmap : fields.countP (fun f => f.1 = name) = (fields.map (·.1)).count name := by
      rw [List.count, List.countP_map]
      exact List.countP_congr fun f _ => by simp
    rw [hmap]
    exact List.nodup_iff_count_le_one.1 h name
  unfold Fields.ofValue?
  exact if_pos (List.all_eq_true.2 fun name _ => decide_eq_true (hcount name))

/-- The fields give each of some names the value beside it. -/
def Gives (f : Fields) (fields : List (String × Value)) : Prop := ∀ e ∈ fields, f e.1 = some e.2

/-- A record with pairwise different keys gives its fields, whichever of them are asked for. -/
theorem exists_gives (fields : List (String × Value)) (h : (fields.map (·.1)).Nodup)
    (surplus : Surplus) (names : List String) :
    ∃ f, Fields.ofValue? surplus names (.record fields) = some f ∧ f.Gives fields :=
  ⟨_, ofValue?_record h surplus names, fun _ he => lookup_of_mem h he⟩

variable {α : Type} {f : Fields} {name : String} {v : Value}

theorem required_of_eq (h : f name = some v) (read : Value → Option α) :
    f.required name read = read v := by
  rw [required, h]

/-- The default has no part in reading a field that is given. -/
theorem withDefault_of_eq (h : f name = some v) (read : Value → Option α) (default : α) :
    f.withDefault name read default = read v := by
  rw [withDefault, h]

end Fields

/-! ## Values -/

namespace Value

theorem itemsUpTo_eq_map (depth : Nat) (items : List Value) :
    itemsUpTo depth items = items.map (upTo depth) := by
  induction items with
  | nil => rfl
  | cons v items ih => rw [itemsUpTo, ih, List.map_cons]

theorem fieldsUpTo_eq_map (depth : Nat) (fields : List (String × Value)) :
    fieldsUpTo depth fields = fields.map fun f => (f.1, f.2.upTo depth) := by
  induction fields with
  | nil => rfl
  | cons f fields ih => rw [fieldsUpTo, ih, List.map_cons]

theorem readableItems_eq_all (items : List Value) : readableItems items = items.all readable := by
  induction items with
  | nil => rfl
  | cons v items ih => rw [readableItems, ih, List.all_cons]

theorem readableFields_eq_all (fields : List (String × Value)) :
    readableFields fields = fields.all (·.2.readable) := by
  induction fields with
  | nil => rfl
  | cons f fields ih => rw [readableFields, ih, List.all_cons]

/-- Items that are read back one by one are read back together. -/
theorem items?_map {α : Type} {read : Value → Option α} {write : α → Value}
    (h : ∀ a, read (write a) = some a) (l : List α) :
    (Value.list (l.map write)).items? read = some l := by
  rw [items?, List.mapM_map]
  induction l with
  | nil => rfl
  | cons a l ih =>
    rw [List.mapM_cons, ih, Function.comp_apply, h]
    rfl

theorem char?_toString (c : Char) : (Value.text c.toString).char? = some c := by
  rw [char?, Char.toString, String.toList_singleton]

/-- The reader checks the range, and an integer of 32 bits is always in it. -/
theorem int32?_ofInt32 (i : Int32) : (ofInt32 i).int32? = some i := by
  have hle := i.le_toInt
  have hlt := i.toInt_lt
  rw [ofInt32, int32?, if_pos (by omega), Int32.ofInt_toInt]

theorem uint32?_toNat (n : UInt32) : (Value.int n.toNat).uint32? = some n := by
  have hlt := n.toNat_lt
  rw [uint32?, if_pos (by omega), Int.toNat_natCast, UInt32.ofNat_toNat]

end Value

end CredentialPolicy.Document
