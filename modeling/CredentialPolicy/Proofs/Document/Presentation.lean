import CredentialPolicy.Proofs.Document.Record

/-!
Many values say the same.

A set may be listed in any order and with repetitions (`Presents`), and what a field is written from
is read back from each of its presentations (`ReadBack`). A field that has its default may not be
written at all. So fields are compared by what they show (`Fields.Shows`): a field that is shown is
read, whatever shows it (`Fields.withDefault_of_shows`). Fields come from a record, by their names
(`ofValue?_record_iff`), or from a list, by their places (`exists_lookup_zip`).
-/

set_option autoImplicit false

namespace CredentialPolicy.Document

/-! ## Values under a name -/

/-- The values that a record gives under a name, in order. -/
def valuesOf (name : String) (members : List (String × Value)) : List Value :=
  (members.filter (·.1 = name)).map (·.2)

variable {name : String} {members : List (String × Value)} {names : List String} {f : Fields}

/-- Looking a name up gives the first of its values. -/
theorem lookup_eq_head? (name : String) (members : List (String × Value)) :
    members.lookup name = (valuesOf name members).head? := by
  induction members with
  | nil => rfl
  | cons m members ih =>
    rw [List.lookup_cons, valuesOf, List.filter_cons]
    by_cases h : m.1 = name
    · simp [h]
    · rw [beq_false_of_ne (Ne.symm h), if_neg (by simpa using h)]
      exact ih

theorem valuesOf_eq_nil (h : ∀ m ∈ members, m.1 ≠ name) : valuesOf name members = [] := by
  rw [valuesOf, List.map_eq_nil_iff, List.filter_eq_nil_iff]
  simpa using h

/-- Among members with different names, each name gives one value. -/
theorem valuesOf_of_mem (hnodup : (members.map (·.1)).Nodup) :
    ∀ m ∈ members, valuesOf m.1 members = [m.2] := by
  induction members with
  | nil => exact List.forall_mem_nil _
  | cons first members ih =>
    obtain ⟨hnew, hnodup⟩ := List.nodup_cons.1 hnodup
    have hne : ∀ m ∈ members, m.1 ≠ first.1 := fun m hm heq =>
      hnew (List.mem_map.2 ⟨m, hm, heq⟩)
    rw [List.forall_mem_cons]
    constructor
    · rw [valuesOf, List.filter_cons, if_pos (decide_eq_true rfl), List.map_cons]
      exact congrArg (first.2 :: ·) (valuesOf_eq_nil hne)
    · intro m hm
      rw [valuesOf, List.filter_cons, if_neg (by simpa using (hne m hm).symm)]
      exact ih hnodup m hm

/-- A record that must not repeat itself is read exactly if none of the names asked for is in it
twice. -/
theorem ofValue?_record_iff :
    Fields.ofValue? .refused names (.record members) = some f ↔
      (∀ name ∈ names, (valuesOf name members).length ≤ 1) ∧
        f = fun name => (valuesOf name members).head? := by
  have hlength : ∀ name, members.countP (fun m => m.1 = name) = (valuesOf name members).length := by
    intro name
    rw [valuesOf, List.length_map, List.countP_eq_length_filter]
  unfold Fields.ofValue?
  simp only [hlength, lookup_eq_head?, Option.ite_none_right_eq_some, List.all_eq_true,
    decide_eq_true_eq, Option.some.injEq]
  exact and_congr_right fun _ => eq_comm

/-! ## Presentations of values -/

/-- A value as it may be written in a document: a set may be listed in any order and with
repetitions. -/
inductive Presents : Value → Value → Prop where
  | same (v : Value) : Presents v v
  | set {items listed : List Value} (h : ∀ v, v ∈ listed ↔ v ∈ items) :
    Presents (.list items) (.list listed)

variable {α : Type} {read : Value → Option α} {write : α → Value}

/-- A list whose items are all written from something is written from a list. -/
theorem exists_eq_map_of_forall {listed : List Value} (h : ∀ v ∈ listed, ∃ a, write a = v) :
    ∃ l : List α, listed = l.map write := by
  induction listed with
  | nil => exact ⟨[], rfl⟩
  | cons v listed ih =>
    obtain ⟨⟨a, rfl⟩, hrest⟩ := List.forall_mem_cons.1 h
    obtain ⟨l, rfl⟩ := ih hrest
    exact ⟨a :: l, rfl⟩

/-- A list of the same items is read as a list of the same members. -/
theorem Presents.items? (hread : ∀ a, read (write a) = some a) {l : List α} {v : Value}
    (h : Presents (.list (l.map write)) v) : ∃ m, v.items? read = some m ∧ ∀ a, a ∈ m ↔ a ∈ l := by
  obtain ⟨listed, rfl, hmem⟩ : ∃ listed, v = .list listed ∧ ∀ v, v ∈ listed ↔ v ∈ l.map write := by
    cases h with
    | same => exact ⟨_, rfl, fun _ => Iff.rfl⟩
    | set h => exact ⟨_, rfl, h⟩
  obtain ⟨m, rfl⟩ : ∃ m : List α, listed = m.map write := by
    refine exists_eq_map_of_forall fun v hv => ?_
    obtain ⟨a, -, rfl⟩ := List.mem_map.1 ((hmem v).1 hv)
    exact ⟨a, rfl⟩
  have hinj : Function.Injective write := fun a b hab =>
    Option.some.inj ((hread a).symm.trans ((congrArg read hab).trans (hread b)))
  refine ⟨m, Value.items?_map hread m, fun a => ?_⟩
  rw [← List.mem_map_of_injective hinj, hmem, List.mem_map_of_injective hinj]

/-- Listing a set another way brings in no value that a reader refuses. -/
theorem Presents.readable {w v : Value} (h : Presents w v) (hw : w.readable = true) :
    v.readable = true := by
  cases h with
  | same => exact hw
  | set h =>
    rw [Value.readable, Value.readableItems_eq_all, List.all_eq_true] at hw ⊢
    exact fun v hv => hw v ((h v).1 hv)

/-- The value that writes something is read back in each of its presentations. -/
def ReadBack (read : Value → Option α) (write : α → Value) : Prop :=
  ∀ a v, Presents (write a) v → read v = some a

theorem readBack_text : ReadBack Value.text? Value.text := by
  rintro s _ (_ | _)
  rfl

theorem readBack_bool : ReadBack Value.bool? Value.bool := by
  rintro b _ (_ | _)
  rfl

theorem readBack_int32 : ReadBack Value.int32? Value.ofInt32 := by
  intro i v h
  obtain rfl : v = .ofInt32 i := by
    unfold Value.ofInt32 at h
    cases h
    rfl
  exact Value.int32?_ofInt32 i

/-- A set of characters is read back however it is listed. -/
theorem readBack_charSet : ReadBack Value.charSet? Value.ofCharSet := by
  intro s v h
  obtain ⟨l, hl, hmem⟩ := h.items? Value.char?_toString
  rw [Value.charSet?, hl, Option.map_some]
  refine congrArg some (Ascending.ext_mem fun c => ?_)
  rw [Ascending.mem_ofList, hmem, Ascending.mem_def]

/-- A set of texts is read back however it is listed. -/
theorem readBack_textSet : ReadBack Value.textSet? Value.ofTextSet := by
  intro s v h
  have htext : ∀ t : String, (Value.text t).text? = some t := fun _ => rfl
  obtain ⟨l, hl, hmem⟩ := h.items? htext
  rw [Value.textSet?, hl, Option.map_some]
  refine congrArg some (Ascending.ext_mem fun t => ?_)
  rw [Ascending.mem_ofList, hmem, Ascending.mem_def]

/-! ## Fields by position -/

/-- Beside values in their order, each name gives its value. -/
theorem exists_lookup_zip {P : String × Value → Value → Prop} {fields : List (String × Value)}
    {values : List Value} (h : List.Forall₂ P fields values) (hnodup : (fields.map (·.1)).Nodup) :
    ∀ e ∈ fields, ∃ v, ((fields.map (·.1)).zip values).lookup e.1 = some v ∧ P e v := by
  induction h with
  | nil => exact nofun
  | @cons first value fields values hfirst _ ih =>
    obtain ⟨hnew, hnodup⟩ := List.nodup_cons.1 hnodup
    rw [List.forall_mem_cons, List.map_cons, List.zip_cons_cons]
    refine ⟨⟨value, List.lookup_cons_self, hfirst⟩, fun e he => ?_⟩
    obtain ⟨v, hv, hP⟩ := ih hnodup e he
    have hne : e.1 ≠ first.1 := fun heq => hnew (List.mem_map.2 ⟨e, he, heq⟩)
    exact ⟨v, by rw [List.lookup_cons, beq_false_of_ne hne]; exact hv, hP⟩

/-- Of two lists with related items, each item of the second has a partner in the first. -/
theorem exists_left_of_forall₂ {β γ : Type} {P : β → γ → Prop} {l : List β} {r : List γ}
    (h : List.Forall₂ P l r) : ∀ b ∈ r, ∃ a ∈ l, P a b := by
  induction h with
  | nil => exact nofun
  | @cons a b l r hfirst _ ih =>
    rw [List.forall_mem_cons]
    refine ⟨⟨a, List.mem_cons_self, hfirst⟩, fun c hc => ?_⟩
    obtain ⟨d, hd, hP⟩ := ih c hc
    exact ⟨d, List.mem_cons_of_mem _ hd, hP⟩

/-- A name that is not among the keys gives nothing. -/
theorem lookup_zip_eq_none {keys : List String} {values : List Value} {name : String}
    (h : ¬ name ∈ keys) : (keys.zip values).lookup name = none := by
  rw [List.lookup_eq_none_iff]
  rintro ⟨k, v⟩ hkv
  have hne : name ≠ k := by
    rintro rfl
    exact h (List.of_mem_zip hkv).1
  exact bne_iff_ne.2 hne

/-- Fields show a field if they give a presentation of its value, or nothing where that is the
default. -/
def Fields.Shows (f : Fields) (defaults : List (String × Value)) (e : String × Value) : Prop :=
  (∃ v, f e.1 = some v ∧ Presents e.2 v) ∨ f e.1 = none ∧ defaults.lookup e.1 = some e.2

/-- A field that is shown is read. -/
theorem Fields.withDefault_of_shows {defaults : List (String × Value)} {a default : α}
    (h : f.Shows defaults (name, write a)) (hdefault : defaults.lookup name = some (write default))
    (hread : ReadBack read write) :
    f.withDefault name read default = some a := by
  rcases h with ⟨v, hv, hpresents⟩ | ⟨hnone, ha⟩
  · rw [withDefault_of_eq hv, hread a v hpresents]
  · have heq : write a = write default := Option.some.inj (ha.symm.trans hdefault)
    have hsame := hread default _ (.same _)
    rw [← heq, hread a _ (.same _)] at hsame
    rw [withDefault, hnone, hsame]

end CredentialPolicy.Document
