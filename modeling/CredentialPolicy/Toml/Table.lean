import CredentialPolicy.Document.Value

/-!
Tables under construction.

A table is either defined, by a header or as an inline table, or it came about on the way to another
one: by a longer header, or by a dotted key. Headers may still define a table that only longer
headers have passed through; dotted keys extend only tables that dotted keys have made. So no table
is defined twice and no value is replaced.
-/

set_option autoImplicit false

namespace CredentialPolicy.Toml

open Document (Value)

/-- How a table came about. -/
inductive Origin where
  /-- By a header of its own, or as an inline table. -/
  | defined
  /-- On the way to another table of a header. -/
  | passed
  /-- By a dotted key. -/
  | dotted
  deriving DecidableEq, Repr, Inhabited

/-- What a key of a table stands for. -/
inductive Item where
  /-- A value. -/
  | value (value : Value)
  /-- A table. -/
  | table (origin : Origin) (items : List (String × Item))
  /-- The tables of an array of tables, the last one first. -/
  | tables (last : List (String × Item)) (others : List (List (String × Item)))
  deriving Inhabited

/-- The keys of a table and what they stand for. -/
abbrev Items := List (String × Item)

namespace Items

/-- The items with a key set to an item. -/
def set (key : String) (item : Item) : Items → Items
  | [] => [(key, item)]
  | (k, i) :: r => if k = key then (k, item) :: r else (k, i) :: set key item r

/-- Changes the table that a path of keys leads to. A table that is missing on the way comes about
with the given origin. The path leads into the last table of an array, not into a value, and a
dotted path only into tables that came about themselves. -/
def update (origin : Origin) (change : Origin → Items → Option Items) :
    List String → Origin → Items → Option Items
  | [], here, items => change here items
  | key :: path, _, items =>
    match items.lookup key with
    | none => do
      let inner ← update origin change path origin []
      return set key (.table origin inner) items
    | some (.value _) => none
    | some (.table o inner) =>
      if origin = .dotted ∧ o = .defined then none
      else do
        let inner ← update origin change path o inner
        return set key (.table o inner) items
    | some (.tables last others) => do
      let last ← update origin change path .defined last
      return set key (.tables last others) items

/-- Adds a key that is not there yet. -/
def addKey (key : String) (item : Item) (items : Items) : Option Items :=
  match items.lookup key with
  | some _ => none
  | none => some (items ++ [(key, item)])

/-- Adds a value under a dotted key, which is a path and a last key. A path has to lead into a table
that dotted keys have made. -/
def addValue (path : List String) (key : String) (value : Value) (here : Origin) (items : Items) :
    Option Items :=
  update .dotted
    (fun o inner =>
      if path.isEmpty || o = .dotted then addKey key (.value value) inner else none)
    path here items

/-- Defines the table of a header, which is a path and a last key. -/
def defineTable (path : List String) (key : String) (items : Items) : Option Items :=
  update .passed
    (fun _ inner =>
      match inner.lookup key with
      | none => some (set key (.table .defined []) inner)
      | some (.table .passed old) => some (set key (.table .defined old) inner)
      | some _ => none)
    path .defined items

/-- Adds a table to the array of tables of a header, which is a path and a last key. -/
def appendTable (path : List String) (key : String) (items : Items) : Option Items :=
  update .passed
    (fun _ inner =>
      match inner.lookup key with
      | none => some (set key (.tables [] []) inner)
      | some (.tables last others) => some (set key (.tables [] (last :: others)) inner)
      | some _ => none)
    path .defined items

/-- Adds a value under a dotted key of the table that a header's path leads to. -/
def addValueAt (header path : List String) (key : String) (value : Value) (items : Items) :
    Option Items :=
  update .passed (fun o inner => addValue path key value o inner) header .defined items

end Items

mutual

/-- The value that an item stands for. -/
def Item.toValue : Item → Value
  | .value v => v
  | .table _ items => .record (fieldsOf items)
  | .tables last others => .list (recordsOf others [.record (fieldsOf last)])

/-- The fields that the items of a table stand for. -/
def fieldsOf : List (String × Item) → List (String × Value)
  | [] => []
  | (k, i) :: r => (k, i.toValue) :: fieldsOf r

/-- The records of some tables, the last one first, before those that follow them. -/
def recordsOf : List (List (String × Item)) → List Value → List Value
  | [], following => following
  | items :: r, following => recordsOf r (.record (fieldsOf items) :: following)

end

end CredentialPolicy.Toml
