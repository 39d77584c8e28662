/-!
Values of self-describing documents.

Documents of every format are read into a `Value` before anything is made of them. A record keeps
its fields in the order and number in which they were written. A part that its format allows to
pass over, though not to use, becomes `unreadable`.
-/

set_option autoImplicit false

namespace CredentialPolicy.Document

/-- A value of a self-describing document. -/
inductive Value where
  /-- The absent value. -/
  | null
  /-- A truth value. -/
  | bool (value : Bool)
  /-- A number written as an integer. -/
  | int (value : Int)
  /-- A number written otherwise: the mantissa times ten to the exponent. -/
  | real (mantissa : Int) (exponent : Int)
  /-- An infinity, or what is not a number. -/
  | notFinite
  /-- A text. -/
  | text (value : String)
  /-- A list. -/
  | list (items : List Value)
  /-- A record. -/
  | record (fields : List (String × Value))
  /-- A part that can be passed over and nothing else. -/
  | unreadable
  deriving Inhabited

namespace Value

mutual

/-- Whether no part of the value is unreadable. -/
def readable : Value → Bool
  | .list items => readableItems items
  | .record fields => readableFields fields
  | .unreadable => false
  | _ => true

/-- Whether no part of the items is unreadable. -/
def readableItems : List Value → Bool
  | [] => true
  | v :: r => v.readable && readableItems r

/-- Whether no part of the fields is unreadable. -/
def readableFields : List (String × Value) → Bool
  | [] => true
  | (_, v) :: r => v.readable && readableFields r

end

mutual

/-- The value with the lists and records that lie deeper than some depth made unreadable. -/
def upTo : Nat → Value → Value
  | depth + 1, .list items => .list (itemsUpTo depth items)
  | 0, .list _ => .unreadable
  | depth + 1, .record fields => .record (fieldsUpTo depth fields)
  | 0, .record _ => .unreadable
  | _, v => v

/-- The items, each of them cut at some depth. -/
def itemsUpTo (depth : Nat) : List Value → List Value
  | [] => []
  | v :: r => upTo depth v :: itemsUpTo depth r

/-- The fields, each of them cut at some depth. -/
def fieldsUpTo (depth : Nat) : List (String × Value) → List (String × Value)
  | [] => []
  | (k, v) :: r => (k, upTo depth v) :: fieldsUpTo depth r

end

/-- The text, if the value is one. -/
def text? : Value → Option String
  | .text s => some s
  | _ => none

/-- The truth value, if the value is one. -/
def bool? : Value → Option Bool
  | .bool b => some b
  | _ => none

/-- The integer, if the value is one of 32 bits with a sign. -/
def int32? : Value → Option Int32
  | .int i => if -0x80000000 ≤ i ∧ i < 0x80000000 then some (Int32.ofInt i) else none
  | _ => none

/-- The integer, if the value is one of 32 bits without a sign. -/
def uint32? : Value → Option UInt32
  | .int i => if 0 ≤ i ∧ i < 0x100000000 then some (UInt32.ofNat i.toNat) else none
  | _ => none

/-- The character, if the value is a text of just one. -/
def char? : Value → Option Char
  | .text s =>
    match s.toList with
    | [c] => some c
    | _ => none
  | _ => none

/-- The items read one by one, if the value is a list and each of them can be read. -/
def items? {α : Type} (read : Value → Option α) : Value → Option (List α)
  | .list items => items.mapM read
  | _ => none

end Value

end CredentialPolicy.Document
