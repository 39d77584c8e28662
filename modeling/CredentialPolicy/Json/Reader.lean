import CredentialPolicy.Json.Token

/-!
Reading JSON text.

The reader runs over the tokens once. Its state says what may come next and, as a stack, which
lists and records are still open. A text has to hold one value and nothing else, and lists and
records nest at most `maxDepth` deep where they are used.
-/

set_option autoImplicit false

namespace CredentialPolicy.Json

open Document (Value)

/-- A list or record that is still open, with its parts so far, the last one first. -/
inductive Frame where
  /-- A list. -/
  | items (done : List Value)
  /-- A record, waiting for the value of its last key. -/
  | fields (done : List (Option String × Value)) (key : Option String)

/-- What may come next. -/
inductive State where
  /-- A value. -/
  | value (stack : List Frame)
  /-- The first item of a list, or its end. -/
  | firstItem (stack : List Frame)
  /-- The first key of a record, or its end. -/
  | firstKey (stack : List Frame)
  /-- A key after a comma. -/
  | key (done : List (Option String × Value)) (stack : List Frame)
  /-- The colon after a key. -/
  | colon (done : List (Option String × Value)) (key : Option String) (stack : List Frame)
  /-- A comma or the end of what is open, after a value. -/
  | after (value : Value) (stack : List Frame)

/-- The record with the given fields, the last one first. A record with an ill-formed key can only
be passed over. -/
def closeRecord (done : List (Option String × Value)) : Value :=
  match done.reverse.mapM fun (key, value) => key.map (·, value) with
  | some fields => .record fields
  | none => .unreadable

/-- A text as a value. -/
def textValue : Option String → Value
  | some s => .text s
  | none => .unreadable

/-- The state after a token that begins a value, if it is one. -/
def beginValue (stack : List Frame) : Token → Option State
  | .openList => some (.firstItem stack)
  | .openRecord => some (.firstKey stack)
  | .text t => some (.after (textValue t) stack)
  | .scalar v => some (.after v stack)
  | _ => none

/-- The state after one more token. -/
def State.step : State → Token → Option State
  | .value stack, t => beginValue stack t
  | .firstItem stack, .closeList => some (.after (.list []) stack)
  | .firstItem stack, t => beginValue (.items [] :: stack) t
  | .firstKey stack, .closeRecord => some (.after (.record []) stack)
  | .firstKey stack, .text k => some (.colon [] k stack)
  | .key done stack, .text k => some (.colon done k stack)
  | .colon done k stack, .colon => some (.value (.fields done k :: stack))
  | .after v (.items done :: stack), .comma => some (.value (.items (v :: done) :: stack))
  | .after v (.items done :: stack), .closeList => some (.after (.list (v :: done).reverse) stack)
  | .after v (.fields done k :: stack), .comma => some (.key ((k, v) :: done) stack)
  | .after v (.fields done k :: stack), .closeRecord =>
    some (.after (closeRecord ((k, v) :: done)) stack)
  | _, _ => none

/-- The state after some tokens. -/
def State.run : State → List Token → Option State
  | s, [] => some s
  | s, t :: r =>
    match s.step t with
    | some s' => s'.run r
    | none => none

/-- The value that some tokens write. -/
def valueOfTokens? (ts : List Token) : Option Value :=
  match (State.value []).run ts with
  | some (.after v []) => some v
  | _ => none

/-- How deep lists and records may nest. -/
def maxDepth : Nat := 127

/-- The value that a text writes. -/
def read? (text : String) : Option Value :=
  match tokens text.toList with
  | some ts => (valueOfTokens? ts).map (Value.upTo maxDepth)
  | none => none

end CredentialPolicy.Json
