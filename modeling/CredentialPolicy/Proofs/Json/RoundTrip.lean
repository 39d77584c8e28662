import CredentialPolicy.Json.Reader
import CredentialPolicy.Proofs.Document.Record
import CredentialPolicy.Proofs.Json.Token

/-!
JSON text that is written is read as the value it was written from.

The reader cuts a text into tokens and runs a machine over them. Both go from left to right, so they
can be taken together: `State.scan` is the state after a text, and each token moves it on by one
step of the machine (`State.scan_token`). A written value then takes a state that waits for a value
to the state behind that value, whatever text follows (`Exact.writes`). That is an induction over
the value, and inside lists and records one over the parts that are still to come, with those before
them kept in the frame.

What a text can hold exactly, and what it cannot, is said by `Exact`: numbers that are no integers
are written in another way than they are kept, an integer may be too large to be read, and what
nests too deep is only passed over.
-/

set_option autoImplicit false

namespace CredentialPolicy.Json

open Document (Value)
open Text (isDecimal)

/-! ## Values that JSON text holds exactly -/

/-- A value that is read from its text as it is: every number in it is an integer that a double can
hold, every part of it can be used, and lists and records nest at most `depth` deep. -/
inductive Exact : Nat → Value → Prop where
  | null {depth : Nat} : Exact depth .null
  | bool {depth : Nat} (b : Bool) : Exact depth (.bool b)
  | int {depth : Nat} (i : Int) (h : Text.overflowsDouble i.natAbs 0 = false) : Exact depth (.int i)
  | text {depth : Nat} (s : String) : Exact depth (.text s)
  | list {depth : Nat} (items : List Value) (h : ∀ v ∈ items, Exact depth v) :
    Exact (depth + 1) (.list items)
  | record {depth : Nat} (fields : List (String × Value)) (h : ∀ f ∈ fields, Exact depth f.2) :
    Exact (depth + 1) (.record fields)

/-- An exact value is not cut. -/
theorem Exact.upTo_eq {depth : Nat} {v : Value} (h : Exact depth v) : v.upTo depth = v := by
  induction h with
  | null | bool | int | text => rw [Value.upTo] <;> exact nofun
  | list items _ ih =>
    rw [Value.upTo, Value.itemsUpTo_eq_map, List.map_congr_left ih, List.map_id']
  | record fields _ ih =>
    have hfields : ∀ f ∈ fields, (f.1, f.2.upTo _) = f := fun f hf => Prod.ext rfl (ih f hf)
    rw [Value.upTo, Value.fieldsUpTo_eq_map, List.map_congr_left hfields, List.map_id']

/-- No part of an exact value is unreadable. -/
theorem Exact.readable {depth : Nat} {v : Value} (h : Exact depth v) : v.readable = true := by
  induction h with
  | null | bool | int | text => rfl
  | list items _ ih =>
    rw [Value.readable, Value.readableItems_eq_all]
    exact List.all_eq_true.2 ih
  | record fields _ ih =>
    rw [Value.readable, Value.readableFields_eq_all]
    exact List.all_eq_true.2 ih

/-- An integer of 32 bits is small enough for a double. -/
theorem Exact.ofInt32 {depth : Nat} (i : Int32) : Exact depth (.ofInt32 i) := by
  have hle := i.le_toInt
  have hlt := i.toInt_lt
  have hten : i.toInt.natAbs < 10 ^ 10 := by omega
  exact .int i.toInt (Text.overflowsDouble_of_lt (by decide) hten)

/-- A list nests one deeper than what its items are written from. -/
theorem Exact.list_map {depth : Nat} {α : Type} {write : α → Value}
    (h : ∀ a, Exact depth (write a)) (l : List α) : Exact (depth + 1) (.list (l.map write)) :=
  .list _ (List.forall_mem_map.2 fun a _ => h a)

theorem Exact.ofCharSet {depth : Nat} (s : Ascending Char) : Exact (depth + 1) (.ofCharSet s) :=
  .list_map (fun c => .text c.toString) s.toList

theorem Exact.ofTextSet {depth : Nat} (s : Ascending String) : Exact (depth + 1) (.ofTextSet s) :=
  .list_map .text s.toList

/-! ## Reading a text token by token -/

namespace State

/-- The state after a text; none if some part of it is no token, or a token does not fit. -/
def scan (s : State) (text : List Char) : Option State := (tokens text).bind s.run

theorem scan_nil (s : State) : s.scan [] = some s := by
  unfold scan
  rw [tokens]
  rfl

/-- A token takes the machine one step on, and the rest of the text is scanned from there. -/
theorem scan_token {s s' : State} {c : Char} {r rest : List Char} {t : Token}
    (hblank : isBlank c = false) (hread : readToken (c :: r) = some (t, rest))
    (hlength : rest.length ≤ r.length) (hstep : s.step t = some s') :
    s.scan (c :: r) = s'.scan rest := by
  have htokens : tokens (c :: r) = (tokens rest).map (t :: ·) := by
    rw [tokens]
    simp only [hblank, Bool.false_eq_true, if_false, hread, if_pos hlength]
  unfold scan
  rw [htokens]
  cases tokens rest with
  | none => rfl
  | some ts =>
    show s.run (t :: ts) = s'.run ts
    rw [run, hstep]

/-- A mark of one character is a token of its own. -/
theorem scan_mark {s s' : State} {c : Char} {t : Token} (r : List Char)
    (hblank : isBlank c = false) (hread : readToken (c :: r) = some (t, r))
    (hstep : s.step t = some s') : s.scan (c :: r) = s'.scan r :=
  scan_token hblank hread (Nat.le_refl _) hstep

/-- A quoted text is one token whatever stands in it, since its own quotes are escaped. -/
theorem scan_quote {s s' : State} {text : String} (hstep : s.step (.text (some text)) = some s')
    (rest : List Char) : s.scan (quote text ++ rest) = s'.scan rest := by
  have hread := readToken_quote text rest
  have hcons : quote text ++ rest = '"' :: (text.toList.flatMap escapeChar ++ '"' :: rest) := by
    rw [quote, List.cons_append, List.cons_append, List.append_assoc, List.singleton_append]
  -- The first character is taken apart from the others, as the tokens are found by it.
  rw [hcons] at hread ⊢
  refine scan_token (by decide) hread ?_ hstep
  rw [List.length_append, List.length_cons]
  omega

/-- No number starts with a blank. -/
theorem isBlank_of_number {c : Char} (h : isDecimal c = true ∨ c = '-') : isBlank c = false := by
  refine Bool.eq_false_iff.2 fun hblank => ?_
  simp only [isBlank, Bool.or_eq_true, decide_eq_true_eq] at hblank
  obtain ((rfl | rfl) | rfl) | rfl := hblank
  all_goals exact absurd h (by decide)

/-- The digits of an integer are one token if the text behind them does not go on with it. -/
theorem scan_int {s s' : State} {i : Int} (hi : Text.overflowsDouble i.natAbs 0 = false)
    (hstep : s.step (.scalar (.int i)) = some s') {rest : List Char} (hrest : EndsNumber rest) :
    s.scan ((toString i).toList ++ rest) = s'.scan rest := by
  have hread := readToken_toString i hi hrest
  obtain ⟨c, r, hcr, hc⟩ := Text.exists_toString_eq_cons i
  rw [hcr, List.cons_append] at hread ⊢
  refine scan_token ?_ hread ?_ hstep
  · exact isBlank_of_number hc
  · rw [List.length_append]
    omega

/-- The state waits for a value that goes on the given stack. A list may end instead. -/
def Awaits (s : State) (stack : List Frame) : Prop :=
  ∀ t, t ≠ .closeList → s.step t = beginValue stack t

/-- Behind a colon or a comma the machine waits for a value. -/
theorem value_awaits (stack : List Frame) : (State.value stack).Awaits stack := fun _ _ => rfl

/-- Behind the bracket that opens a list it waits for a value too, unless the list is closed at
once. -/
theorem firstItem_awaits (stack : List Frame) :
    (State.firstItem stack).Awaits (.items [] :: stack) := by
  intro t ht
  rw [step]
  exact ht

/-- The state waits for a key of the record whose fields so far are given, the last one first. -/
def AwaitsKey (s : State) (done : List (Option String × Value)) (stack : List Frame) : Prop :=
  ∀ k, s.step (.text k) = some (.colon done k stack)

theorem firstKey_awaitsKey (stack : List Frame) : (State.firstKey stack).AwaitsKey [] stack :=
  fun _ => rfl

theorem key_awaitsKey (done : List (Option String × Value)) (stack : List Frame) :
    (State.key done stack).AwaitsKey done stack := fun _ => rfl

end State

open State

/-! ## Written values -/

/-- The text takes every state that waits for a value to the state behind the value `v`. -/
def Writes (text : List Char) (v : Value) : Prop :=
  ∀ (s : State) (stack : List Frame) (rest : List Char), s.Awaits stack → EndsNumber rest →
    s.scan (text ++ rest) = (State.after v stack).scan rest

/-- Items go into the frame one after the other. The induction is on those still to come, so it
holds for any that are in the frame before. -/
theorem scan_compactItems {items : List Value} (h : ∀ v ∈ items, Writes (compact v) v)
    (hne : items ≠ []) (done : List Value) {s : State} {stack : List Frame}
    (hs : s.Awaits (.items done :: stack)) (rest : List Char) :
    s.scan (compactItems items ++ ']' :: rest) =
      (State.after (.list (done.reverse ++ items)) stack).scan rest := by
  induction items generalizing done s with
  | nil => exact absurd rfl hne
  | cons v items ih =>
    obtain ⟨hv, hitems⟩ := List.forall_mem_cons.1 h
    cases items with
    | nil =>
      rw [compactItems, hv s _ _ hs (endsNumber_cons (by decide) rest), ← List.reverse_cons]
      exact scan_mark rest (by decide) rfl rfl
    | cons w items =>
      rw [compactItems, List.append_assoc, List.cons_append,
        hv s _ _ hs (endsNumber_cons (by decide) _), scan_mark _ (by decide) rfl rfl,
        ih hitems (List.cons_ne_nil w items) (v :: done) (value_awaits _), List.reverse_cons,
        List.append_assoc, List.singleton_append]
      exact nofun

/-- The fields of a frame, the last one first. -/
def framed (fields : List (String × Value)) : List (Option String × Value) :=
  (fields.map fun f => (some f.1, f.2)).reverse

/-- A field that is read last is first in its frame. -/
theorem framed_concat (fields : List (String × Value)) (k : String) (v : Value) :
    framed (fields ++ [(k, v)]) = (some k, v) :: framed fields := by
  rw [framed, List.map_append, List.reverse_append]
  rfl

/-- A frame in which every key is a text becomes the record of its fields, in order. -/
theorem closeRecord_framed (fields : List (String × Value)) :
    closeRecord (framed fields) = .record fields := by
  have hkeys : ((fields.map fun f => (some f.1, f.2)).mapM fun f => f.1.map (·, f.2)) =
      some fields := by
    rw [List.mapM_map]
    exact List.mapM_pure.trans (congrArg some (List.map_id fields))
  rw [closeRecord, framed, List.reverse_reverse, hkeys]

/-- Fields go into the frame one after the other, as items do. -/
theorem scan_compactFields {fields : List (String × Value)}
    (h : ∀ f ∈ fields, Writes (compact f.2) f.2) (hne : fields ≠ [])
    (before : List (String × Value)) {s : State} {stack : List Frame}
    (hs : s.AwaitsKey (framed before) stack) (rest : List Char) :
    s.scan (compactFields fields ++ '}' :: rest) =
      (State.after (.record (before ++ fields)) stack).scan rest := by
  induction fields generalizing before s with
  | nil => exact absurd rfl hne
  | cons f fields ih =>
    obtain ⟨k, v⟩ := f
    obtain ⟨hv, hfields⟩ := List.forall_mem_cons.1 h
    -- The key and its colon leave a state that waits for the value.
    have hkey : ∀ r, s.scan (quote k ++ ':' :: r) =
        (State.value (.fields (framed before) (some k) :: stack)).scan r := fun r =>
      (scan_quote (hs (some k)) _).trans (scan_mark r (by decide) rfl rfl)
    cases fields with
    | nil =>
      rw [compactFields, List.append_assoc, List.cons_append, hkey,
        hv _ _ _ (value_awaits _) (endsNumber_cons (by decide) rest),
        scan_mark rest (by decide) rfl rfl, ← framed_concat, closeRecord_framed]
    | cons g fields =>
      rw [compactFields, List.append_assoc, List.cons_append, List.append_assoc, List.cons_append,
        hkey, hv _ _ _ (value_awaits _) (endsNumber_cons (by decide) _),
        scan_mark _ (by decide) rfl rfl, ← framed_concat,
        ih hfields (List.cons_ne_nil g fields) _ (key_awaitsKey _ _), List.append_assoc,
        List.singleton_append]
      exact nofun

/-- A written value is read wherever a value is waited for. -/
theorem Exact.writes {depth : Nat} {v : Value} (h : Exact depth v) : Writes (compact v) v := by
  induction h with
  | null =>
    intro s stack rest hs _
    exact scan_token (by decide) rfl (by simp; omega) (hs _ nofun)
  | bool b =>
    intro s stack rest hs _
    cases b with
    | false => exact scan_token (by decide) rfl (by simp; omega) (hs _ nofun)
    | true => exact scan_token (by decide) rfl (by simp; omega) (hs _ nofun)
  | int i hi =>
    intro s stack rest hs hrest
    exact scan_int hi (hs _ nofun) hrest
  | text t =>
    intro s stack rest hs _
    exact scan_quote (hs _ nofun) rest
  | list items _ ih =>
    intro s stack rest hs _
    rw [compact, List.cons_append, List.cons_append, List.append_assoc, List.singleton_append,
      scan_mark _ (by decide) rfl (hs .openList nofun)]
    -- The bracket that was opened waits for the first item, or for being closed.
    cases items with
    | nil => exact scan_mark rest (by decide) rfl rfl
    | cons v items =>
      exact scan_compactItems ih (List.cons_ne_nil v items) [] (firstItem_awaits stack) rest
  | record fields _ ih =>
    intro s stack rest hs _
    rw [compact, List.cons_append, List.cons_append, List.append_assoc, List.singleton_append,
      scan_mark _ (by decide) rfl (hs .openRecord nofun)]
    -- In the same way the brace waits for the first key.
    cases fields with
    | nil => exact scan_mark rest (by decide) rfl rfl
    | cons f fields =>
      exact scan_compactFields ih (List.cons_ne_nil f fields) [] (firstKey_awaitsKey stack) rest

/-! ## Whole texts -/

/-- Reading a written value gives it back. -/
theorem read?_write {v : Value} (h : Exact maxDepth v) : read? (write v) = some v := by
  have hscan : (State.value []).scan (compact v) = some (.after v []) := by
    have hwrites := h.writes (.value []) [] [] (value_awaits []) endsNumber_nil
    rwa [List.append_nil, scan_nil] at hwrites
  obtain ⟨ts, htokens, hrun⟩ := Option.bind_eq_some_iff.1 hscan
  rw [read?, write, String.toList_ofList, htokens]
  simp only [valueOfTokens?, hrun, Option.map_some, h.upTo_eq]

end CredentialPolicy.Json
