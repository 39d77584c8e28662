/-!
Sets of characters, given by the places where membership changes.

The characters are counted in the order of their code points (`rank`). A set lists, in ascending
order, the ranks at which it starts or stops to hold; so a rank belongs to the set if an odd number
of them lies at or below it. Each Boolean operation on sets is one merge of two such lists
(`mergeBounds`), and `mem_combine` says that it acts on membership as the operation does.
-/

set_option autoImplicit false

namespace CredentialPolicy.Unicode

/-- The number of characters with a smaller code point: there is none from D800 to DFFF. -/
def rankOfCode (code : Nat) : Nat := if code < 0xD800 then code else code - 0x800

/-- The number of all characters. -/
def rankBound : Nat := 0x10F800

/-! ## Lists of bounds -/

/-- Whether a rank is inside, where `inside` says it of the ranks before all bounds. -/
def isInside (inside : Bool) : List Nat → Nat → Bool
  | [], _ => inside
  | b :: r, n => if n < b then inside else isInside (! inside) r n

/-- Puts a bound in front of others if membership changes there. -/
def consBound (before after : Bool) (b : Nat) (rest : List Nat) : List Nat :=
  if before = after then rest else b :: rest

/-- The bounds of an operation applied to two lists of bounds; `x` and `y` say whether the ranks
before all bounds are inside. -/
def mergeBounds (op : Bool → Bool → Bool) (x y : Bool) : List Nat → List Nat → List Nat
  | [], [] => []
  | a :: r, [] => consBound (op x y) (op (! x) y) a (mergeBounds op (! x) y r [])
  | [], b :: s => consBound (op x y) (op x (! y)) b (mergeBounds op x (! y) [] s)
  | a :: r, b :: s =>
    if a < b then consBound (op x y) (op (! x) y) a (mergeBounds op (! x) y r (b :: s))
    else if b < a then consBound (op x y) (op x (! y)) b (mergeBounds op x (! y) (a :: r) s)
    else consBound (op x y) (op (! x) (! y)) a (mergeBounds op (! x) (! y) r s)
  termination_by l m => l.length + m.length

theorem mem_of_mem_consBound {p q : Bool} {b c : Nat} {l : List Nat} (h : c ∈ consBound p q b l) :
    c = b ∨ c ∈ l := by
  unfold consBound at h
  split at h
  · exact .inr h
  · simpa using h

theorem mem_of_mem_mergeBounds {op : Bool → Bool → Bool} {x y : Bool} {l m : List Nat} {c : Nat}
    (h : c ∈ mergeBounds op x y l m) : c ∈ l ∨ c ∈ m := by
  fun_induction mergeBounds op x y l m with
  | case1 => simp at h
  | case2 => have := mem_of_mem_consBound h; grind
  | case3 => have := mem_of_mem_consBound h; grind
  | case4 => have := mem_of_mem_consBound h; grind
  | case5 => have := mem_of_mem_consBound h; grind
  | case6 => have := mem_of_mem_consBound h; grind

theorem pairwise_consBound {p q : Bool} {b : Nat} {l : List Nat} (h : ∀ c ∈ l, b < c)
    (hl : l.Pairwise (· < ·)) : (consBound p q b l).Pairwise (· < ·) := by
  unfold consBound
  split
  · exact hl
  · exact List.pairwise_cons.2 ⟨h, hl⟩

theorem pairwise_mergeBounds {op : Bool → Bool → Bool} {x y : Bool} {l m : List Nat}
    (hl : l.Pairwise (· < ·)) (hm : m.Pairwise (· < ·)) :
    (mergeBounds op x y l m).Pairwise (· < ·) := by
  fun_induction mergeBounds op x y l m with
  | case1 => exact .nil
  | case2 x y a r ih =>
    have ha := List.pairwise_cons.1 hl
    exact pairwise_consBound (fun c hc => by have := mem_of_mem_mergeBounds hc; grind) (ih ha.2 hm)
  | case3 x y b s ih =>
    have hb := List.pairwise_cons.1 hm
    exact pairwise_consBound (fun c hc => by have := mem_of_mem_mergeBounds hc; grind) (ih hl hb.2)
  | case4 x y a r b s hab ih =>
    have ha := List.pairwise_cons.1 hl
    have hb := List.pairwise_cons.1 hm
    exact pairwise_consBound (fun c hc => by have := mem_of_mem_mergeBounds hc; grind) (ih ha.2 hm)
  | case5 x y a r b s hab hba ih =>
    have ha := List.pairwise_cons.1 hl
    have hb := List.pairwise_cons.1 hm
    exact pairwise_consBound (fun c hc => by have := mem_of_mem_mergeBounds hc; grind) (ih hl hb.2)
  | case6 x y a r b s hab hba ih =>
    have ha := List.pairwise_cons.1 hl
    have hb := List.pairwise_cons.1 hm
    exact pairwise_consBound (fun c hc => by have := mem_of_mem_mergeBounds hc; grind)
      (ih ha.2 hb.2)

theorem isInside_of_lt {x : Bool} {l : List Nat} {n : Nat} (h : ∀ c ∈ l, n < c) :
    isInside x l n = x := by
  cases l with
  | nil => rfl
  | cons b r => simp [isInside, h b]

theorem isInside_consBound {p q : Bool} {b n : Nat} {l : List Nat} (h : ∀ c ∈ l, b < c) :
    isInside p (consBound p q b l) n = if n < b then p else isInside q l n := by
  unfold consBound
  split
  · subst_vars
    split
    · exact isInside_of_lt fun c hc => Nat.lt_trans ‹n < b› (h c hc)
    · rfl
  · have hpq : (! p) = q := by revert ‹¬ p = q›; cases p <;> cases q <;> simp
    simp [isInside, hpq]

theorem isInside_mergeBounds {op : Bool → Bool → Bool} {x y : Bool} {l m : List Nat} {n : Nat}
    (hl : l.Pairwise (· < ·)) (hm : m.Pairwise (· < ·)) :
    isInside (op x y) (mergeBounds op x y l m) n = op (isInside x l n) (isInside y m n) := by
  fun_induction mergeBounds op x y l m with
  | case1 => rfl
  | case2 x y a r ih =>
    have ha := List.pairwise_cons.1 hl
    rw [isInside_consBound fun c hc => by have := mem_of_mem_mergeBounds hc; grind]
    rw [ih ha.2 hm]
    simp only [isInside]
    split <;> rfl
  | case3 x y b s ih =>
    have hb := List.pairwise_cons.1 hm
    rw [isInside_consBound fun c hc => by have := mem_of_mem_mergeBounds hc; grind]
    rw [ih hl hb.2]
    simp only [isInside]
    split <;> rfl
  | case4 x y a r b s hab ih =>
    have ha := List.pairwise_cons.1 hl
    have hb := List.pairwise_cons.1 hm
    rw [isInside_consBound fun c hc => by have := mem_of_mem_mergeBounds hc; grind]
    rw [ih ha.2 hm]
    simp only [isInside]
    grind
  | case5 x y a r b s hab hba ih =>
    have ha := List.pairwise_cons.1 hl
    have hb := List.pairwise_cons.1 hm
    rw [isInside_consBound fun c hc => by have := mem_of_mem_mergeBounds hc; grind]
    rw [ih hl hb.2]
    simp only [isInside]
    grind
  | case6 x y a r b s hab hba ih =>
    have ha := List.pairwise_cons.1 hl
    have hb := List.pairwise_cons.1 hm
    rw [isInside_consBound fun c hc => by have := mem_of_mem_mergeBounds hc; grind]
    rw [ih ha.2 hb.2]
    simp only [isInside]
    grind

/-! ## Sets -/

/-- A set of characters. -/
structure CharSet where
  /-- The ranks at which the set starts or stops to hold. -/
  bounds : List Nat
  /-- The bounds are strictly ascending. -/
  ascending : bounds.Pairwise (· < ·)
  deriving DecidableEq

namespace CharSet

instance : Membership Char CharSet :=
  ⟨fun s c => isInside false s.bounds (rankOfCode c.toNat) = true⟩

instance (c : Char) (s : CharSet) : Decidable (c ∈ s) :=
  inferInstanceAs (Decidable (isInside false s.bounds (rankOfCode c.toNat) = true))

/-- Whether a character belongs to the set. -/
def contains (s : CharSet) (c : Char) : Bool := c ∈ s

/-- The set without members. -/
def empty : CharSet := ⟨[], .nil⟩

instance : EmptyCollection CharSet := ⟨empty⟩

instance : Inhabited CharSet := ⟨∅⟩

/-- Whether the set has no member. -/
def isEmpty (s : CharSet) : Bool := s.bounds.isEmpty

/-- The characters whose membership in two sets an operation accepts. -/
def combine (op : Bool → Bool → Bool) (s t : CharSet) : CharSet :=
  ⟨mergeBounds op false false s.bounds t.bounds, pairwise_mergeBounds s.ascending t.ascending⟩

theorem mem_combine {op : Bool → Bool → Bool} (h : op false false = false) {s t : CharSet}
    {c : Char} : c ∈ s.combine op t ↔ op (c ∈ s) (c ∈ t) = true := by
  have : isInside (op false false) (mergeBounds op false false s.bounds t.bounds)
      (rankOfCode c.toNat) = _ := isInside_mergeBounds s.ascending t.ascending
  rw [h] at this
  simp only [Membership.mem, combine]
  rw [this]
  simp

instance : Union CharSet := ⟨combine or⟩

instance : Inter CharSet := ⟨combine and⟩

instance : SDiff CharSet := ⟨combine fun x y => x && ! y⟩

/-- The characters in one of two sets but not in both. -/
def symmDiff (s t : CharSet) : CharSet := combine xor s t

theorem mem_union {s t : CharSet} {c : Char} : c ∈ s ∪ t ↔ c ∈ s ∨ c ∈ t := by
  show c ∈ s.combine or t ↔ _
  simp [mem_combine]

theorem mem_inter {s t : CharSet} {c : Char} : c ∈ s ∩ t ↔ c ∈ s ∧ c ∈ t := by
  show c ∈ s.combine and t ↔ _
  simp [mem_combine]

theorem mem_sdiff {s t : CharSet} {c : Char} : c ∈ s \ t ↔ c ∈ s ∧ ¬ c ∈ t := by
  show c ∈ s.combine (fun x y => x && ! y) t ↔ _
  simp [mem_combine]

/-- The characters with a code point from `first` to `last`. -/
def ofCodes (first last : Nat) : CharSet :=
  let lo := rankOfCode first
  let hi := rankOfCode last + 1
  if h : lo < hi then
    if hi < rankBound then ⟨[lo, hi], by simpa using h⟩ else ⟨[lo], by simp⟩
  else ∅

/-- All characters. -/
def all : CharSet := ⟨[0], by simp⟩

/-- The set of a single character. -/
def single (c : Char) : CharSet := ofCodes c.toNat c.toNat

/-- The set of a list's characters. -/
def ofList (cs : List Char) : CharSet := cs.foldl (fun s c => s ∪ single c) ∅

/-- The characters outside the set. -/
def compl (s : CharSet) : CharSet := all \ s

/-- The number of runs of characters that follow each other. -/
def runCount (s : CharSet) : Nat := (s.bounds.length + 1) / 2

/-- The ranges of ranks from the first one inside to the one before the first outside. -/
def runs : List Nat → List (Nat × Nat)
  | lo :: hi :: r => (lo, hi - 1) :: runs r
  | [lo] => [(lo, rankBound - 1)]
  | [] => []

/-- Whether every member has a code point below a bound, which is at most D800. -/
def isBelow (s : CharSet) (code : Nat) : Bool :=
  (runs s.bounds).all fun r => r.2 < code

/-- The only member, if there is just one. -/
def single? (s : CharSet) : Option Char :=
  match runs s.bounds with
  | [(lo, hi)] =>
    if lo = hi ∧ lo < rankBound then some (Char.ofNat (if lo < 0xD800 then lo else lo + 0x800))
    else none
  | _ => none

example : 'b' ∈ compl (single 'a') ∧ ¬ 'a' ∈ compl (single 'a') := by decide +kernel

example : (compl (ofCodes 0x61 0x10FFFF)).bounds = [0, 0x61] := by decide +kernel

example : single? (ofCodes 0x61 0x7A \ ofCodes 0x62 0x7A) = some 'a' := by decide +kernel

end CharSet

end CredentialPolicy.Unicode
