import CredentialPolicy.Pattern.Expr

/-!
The memory that a machine for an expression takes, in bytes.

The machine has a state of 32 bytes for each byte of a text, some states for each set, and the
states of an expression once for each time that it has to be repeated. A set beyond ASCII is taken
apart into sequences of byte ranges, and sequences that start alike share states.
-/

set_option autoImplicit false

namespace CredentialPolicy.Pattern

open Unicode (CharSet)

/-! ## Sequences of byte ranges -/

/-- Sequences of byte ranges for the numbers from `lo` to `hi`, which are a leading byte and some
continuation bytes of 6 bits each. -/
def byteRanges : Nat → Nat → Nat → List (List (Nat × Nat))
  | 0, lo, hi => [[(lo, hi)]]
  | n + 1, lo, hi =>
    let unit := Nat.pow 64 (n + 1)
    let first := lo / unit
    let last := hi / unit
    if first = last then (byteRanges n (lo % unit) (hi % unit)).map ((first, first) :: ·)
    else
      let whole := List.replicate (n + 1) (0, 63)
      let start := if lo % unit = 0 then [] else
        (byteRanges n (lo % unit) (unit - 1)).map ((first, first) :: ·)
      let ending := if hi % unit = unit - 1 then [] else
        (byteRanges n 0 (hi % unit)).map ((last, last) :: ·)
      let next := if lo % unit = 0 then first else first + 1
      let previous := if hi % unit = unit - 1 then last + 1 else last
      let middle := if next < previous then [(next, previous - 1) :: whole] else []
      start ++ middle ++ ending

/-- The code points that take the same number of continuation bytes, without those in between that
are no characters. -/
def lengthClasses : List (Nat × Nat × Nat) :=
  [(0, 0, 0x7F), (1, 0x80, 0x7FF), (2, 0x800, 0xD7FF), (2, 0xE000, 0xFFFF), (3, 0x10000, 0x10FFFF)]

/-- The code point of a rank. -/
def codeOfRank (rank : Nat) : Nat := if rank < 0xD800 then rank else rank + 0x800

/-- The sequences of byte ranges for a run of characters, with the number of continuation bytes in
front. -/
def runSequences (run : Nat × Nat) : List (Nat × List (Nat × Nat)) :=
  lengthClasses.flatMap fun (n, first, last) =>
    let lo := max first (codeOfRank run.1)
    let hi := min last (codeOfRank run.2)
    if lo ≤ hi then (byteRanges n lo hi).map (n, ·) else []

/-- The length of the common start of two sequences. -/
def sharedLength : List (Nat × Nat) → List (Nat × Nat) → Nat
  | a :: r, b :: s => if a = b then sharedLength r s + 1 else 0
  | _, _ => 0

/-- How many states some sequences take that follow another one, if states for a common start are
shared. -/
def statesAfter (before : Nat × List (Nat × Nat)) : List (Nat × List (Nat × Nat)) → Nat
  | [] => 0
  | s :: r =>
    let shared := if s.1 = before.1 then sharedLength before.2 s.2 else 0
    s.2.length - shared + statesAfter s r

/-! ## Costs -/

/-- The bytes of a state. -/
def stateCost : Nat := 32

/-- The bytes that a set takes. -/
def setCost (s : CharSet) : Nat :=
  if s.isEmpty then stateCost
  else if s.isBelow 0x80 then 2 * stateCost + (if s.runCount = 1 then 0 else 8 * s.runCount)
  else
    let sequences := (CharSet.runs s.bounds).flatMap runSequences
    stateCost * (2 + statesAfter (0, []) sequences) + 4 * sequences.length

namespace Expr

mutual

/-- The bytes that an expression takes. -/
def cost : Expr → Nat
  | .text cs => stateCost * max 1 (String.ofList cs).utf8ByteSize
  | .oneOf s => setCost s
  | .look _ => stateCost
  | .repeated e min max _ =>
    match max with
    | none => (Nat.max min 1) * cost e + 2 * stateCost + 8
    | some max => min * cost e + stateCost + (max - min) * (cost e + stateCost + 8)
  | .group e => cost e + 2 * stateCost
  | .concat es => costOfAll es
  | .choice es => costOfAll es + 2 * stateCost + 4 * es.length

/-- The bytes that some expressions take. -/
def costOfAll : List Expr → Nat
  | [] => 0
  | e :: es => cost e + costOfAll es

end

end Expr

/-- The greatest number of bytes that an expression may take. -/
def maxCost : Nat := 10 * 1024 * 1024

end CredentialPolicy.Pattern
