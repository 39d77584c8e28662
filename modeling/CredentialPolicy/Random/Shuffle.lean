import CredentialPolicy.Random.Range

/-!
Shuffling a list.

Place `i` is swapped with a random place from `0` to `i`, for each `i` in turn. Several of these
places are peeled off one random number: a chunk below `m · (m + 1) · … · (m + k - 1)` is one digit
for each of the `k` radices, and a chunk takes as many factors as fit in 32 bits.
-/

set_option autoImplicit false

namespace CredentialPolicy.Random

variable {σ : Type} [WordSource σ]

/-- Multiplies `product` by `factor`, `factor + 1`, … while the result fits in 32 bits; `count` is
the number of factors so far. -/
def extendBound (product factor count : Nat) : Nat × Nat :=
  if 0 < product ∧ 1 < factor ∧ product * factor < 0x100000000 then
    extendBound (product * factor) (factor + 1) (count + 1)
  else (product, count)
  termination_by 0x100000000 - product
  decreasing_by
    have h : product * 2 ≤ product * factor := Nat.mul_le_mul_left _ (by omega)
    omega

/-- The bound of the chunk whose first radix is `m`, and the number of its digits. -/
def chunkBound (m : Nat) : Nat × Nat := extendBound m (m + 1) 1

/-- The digits that are left of a chunk, and the radix before the next one. -/
structure IndexChunk where
  /-- The number of places handed out. -/
  places : Nat := 0
  /-- What is left of the chunk. -/
  chunk : Nat := 0
  /-- How many digits are left of it. -/
  digits : Nat := 1

namespace IndexChunk

/-- A chunk with a digit to give: this one, or a fresh one if it is used up. -/
def refill (c : IndexChunk) : StateM σ IndexChunk := do
  if 0 < c.digits then return c
  let (bound, count) := chunkBound (c.places + 1)
  return { c with chunk := (← between 0 (bound - 1)), digits := count }

/-- The last digit of a chunk is the whole of it, each other one its remainder by the radix. -/
def peel (c : IndexChunk) : Nat × IndexChunk :=
  let radix := c.places + 1
  if c.digits ≤ 1 then (c.chunk, { c with places := radix, digits := 0 })
  else (c.chunk % radix, { places := radix, chunk := c.chunk / radix, digits := c.digits - 1 })

/-- The place with which the next place is swapped. -/
def next (c : IndexChunk) : StateM σ (Nat × IndexChunk) := do return (← c.refill).peel

end IndexChunk

/-- Swaps the places from `i` on, `fuel` of them, each with one before it or itself. -/
def shuffleFrom (i : Nat) (c : IndexChunk) (chars : Array Char) : Nat → StateM σ (Array Char)
  | 0 => pure chars
  | fuel + 1 => do
    let (j, c) ← c.next
    shuffleFrom (i + 1) c (chars.swapIfInBounds i j) fuel

/-- The characters in random order. A list of at most one takes no draw. -/
def shuffle (chars : List Char) : StateM σ (List Char) := do
  if chars.length ≤ 1 then return chars
  return (← shuffleFrom 0 {} chars.toArray chars.length).toList

end CredentialPolicy.Random
