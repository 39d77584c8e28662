import CredentialPolicy.Random.Source

/-!
Numbers from a range, and characters from a pool.

A number below `size` comes from the high half of the product of a draw and `size`. The low half
says whether the draw lies so close to the next number that a second draw has to decide; this one
correction is what keeps the numbers nearly equally likely. The sum of the two halves stays below
twice the modulus, so the correction adds at most one.
-/

set_option autoImplicit false

namespace CredentialPolicy.Random

variable {σ : Type} [WordSource σ]

/-- The width of the draws for a range with the given upper bound. -/
def Width.ofUpper (hi : Nat) : Width := if hi < 0x100000000 then .single else .double

/-- A number below `size`, where `size` is positive and at most the modulus less one. -/
def below (w : Width) (size : Nat) : StateM σ Nat := do
  let first := (← draw w) * size
  let result := first / w.modulus
  let low := first % w.modulus
  if w.modulus - size < low then
    let second := (← draw w) * size
    if w.modulus ≤ low + second / w.modulus then return result + 1
  return result

/-- A number from `lo` to `hi`, both included. A range as large as the modulus takes one draw. -/
def between (lo hi : Nat) : StateM σ Nat := do
  let w := Width.ofUpper hi
  let size := (hi - lo + 1) % w.modulus
  if size = 0 then return lo + (← draw w)
  return lo + (← below w size)

/-- A length from `min` to `max`, without any draw where these leave no choice. -/
def lengthBetween (min max : Nat) : StateM σ Nat :=
  if max ≤ min then pure min else between min max

/-- One character of a pool. -/
def choose (pool : List Char) : StateM σ (Option Char) := do
  match pool with
  | [] => return none
  | _ :: _ => return pool[(← between 0 (pool.length - 1))]?

/-- Some characters of a pool, each drawn from the whole pool; none if the pool is empty. -/
def chooseMany (pool : List Char) : Nat → StateM σ (Option (List Char))
  | 0 => pure (some [])
  | n + 1 => do
    let some c ← choose pool | return none
    let some rest ← chooseMany pool n | return none
    return some (c :: rest)

end CredentialPolicy.Random
