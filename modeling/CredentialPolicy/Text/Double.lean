/-!
The range of numbers that round to a finite double.
-/

set_option autoImplicit false

namespace CredentialPolicy.Text

/-- The least number that rounds to no finite double: halfway from the greatest double to the next
power of two. -/
def doubleBound : Nat := Nat.pow 2 1024 - Nat.pow 2 970

/-- Whether a mantissa times ten to an exponent is too large for a double. The number of digits
decides all but the close cases. -/
def overflowsDouble (mantissa : Nat) (exponent : Int) : Bool :=
  let magnitude := (Nat.toDigits 10 mantissa).length + exponent
  if mantissa = 0 ∨ magnitude < 300 then false
  else if 320 < magnitude then true
  else if 0 ≤ exponent then doubleBound ≤ mantissa * Nat.pow 10 exponent.toNat
  else doubleBound * Nat.pow 10 (-exponent).toNat ≤ mantissa

example : overflowsDouble 17976931348623157 292 = false ∧ overflowsDouble 1 309 = true := by
  decide +kernel

end CredentialPolicy.Text
