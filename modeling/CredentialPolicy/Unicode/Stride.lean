/-!
Sets of code points as lists of strides.

A stride is an arithmetic progression of code points: alphabets that alternate between uppercase
and lowercase take one stride each, so the tables of letter case stay short.
-/

set_option autoImplicit false

namespace CredentialPolicy.Unicode

/-- The code points from `first` to `last` that are a multiple of `step` away from `first`. -/
structure Stride where
  /-- The smallest code point. -/
  first : Nat
  /-- The greatest code point. -/
  last : Nat
  /-- The distance between neighbours. -/
  step : Nat
  deriving DecidableEq, Repr

/-- Whether a code point lies on the stride. -/
def Stride.contains (s : Stride) (n : Nat) : Bool :=
  s.first ≤ n && n ≤ s.last && (n - s.first) % s.step == 0

/-- Whether a code point lies on some stride of a list. -/
def anyContains (strides : List Stride) (n : Nat) : Bool := strides.any (·.contains n)

end CredentialPolicy.Unicode
