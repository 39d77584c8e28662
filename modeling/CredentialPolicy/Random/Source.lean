/-!
Sources of random words.

A source is any type of states with a step that gives a 32-bit word and the next state. Samplers
are functions of the state alone, so what a sampler does is fixed by the words it is handed, and a
statement about every state of every source is a statement about every stream of words.

`CyclicWords` hands out a given list of words again and again.
-/

set_option autoImplicit false

namespace CredentialPolicy.Random

/-- A source of words: each state gives a word and the state after it. -/
class WordSource (σ : Type) where
  /-- The next word and the state after it. -/
  next : σ → UInt32 × σ

variable {σ : Type} [WordSource σ]

/-- Takes the next word. -/
def word : StateM σ UInt32 := fun s => WordSource.next s

/-- The number of bits of a draw. -/
inductive Width where
  /-- One word. -/
  | single
  /-- Two words. -/
  | double
  deriving DecidableEq, Repr

/-- One more than the largest number that a draw of the width gives. -/
def Width.modulus : Width → Nat
  | .single => 0x100000000
  | .double => 0x10000000000000000

/-- Takes a number of the width below its modulus; of two words the first is the low half. -/
def draw : Width → StateM σ Nat
  | .single => do return (← word).toNat
  | .double => do
    let low ← word
    let high ← word
    return low.toNat + 0x100000000 * high.toNat

/-- A list of words that starts anew whenever it is used up; without any word it gives zeros. -/
structure CyclicWords where
  /-- The whole list. -/
  words : List UInt32
  /-- What is left of the current round. -/
  rest : List UInt32 := words

namespace CyclicWords

/-- The source at the start of the list. -/
def ofList (words : List UInt32) : CyclicWords := { words }

instance : WordSource CyclicWords where
  next s :=
    match s.rest with
    | w :: r => (w, { s with rest := r })
    | [] =>
      match s.words with
      | w :: r => (w, { s with rest := r })
      | [] => (0, s)

example : (draw .double (ofList [1, 2])).1 = 8589934593 := by decide

end CyclicWords

end CredentialPolicy.Random
