import CredentialPolicy.Random.Source

/-!
The ChaCha key stream with twelve rounds, as a source of words.

The cipher's state is sixteen words: four constants, the eight words of the key, a 64-bit block
counter with its low half first, and two words that stay zero. Block `n` of the stream is the state
with counter `n`, after six double rounds, added word by word to itself before them; its sixteen
words are handed out in order.
-/

set_option autoImplicit false

namespace CredentialPolicy.Random

/-- The state of the cipher. -/
abbrev CipherState := Vector UInt32 16

namespace CipherState

/-- Rotates a word to the left. -/
def rotateLeft (x : UInt32) (k : UInt32) : UInt32 := (x <<< k) ||| (x >>> (32 - k))

/-- The quarter round on the words at four places. -/
def quarterRound (s : CipherState) (a b c d : Fin 16) : CipherState :=
  let s := s.set a (s[a] + s[b])
  let s := s.set d (rotateLeft (s[d] ^^^ s[a]) 16)
  let s := s.set c (s[c] + s[d])
  let s := s.set b (rotateLeft (s[b] ^^^ s[c]) 12)
  let s := s.set a (s[a] + s[b])
  let s := s.set d (rotateLeft (s[d] ^^^ s[a]) 8)
  let s := s.set c (s[c] + s[d])
  s.set b (rotateLeft (s[b] ^^^ s[c]) 7)

/-- The four columns, then the four diagonals. -/
def doubleRound (s : CipherState) : CipherState :=
  let s := s.quarterRound 0 4 8 12
  let s := s.quarterRound 1 5 9 13
  let s := s.quarterRound 2 6 10 14
  let s := s.quarterRound 3 7 11 15
  let s := s.quarterRound 0 5 10 15
  let s := s.quarterRound 1 6 11 12
  let s := s.quarterRound 2 7 8 13
  s.quarterRound 3 4 9 14

/-- Applies the double round a number of times. -/
def doubleRounds : Nat → CipherState → CipherState
  | 0, s => s
  | n + 1, s => doubleRounds n s.doubleRound

end CipherState

/-- The key stream of one key, from some word on. -/
structure KeyStream where
  /-- The words of the key. -/
  key : Vector UInt32 8
  /-- The number of the next block. -/
  counter : UInt64 := 0
  /-- What is left of the current block. -/
  rest : List UInt32 := []

namespace KeyStream

/-- The state before the rounds for the block with the given number. -/
def initial (key : Vector UInt32 8) (counter : UInt64) : CipherState :=
  #v[0x61707865, 0x3320646e, 0x79622d32, 0x6b206574,
    key[0], key[1], key[2], key[3], key[4], key[5], key[6], key[7],
    counter.toUInt32, (counter >>> 32).toUInt32, 0, 0]

/-- The words of the block with the given number. -/
def block (key : Vector UInt32 8) (counter : UInt64) : List UInt32 :=
  let start := initial key counter
  (start.zipWith (· + ·) (start.doubleRounds 6)).toList

instance : WordSource KeyStream where
  next s :=
    match s.rest with
    | w :: r => (w, { s with rest := r })
    | [] =>
      match block s.key s.counter with
      | w :: r => (w, { s with counter := s.counter + 1, rest := r })
      | [] => (0, s)

/-- The word whose bytes, lowest first, start at a place of a seed; missing bytes are zero. -/
def wordAt (seed : List UInt8) (i : Nat) : UInt32 :=
  let byte (k : Nat) : UInt32 := (seed.getD (i + k) 0).toUInt32
  byte 0 ||| (byte 1 <<< 8) ||| (byte 2 <<< 16) ||| (byte 3 <<< 24)

/-- The stream whose key is made of the first 32 bytes of a seed. -/
def ofSeed (seed : List UInt8) : KeyStream :=
  { key := Vector.ofFn fun i : Fin 8 => wordAt seed (4 * i.val) }

end KeyStream

end CredentialPolicy.Random
