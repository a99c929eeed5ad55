/-
**The digest SHA-256.**

A message is padded to whole blocks of 64 bytes; each block is spread over 64 words and mixed into
a state of eight words, which at the end is the digest.

* `Sha256.digest`: the 32 bytes of a message's digest.
-/

namespace Paydesk.Sha256

/-- The state before the first block: fractions of the square roots of the first primes. -/
def initialState : List UInt32 :=
  [0x6a09e667, 0xbb67ae85, 0x3c6ef372, 0xa54ff53a, 0x510e527f, 0x9b05688c, 0x1f83d9ab, 0x5be0cd19]

/-- One constant for each round: fractions of the cube roots of the first primes. -/
def roundConstants : List UInt32 :=
  [0x428a2f98, 0x71374491, 0xb5c0fbcf, 0xe9b5dba5, 0x3956c25b, 0x59f111f1, 0x923f82a4, 0xab1c5ed5,
   0xd807aa98, 0x12835b01, 0x243185be, 0x550c7dc3, 0x72be5d74, 0x80deb1fe, 0x9bdc06a7, 0xc19bf174,
   0xe49b69c1, 0xefbe4786, 0x0fc19dc6, 0x240ca1cc, 0x2de92c6f, 0x4a7484aa, 0x5cb0a9dc, 0x76f988da,
   0x983e5152, 0xa831c66d, 0xb00327c8, 0xbf597fc7, 0xc6e00bf3, 0xd5a79147, 0x06ca6351, 0x14292967,
   0x27b70a85, 0x2e1b2138, 0x4d2c6dfc, 0x53380d13, 0x650a7354, 0x766a0abb, 0x81c2c92e, 0x92722c85,
   0xa2bfe8a1, 0xa81a664b, 0xc24b8b70, 0xc76c51a3, 0xd192e819, 0xd6990624, 0xf40e3585, 0x106aa070,
   0x19a4c116, 0x1e376c08, 0x2748774c, 0x34b0bcb5, 0x391c0cb3, 0x4ed8aa4a, 0x5b9cca4f, 0x682e6ff3,
   0x748f82ee, 0x78a5636f, 0x84c87814, 0x8cc70208, 0x90befffa, 0xa4506ceb, 0xbef9a3f7, 0xc67178f2]

/-- A word turned to the right by so many bits. -/
def rotate (word count : UInt32) : UInt32 := (word >>> count) ||| (word <<< (32 - count))

/-- A number in so many bytes, the highest first. -/
def bigEndian (number : Nat) : Nat → List UInt8
  | 0 => []
  | count + 1 => UInt8.ofNat (number / Nat.pow 256 count) :: bigEndian number count

/-- A message with a mark, zeros up to a whole number of blocks, and its length in bits. -/
def pad (message : List UInt8) : List UInt8 :=
  let zeros := (119 - message.length % 64) % 64
  message ++ 0x80 :: (List.replicate zeros 0 ++ bigEndian (8 * message.length) 8)

/-- Four bytes as a word, the highest first. -/
def wordsOf : List UInt8 → List UInt32
  | first :: second :: third :: fourth :: rest =>
    ((first.toUInt32 <<< 24) ||| (second.toUInt32 <<< 16) ||| (third.toUInt32 <<< 8)
      ||| fourth.toUInt32) :: wordsOf rest
  | _ => []

/-- The next word of a schedule from the ones before it, the latest first. -/
def nextWord (latest : List UInt32) : UInt32 :=
  let word (back : Nat) : UInt32 := latest[back - 1]?.getD 0
  let early := word 15
  let late := word 2
  word 16 + (rotate early 7 ^^^ rotate early 18 ^^^ (early >>> 3)) + word 7
    + (rotate late 17 ^^^ rotate late 19 ^^^ (late >>> 10))

/-- The 64 words of a block. -/
def schedule (words : List UInt32) : List UInt32 :=
  ((List.range 48).foldl (fun latest _ => nextWord latest :: latest) words.reverse).reverse

/-- The eight words that the rounds work on. -/
structure State where
  a : UInt32
  b : UInt32
  c : UInt32
  d : UInt32
  e : UInt32
  f : UInt32
  g : UInt32
  h : UInt32

/-- The state of eight words. -/
def State.ofList : List UInt32 → State
  | [a, b, c, d, e, f, g, h] => ⟨a, b, c, d, e, f, g, h⟩
  | _ => ⟨0, 0, 0, 0, 0, 0, 0, 0⟩

def State.toList (state : State) : List UInt32 :=
  [state.a, state.b, state.c, state.d, state.e, state.f, state.g, state.h]

/-- One round with the sum of its constant and its word. -/
def State.round (state : State) (sum : UInt32) : State :=
  let choice := (state.e &&& state.f) ^^^ ((~~~ state.e) &&& state.g)
  let majority := (state.a &&& state.b) ^^^ (state.a &&& state.c) ^^^ (state.b &&& state.c)
  let first := state.h + (rotate state.e 6 ^^^ rotate state.e 11 ^^^ rotate state.e 25)
    + choice + sum
  let second := (rotate state.a 2 ^^^ rotate state.a 13 ^^^ rotate state.a 22) + majority
  ⟨first + second, state.a, state.b, state.c, state.d + first, state.e, state.f, state.g⟩

/-- A state with a block of 16 words mixed into it. -/
def mixBlock (state : List UInt32) (words : List UInt32) : List UInt32 :=
  let mixed := ((roundConstants.zip (schedule words)).map fun (constant, word) => constant + word)
    |>.foldl State.round (State.ofList state)
  state.zipWith (· + ·) mixed.toList

/-- A state with so many blocks mixed into it. -/
def mixBlocks : Nat → List UInt32 → List UInt32 → List UInt32
  | 0, state, _ => state
  | count + 1, state, words => mixBlocks count (mixBlock state (words.take 16)) (words.drop 16)

/-- The 32 bytes of a message's digest. -/
def digest (message : List UInt8) : List UInt8 :=
  let words := wordsOf (pad message)
  (mixBlocks (words.length / 16) initialState words).flatMap fun word => bigEndian word.toNat 4

end Paydesk.Sha256
