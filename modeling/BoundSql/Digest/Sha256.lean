/-!
# SHA-256

The digest of a byte sequence by the Secure Hash Standard: the message is
padded to blocks of sixteen 32-bit words, each block is expanded to a schedule
of sixty-four words, and sixty-four rounds stir the schedule into eight chaining
words. Everything is on lists of words; additions wrap at 32 bits.
-/

namespace BoundSql.Digest

/-- The eight chaining words. They are carried from block to block, and in the end they are the
digest. -/
structure Chaining where
  a : UInt32
  b : UInt32
  c : UInt32
  d : UInt32
  e : UInt32
  f : UInt32
  g : UInt32
  h : UInt32

/-- The fractional parts of the square roots of the first eight primes. -/
def Chaining.start : Chaining :=
  ⟨0x6a09e667, 0xbb67ae85, 0x3c6ef372, 0xa54ff53a, 0x510e527f, 0x9b05688c, 0x1f83d9ab, 0x5be0cd19⟩

/-- The fractional parts of the cube roots of the first sixty-four primes, one for each round. -/
def roundConstants : List UInt32 := [
  0x428a2f98, 0x71374491, 0xb5c0fbcf, 0xe9b5dba5, 0x3956c25b, 0x59f111f1, 0x923f82a4, 0xab1c5ed5,
  0xd807aa98, 0x12835b01, 0x243185be, 0x550c7dc3, 0x72be5d74, 0x80deb1fe, 0x9bdc06a7, 0xc19bf174,
  0xe49b69c1, 0xefbe4786, 0x0fc19dc6, 0x240ca1cc, 0x2de92c6f, 0x4a7484aa, 0x5cb0a9dc, 0x76f988da,
  0x983e5152, 0xa831c66d, 0xb00327c8, 0xbf597fc7, 0xc6e00bf3, 0xd5a79147, 0x06ca6351, 0x14292967,
  0x27b70a85, 0x2e1b2138, 0x4d2c6dfc, 0x53380d13, 0x650a7354, 0x766a0abb, 0x81c2c92e, 0x92722c85,
  0xa2bfe8a1, 0xa81a664b, 0xc24b8b70, 0xc76c51a3, 0xd192e819, 0xd6990624, 0xf40e3585, 0x106aa070,
  0x19a4c116, 0x1e376c08, 0x2748774c, 0x34b0bcb5, 0x391c0cb3, 0x4ed8aa4a, 0x5b9cca4f, 0x682e6ff3,
  0x748f82ee, 0x78a5636f, 0x84c87814, 0x8cc70208, 0x90befffa, 0xa4506ceb, 0xbef9a3f7, 0xc67178f2]

/-- A word turned to the right, by less than its width and by at least one place; that is all
the rounds ask for. -/
def rotateRight (word : UInt32) (amount : UInt32) : UInt32 :=
  (word >>> amount) ||| (word <<< (32 - amount))

/-- The next word of a schedule, from the sixteen before it, the most recent one first. Words
that are not there would count as zero, but a schedule always has sixteen to start from. -/
def nextWord (recent : List UInt32) : UInt32 :=
  let word (back : Nat) := recent.getD (back - 1) 0
  let early := word 15
  let late := word 2
  let s0 := rotateRight early 7 ^^^ rotateRight early 18 ^^^ (early >>> 3)
  let s1 := rotateRight late 17 ^^^ rotateRight late 19 ^^^ (late >>> 10)
  word 16 + s0 + word 7 + s1

/-- A schedule with further words in front, the most recent one first. It is turned round once
it is complete. -/
def extend : Nat → List UInt32 → List UInt32
  | 0, recent => recent
  | more + 1, recent => extend more (nextWord recent :: recent)

/-- One round: the schedule's word and the round's constant are mixed into the eight words, of
which six only move on by one place. -/
def Chaining.round (state : Chaining) (constant word : UInt32) : Chaining :=
  let s1 := rotateRight state.e 6 ^^^ rotateRight state.e 11 ^^^ rotateRight state.e 25
  let choice := (state.e &&& state.f) ^^^ (~~~state.e &&& state.g)
  let first := state.h + s1 + choice + constant + word
  let s0 := rotateRight state.a 2 ^^^ rotateRight state.a 13 ^^^ rotateRight state.a 22
  let majority := (state.a &&& state.b) ^^^ (state.a &&& state.c) ^^^ (state.b &&& state.c)
  ⟨first + (s0 + majority), state.a, state.b, state.c, state.d + first, state.e, state.f, state.g⟩

/-- The chaining words after a block of sixteen words. The words before the block are added at
the end, so a block cannot be undone from its result alone. -/
def Chaining.block (state : Chaining) (words : List UInt32) : Chaining :=
  let schedule := (extend 48 words.reverse).reverse
  let mixed := (roundConstants.zip schedule).foldl
    (fun current (constant, word) => current.round constant word) state
  ⟨state.a + mixed.a, state.b + mixed.b, state.c + mixed.c, state.d + mixed.d,
    state.e + mixed.e, state.f + mixed.f, state.g + mixed.g, state.h + mixed.h⟩

/-- The message followed by a one bit, zeros and its length in bits: a multiple of 64 bytes. The
length is taken modulo two to the 64th, as the standard allows no longer message. -/
def padMessage (message : List UInt8) : List UInt8 :=
  let length := message.length
  let zeros := (119 - length % 64) % 64
  let bits := 8 * length
  let lengthBytes := (List.range 8).map fun place => UInt8.ofNat (bits >>> (8 * (7 - place)))
  message ++ 0x80 :: List.replicate zeros 0 ++ lengthBytes

/-- Four bytes each as one word, the highest byte first. Up to three bytes at the end that make
no word are dropped; a padded message has none. -/
def wordsOf : List UInt8 → List UInt32
  | a :: b :: c :: d :: rest =>
    ((a.toUInt32 <<< 24) ||| (b.toUInt32 <<< 16) ||| (c.toUInt32 <<< 8) ||| d.toUInt32)
      :: wordsOf rest
  | _ => []

/-- The chaining words after as many blocks of sixteen words as `count` allows. -/
def Chaining.blocks : Nat → Chaining → List UInt32 → Chaining
  | 0, state, _ => state
  | count + 1, state, words => blocks count (state.block (words.take 16)) (words.drop 16)

/-- The digest of a message, as eight words. Nothing in the project proves that different
messages have different digests; what needs that says so. -/
def sha256 (message : List UInt8) : List UInt32 :=
  let words := wordsOf (padMessage message)
  let final := Chaining.start.blocks (words.length / 16) words
  [final.a, final.b, final.c, final.d, final.e, final.f, final.g, final.h]

end BoundSql.Digest
