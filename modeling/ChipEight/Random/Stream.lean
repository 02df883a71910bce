/-
# Random words

The words of a ChaCha stream with twelve rounds. Block `b` mixes the constants, the key and the
counter `b`; word `k` of the stream is word `k % 16` of block `k / 16`. A generator counts the
words that it has drawn from a stream, of this or of any other kind, and gives the low byte of each.
-/
import ChipEight.Random.Seed

namespace ChipEight.Random

/-- The sixteen words that a block mixes. -/
abbrev Block := Vector UInt32 16

/-- The bits of a word turned to the left by 1 to 31 places. -/
def rotateLeft (w amount : UInt32) : UInt32 := w <<< amount ||| w >>> (32 - amount)

/-- Mix the words at four places of a block. -/
def quarterRound (s : Block) (a b c d : Fin 16) : Block :=
  let s := s.set a (s.get a + s.get b)
  let s := s.set d (rotateLeft (s.get d ^^^ s.get a) 16)
  let s := s.set c (s.get c + s.get d)
  let s := s.set b (rotateLeft (s.get b ^^^ s.get c) 12)
  let s := s.set a (s.get a + s.get b)
  let s := s.set d (rotateLeft (s.get d ^^^ s.get a) 8)
  let s := s.set c (s.get c + s.get d)
  s.set b (rotateLeft (s.get b ^^^ s.get c) 7)

/-- Mix the four columns of a block and then its four diagonals. -/
def doubleRound (s : Block) : Block :=
  let s := quarterRound s 0 4 8 12
  let s := quarterRound s 1 5 9 13
  let s := quarterRound s 2 6 10 14
  let s := quarterRound s 3 7 11 15
  let s := quarterRound s 0 5 10 15
  let s := quarterRound s 1 6 11 12
  let s := quarterRound s 2 7 8 13
  quarterRound s 3 4 9 14

/-- The block before mixing: constants, key words, the counter with its low word first, and two
zeros. -/
def initialBlock (key : Key) (counter : UInt64) : Block :=
  #v[0x61707865, 0x3320646e, 0x79622d32, 0x6b206574,
     key[0], key[1], key[2], key[3],
     key[4], key[5], key[6], key[7],
     counter.toUInt32, (counter >>> 32).toUInt32, 0, 0]

/-- The block at a counter: six double rounds, added to the words that they started from. -/
def block (key : Key) (counter : UInt64) : Block :=
  let start := initialBlock key counter
  Vector.zipWith (· + ·) (Nat.repeat doubleRound 6 start) start

/-- Word `k` of the stream of a key. -/
def word (key : Key) (k : Nat) : UInt32 :=
  (block key (UInt64.ofNat (k / 16))).get ⟨k % 16, Nat.mod_lt _ (by decide)⟩

/-- A source of random bytes. -/
@[ext]
structure Generator where
  /-- The stream of words that it draws from, by number. -/
  stream : Nat → UInt32
  /-- How many words have been drawn. -/
  drawn : Nat := 0

namespace Generator

/-- The generator of a key, with all words still to come. -/
def ofKey (key : Key) : Generator := { stream := word key }

/-- The generator of a seed. -/
def ofSeed (seed : UInt64) : Generator := ofKey (expandSeed seed)

/-- Draw the next byte: the low byte of the next word. -/
def next (g : Generator) : UInt8 × Generator :=
  ((g.stream g.drawn).toUInt8, { g with drawn := g.drawn + 1 })

end Generator

end ChipEight.Random
