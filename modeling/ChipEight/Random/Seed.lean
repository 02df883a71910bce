/-
# Random seeds

A 64-bit seed is stretched into the 256-bit key of a stream cipher by a permuted congruential
generator: a 64-bit linear congruential state, of which each word shows 32 bits that were folded
by a shift and turned by an amount taken from the highest bits.
-/

namespace ChipEight.Random

/-- The next state of the linear congruential generator. -/
def advance (s : UInt64) : UInt64 := s * 6364136223846793005 + 11634580027462260723

/-- The bits of a word turned to the right. -/
def rotateRight (w amount : UInt32) : UInt32 :=
  w >>> (amount % 32) ||| w <<< ((32 - amount % 32) % 32)

/-- The word that a state shows. -/
def output (s : UInt64) : UInt32 :=
  rotateRight (((s >>> 18) ^^^ s) >>> 27).toUInt32 (s >>> 59).toUInt32

/-- The next `count` words from a state on. -/
def words (s : UInt64) : Nat → List UInt32
  | 0 => []
  | count + 1 => output (advance s) :: words (advance s) count

/-- As many words are shown as were asked for. -/
theorem length_words (s : UInt64) (count : Nat) : (words s count).length = count := by
  induction count generalizing s with
  | zero => rfl
  | succ count ih => rw [words, List.length_cons, ih]

/-- The key of a stream of random words. -/
abbrev Key := Vector UInt32 8

/-- The key of a seed. -/
def expandSeed (seed : UInt64) : Key := ⟨(words seed 8).toArray, length_words seed 8⟩

end ChipEight.Random
