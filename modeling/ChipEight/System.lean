/-
# The system

What a program finds outside of itself: files, random bits and memory. Memory that is not granted is
a shortage, which no program survives.
-/
import ChipEight.File
import ChipEight.Random.Stream

namespace ChipEight

/-- Why memory cannot be had. -/
inductive Shortage where
  /-- No memory is that large. -/
  | capacity
  /-- The system does not grant it. -/
  | refused
  deriving DecidableEq, Repr

/-- What lies outside of a program. -/
structure System where
  /-- The files. -/
  files : Files
  /-- The random bits, as the key of a stream. -/
  entropy : Random.Key
  /-- Whether a number of bytes of memory is granted. -/
  grants : Nat → Bool

namespace System

/-- The largest number of bytes that can be asked for at once, the largest signed word. -/
def maxAllocation : Nat := 9223372036854775807

/-- Ask for memory. The system is not asked for no bytes at all. -/
def allocate (system : System) (bytes : Nat) : Except Shortage Unit :=
  if bytes > maxAllocation then .error .capacity
  else if bytes = 0 ∨ system.grants bytes then .ok ()
  else .error .refused

end System

end ChipEight
