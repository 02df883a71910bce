/-
# Configuration

The parameters of a machine, and the time that a frequency leaves between two frames.
-/

namespace ChipEight

/-- The parameters of a machine. -/
structure Config where
  /-- The number of instructions executed per frame. -/
  speed : Nat := 10
  /-- The pitch of the tone in hertz. -/
  toneFrequency : Nat := 440
  /-- The number of frames in a second. -/
  frameRate : Nat := 60
  /-- How deep subroutine calls may nest. -/
  stackSize : Nat := 16
  /-- The seed of the random numbers, if they are to be repeatable. -/
  seed : Option UInt64 := none
  deriving DecidableEq, Repr

/-- The number of nanoseconds in a second. -/
def nanosInSecond : Nat := 1000000000

/-- The nanoseconds between two events of a frequency; nothing separates events of frequency
zero. -/
def intervalNanos (hertz : Nat) : Nat :=
  if hertz = 0 then 0 else nanosInSecond / hertz

/-- The nanoseconds between two frames. -/
def Config.frameNanos (c : Config) : Nat := intervalNanos c.frameRate

end ChipEight
