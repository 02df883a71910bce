/-
# Failures

Every way in which an operation of the machine can fail. Four of them are faults: they are raised
by the running program and halt the machine. The others refuse what the host handed over.
-/
import ChipEight.Text.Hexadecimal

namespace ChipEight

open Text

/-- The number of bytes that the machine can address. -/
def memorySize : Nat := 4096

/-- The address at which programs are loaded and started. -/
def programStart : Nat := 512

/-- The size of the largest program that fits between `programStart` and the end of memory. -/
def maxProgramSize : Nat := memorySize - programStart

/-- The number of rows in the glyph of a digit, one byte each. -/
def glyphHeight : Nat := 5

/-- The size of a font: one glyph for each of the sixteen hexadecimal digits. -/
def fontSize : Nat := glyphHeight * 16

/-- Why an operation of the machine failed. -/
inductive Failure where
  /-- The word at `address` is no instruction. -/
  | unknownOpcode (address : Nat) (opcode : UInt16)
  /-- The return at `address` found the call stack empty. -/
  | stackUnderflow (address : Nat)
  /-- The call at `address` found the call stack full. -/
  | stackOverflow (address : Nat)
  /-- An access ran past the end of memory, where `address` lies. -/
  | memoryOutOfBounds (address : Nat)
  /-- A program of `size` bytes does not fit into memory. -/
  | programTooLarge (size : Nat)
  /-- A font of `size` bytes does not have the size of a font. -/
  | wrongFontSize (size : Nat)
  /-- A value could not be shown as text. -/
  | unprintable
  deriving DecidableEq, Repr

namespace Failure

/-- A fault is a failure raised by the running program, not by setting the machine up. -/
def isFault : Failure → Bool
  | unknownOpcode _ _ | stackUnderflow _ | stackOverflow _ | memoryOutOfBounds _ => true
  | programTooLarge _ | wrongFontSize _ | unprintable => false

/-- The failure in words. -/
def message : Failure → String
  | unknownOpcode address opcode =>
    "unknown opcode " ++ upperHex 4 opcode.toNat ++ " at address " ++ upperHex 3 address
  | stackUnderflow address => "call stack underflow at address " ++ upperHex 3 address
  | stackOverflow address => "call stack overflow at address " ++ upperHex 3 address
  | memoryOutOfBounds address => "memory access out of bounds at address " ++ upperHex 4 address
  | programTooLarge size =>
    "program too large for VM memory: " ++ size.repr ++ " bytes, maximum is " ++ maxProgramSize.repr
  | wrongFontSize size =>
    "fontset data must be " ++ fontSize.repr ++ " bytes, got " ++ size.repr
  | unprintable => "an error occurred when formatting an argument"

end Failure

end ChipEight
