/-
# Events

What a machine does besides changing its own state: calls on its devices and notices about its
work. The events of an operation come in the order in which they happened.
-/
import ChipEight.Failure
import ChipEight.Instruction.Mnemonic
import ChipEight.Key
import ChipEight.Log

namespace ChipEight

open Text

/-- Something that happens while a machine works. -/
inductive Event where
  /-- A pixel was toggled; `erased` tells whether it is off now. -/
  | setPixel (x y : Nat) (erased : Bool)
  /-- The screen was cleared. -/
  | clearScreen
  /-- The screen was presented. -/
  | render
  /-- The keypad was asked for a key. -/
  | isKeyDown (key : Key) (down : Bool)
  /-- The keypad was told to deliver the next key press. -/
  | awaitKey
  /-- The delivered key, if there was one, was taken. -/
  | takeKey (key : Option Key)
  /-- The tone was switched on at a frequency. -/
  | startTone (hertz : Nat)
  /-- The tone was switched off. -/
  | stopTone
  /-- A program of a size was loaded. -/
  | loaded (size : Nat)
  /-- An instruction is executed. -/
  | executing (address : Nat) (opcode : UInt16) (instruction : Instruction)
  /-- A register begins to wait for a key press. -/
  | waiting (register : UInt8)
  /-- A register received the key that it waited for. -/
  | resumed (key : Key) (register : UInt8)
  /-- A key press was delivered to the program that waits. -/
  | delivered (key : Key)
  /-- A fault halted the machine. -/
  | halted (fault : Failure)
  deriving DecidableEq, Repr

namespace Event

/-- The text of an executed instruction in the trace. -/
def traceMessage (address : Nat) (opcode : UInt16) (instruction : Instruction) : String :=
  upperHex 3 address ++ ": " ++ upperHex 4 opcode.toNat ++ " " ++ instruction.mnemonic

/-- The log entry of a notice; device calls have none. -/
def entry? : Event → Option Log.Entry
  | loaded size => some ⟨.debug, "loaded program of " ++ size.repr ++ " bytes"⟩
  | executing address opcode instruction =>
    some ⟨.trace, traceMessage address opcode instruction⟩
  | waiting register =>
    some ⟨.debug, "waiting for key press into " ++ Instruction.registerName register⟩
  | resumed key register =>
    some ⟨.debug, "resuming with " ++ Key.name key ++ " in " ++ Instruction.registerName register⟩
  | delivered key => some ⟨.debug, "key wait resolved with " ++ Key.name key⟩
  | halted fault => some ⟨.error, "halted: " ++ fault.message⟩
  | setPixel .. | clearScreen | render | isKeyDown .. | awaitKey | takeKey _ | startTone _
  | stopTone => none

end Event

end ChipEight
