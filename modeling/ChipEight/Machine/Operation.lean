/-
# Operations

What a machine does, it does in place and one thing after the other. An operation that fails in the
middle leaves behind whatever it did before it failed: the changes of the machine and the events.
-/
import ChipEight.Machine

namespace ChipEight

/-- Something that a machine does. -/
def Operation (α : Type) : Type := Machine → Reaction α

namespace Operation

variable {α β : Type}

/-- Go on with the result of an operation, unless it failed. What it did stays done either way. -/
def andThen (first : Operation α) (next : α → Operation β) : Operation β := fun m =>
  match first m with
  | { result := .error failure, machine, events } => { result := .error failure, machine, events }
  | { result := .ok a, machine, events } => (next a machine).behind events

instance : Monad Operation where
  pure a := fun m => { result := .ok a, machine := m }
  bind := andThen

/-! ## The parts of operations -/

/-- Look at the machine. -/
def view (f : Machine → α) : Operation α := fun m => { result := .ok (f m), machine := m }

/-- Change the machine. -/
def change (f : Machine → Machine) : Operation Unit := fun m => { result := .ok (), machine := f m }

/-- Report what happens. -/
def note (event : Event) : Operation Unit := fun m =>
  { result := .ok (), machine := m, events := [event] }

/-- Fail. -/
def fail (failure : Failure) : Operation α := fun m => { result := .error failure, machine := m }

/-- The value of a register. -/
def reg (r : UInt8) : Operation UInt8 := view (·.reg r)

/-- Set a register. -/
def setReg (r b : UInt8) : Operation Unit := change (·.setReg r b)

/-- Set the program counter. -/
def setPc (address : Nat) : Operation Unit := change fun m => { m with pc := address }

/-! ## Memory -/

/-- Refuse an access that runs past the end of memory, with the first address outside that it could
touch. -/
def checkRange (start len : Nat) : Operation Unit :=
  if start + len > memorySize then fail (.memoryOutOfBounds (max start memorySize)) else pure ()

/-- Read bytes of memory. -/
def readMemory (start len : Nat) : Operation (List UInt8) := do
  checkRange start len
  view (·.memory.slice start len)

/-- Write bytes to memory. -/
def writeMemory (start : Nat) (bytes : List UInt8) : Operation Unit := do
  checkRange start bytes.length
  change fun m => { m with memory := m.memory.overwrite start bytes }

/-! ## The call stack -/

/-- Push a return address onto the call stack, for the call at `address`. -/
def push (back address : Nat) : Operation Unit := do
  if (← view (·.stack)).length ≥ (← view (·.config)).stackSize then
    fail (.stackOverflow address)
  else
    change fun m => { m with stack := back :: m.stack }

/-- Pop a return address off the call stack, for the return at `address`. -/
def pop (address : Nat) : Operation Nat := do
  match ← view (·.stack) with
  | [] => fail (.stackUnderflow address)
  | top :: rest =>
    change fun m => { m with stack := rest }
    return top

/-! ## Devices and random bytes -/

/-- Turn all pixels off. -/
def clearScreen : Operation Unit := do
  change fun m => { m with screen := m.screen.clear }
  note .clearScreen

/-- Toggle a pixel, and tell whether it is off now. -/
def setPixel (x y : Nat) : Operation Bool := do
  let (off, screen) ← view (·.screen.toggle x y)
  change fun m => { m with screen }
  note (.setPixel x y off)
  return off

/-- Whether the key with a number is down. Numbers outside of the keypad are never down and nobody
is asked. -/
def isKeyDown (number : UInt8) : Operation Bool :=
  match Key.ofByte? number with
  | none => pure false
  | some key => do
    let down ← view (·.keypad.isDown key)
    note (.isKeyDown key down)
    return down

/-- Tell the keypad to deliver the next key press. -/
def awaitKey : Operation Unit := do
  change fun m => { m with keypad := m.keypad.await }
  note .awaitKey

/-- Draw a random byte. -/
def drawByte : Operation UInt8 := do
  let (byte, generator) ← view (·.generator.next)
  change fun m => { m with generator }
  return byte

end Operation

end ChipEight
