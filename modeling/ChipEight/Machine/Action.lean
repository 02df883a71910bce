/-
# Actions

All that a host may do with a machine: load and run programs, and use its screen and its keypad.
The host's own use of the screen and the keypad is no device call of the machine.
-/
import ChipEight.Machine.Loading
import ChipEight.Machine.Run

namespace ChipEight

/-- Something that a host does with a machine. -/
inductive Action where
  /-- Load a program. -/
  | load (program : List UInt8)
  /-- Replace the font. -/
  | loadFont (font : List UInt8)
  /-- Restore the built-in font. -/
  | builtinFont
  /-- Execute one instruction. -/
  | step
  /-- Execute up to a number of instructions. -/
  | runSteps (count : Nat)
  /-- Run one frame. -/
  | cycle
  /-- Toggle a pixel. -/
  | togglePixel (x y : Nat)
  /-- Turn all pixels off. -/
  | clearScreen
  /-- Present the screen. -/
  | renderScreen
  /-- Press a key. -/
  | pressKey (key : Key)
  /-- Release a key. -/
  | releaseKey (key : Key)
  /-- Release all keys. -/
  | releaseKeys
  /-- Arm the slot for the next key press. -/
  | awaitKey
  /-- Take the delivered key. -/
  | takeKey
  deriving DecidableEq, Repr

/-- What an action that succeeded answers. -/
inductive Answer where
  /-- Nothing but that it succeeded. -/
  | done
  /-- How the last step ended. -/
  | flow (flow : Flow)
  /-- Whether a pixel is off now. -/
  | erased (off : Bool)
  /-- The key that was taken, if there was one. -/
  | taken (key : Option Key)
  deriving DecidableEq, Repr

namespace Machine

/-- Press a key, which may deliver it to the program that waits. -/
def pressKey (m : Machine) (k : Key) : Machine × List Event :=
  ({ m with keypad := m.keypad.press k }, if m.keypad.isAwaiting then [.delivered k] else [])

/-- Release a key. -/
def releaseKey (m : Machine) (k : Key) : Machine := { m with keypad := m.keypad.release k }

/-- Perform an action. -/
def perform (m : Machine) : Action → Reaction Answer
  | .load program => (m.load program).map fun _ => .done
  | .loadFont font => (m.loadFont font).map fun _ => .done
  | .builtinFont => { result := .ok .done, machine := m.withBuiltinFont }
  | .step => m.step.map .flow
  | .runSteps count => (m.runSteps count).map .flow
  | .cycle => m.cycle.map fun _ => .done
  | .togglePixel x y =>
    let (off, screen) := m.screen.toggle x y
    { result := .ok (.erased off), machine := { m with screen } }
  | .clearScreen => { result := .ok .done, machine := { m with screen := m.screen.clear } }
  | .renderScreen => { result := .ok .done, machine := { m with screen := m.screen.render } }
  | .pressKey k =>
    let (machine, events) := m.pressKey k
    { result := .ok .done, machine, events }
  | .releaseKey k => { result := .ok .done, machine := m.releaseKey k }
  | .releaseKeys => { result := .ok .done, machine := { m with keypad := m.keypad.releaseAll } }
  | .awaitKey => { result := .ok .done, machine := { m with keypad := m.keypad.await } }
  | .takeKey =>
    let (key, keypad) := m.keypad.take
    { result := .ok (.taken key), machine := { m with keypad } }

end Machine

end ChipEight
