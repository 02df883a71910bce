/-
# Programs and fonts

A program replaces all that the previous one left behind, and restores the built-in font. A font
replaces the built-in one until then.
-/
import ChipEight.Machine.Operation

namespace ChipEight.Machine

/-- The machine with memory, registers, timers and stack as at power-on, and the screen cleared.
The keypad, the random bytes and the count of frames go on as they are. -/
def reset (m : Machine) : Machine :=
  withBuiltinFont
    { m with
      pc := programStart
      registers := .empty
      index := 0
      delay := 0
      sound := 0
      keyWait := none
      memory := .empty
      stack := []
      screen := m.screen.clear
      fault := none }

/-- Load a program. -/
def load (m : Machine) (program : List UInt8) : Reaction Unit :=
  if program.length > maxProgramSize then
    { result := .error (.programTooLarge program.length), machine := m }
  else
    let fresh := m.reset
    { result := .ok ()
      machine := { fresh with memory := fresh.memory.overwrite programStart program }
      events := [.clearScreen, .loaded program.length] }

/-- Replace the font. -/
def loadFont (m : Machine) (font : List UInt8) : Reaction Unit :=
  if font.length ≠ fontSize then
    { result := .error (.wrongFontSize font.length), machine := m }
  else
    Operation.writeMemory Font.start font m

end ChipEight.Machine
