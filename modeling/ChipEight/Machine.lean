/-
# The machine

The state of the machine, what operations on it leave behind, and how it is switched on. Addresses
on the call stack and the program counter are natural numbers: they run past the end of memory
without wrapping. The index register wraps at 65536.
-/
import ChipEight.Config
import ChipEight.Font
import ChipEight.Keypad
import ChipEight.Machine.Event
import ChipEight.Memory
import ChipEight.Registers
import ChipEight.Screen
import ChipEight.System

namespace ChipEight

/-- The state of a machine. -/
structure Machine where
  /-- The address of the next instruction. -/
  pc : Nat := programStart
  /-- The general registers. -/
  registers : Registers := .empty
  /-- The index register. -/
  index : UInt16 := 0
  /-- The delay timer. -/
  delay : UInt8 := 0
  /-- The sound timer. -/
  sound : UInt8 := 0
  /-- The register that waits for a key press, if one does. -/
  keyWait : Option UInt8 := none
  /-- The contents of memory. -/
  memory : Memory := .empty
  /-- The return addresses, the newest first. -/
  stack : List Nat := []
  /-- The screen. -/
  screen : Screen := {}
  /-- The keypad. -/
  keypad : Keypad := {}
  /-- The source of random bytes. -/
  generator : Random.Generator
  /-- The fault that halted the machine, if one did. -/
  fault : Option Failure := none
  /-- The parameters. -/
  config : Config

/-- What an operation leaves behind: its result, the machine and what happened, in order. -/
@[ext]
structure Reaction (α : Type) where
  /-- The result, or why the operation failed. -/
  result : Except Failure α
  /-- The machine afterwards. -/
  machine : Machine
  /-- The device calls and notices. -/
  events : List Event := []

/-- The same reaction with another view of its result. -/
def Reaction.map {α β : Type} (f : α → β) (r : Reaction α) : Reaction β :=
  { result := r.result.map f, machine := r.machine, events := r.events }

/-- The same reaction after other events. -/
def Reaction.behind {α : Type} (events : List Event) (r : Reaction α) : Reaction α :=
  { r with events := events ++ r.events }

namespace Machine

/-- Whether the machine waits for a key press. -/
def isPaused (m : Machine) : Bool := m.keyWait.isSome

/-- Whether a fault halted the machine. -/
def isHalted (m : Machine) : Bool := m.fault.isSome

/-- The value of a register. -/
def reg (m : Machine) (r : UInt8) : UInt8 := m.registers.get r

/-- Set a register. -/
def setReg (m : Machine) (r b : UInt8) : Machine :=
  { m with registers := m.registers.set r b }

/-! ## Switching on -/

/-- Put the built-in font into memory. -/
def withBuiltinFont (m : Machine) : Machine :=
  { m with memory := m.memory.overwrite Font.start Font.builtin }

/-- A machine that was just switched on. -/
def new (config : Config) (generator : Random.Generator) : Machine :=
  withBuiltinFont { generator, config }

/-- The bytes that a call stack takes, two for each of its addresses. -/
def stackBytes (config : Config) : Nat := 2 * config.stackSize

/-- The source of random bytes that parameters ask for. Without a seed the bytes cannot be
foreseen. -/
def source (config : Config) (entropy : Random.Key) : Random.Generator :=
  match config.seed with
  | some seed => .ofSeed seed
  | none => .ofKey entropy

/-- Switch a machine on. The memory of its call stack is taken up at once. -/
def switchOn (system : System) (config : Config) : Except Shortage Machine := do
  system.allocate (stackBytes config)
  return new config (source config system.entropy)

/-! ## Memory as text -/

/-- A line of the program listing: an address, and the bytes of the word at it. -/
def listingLine (address : Nat) (word : UInt8 × UInt8) : String :=
  Text.upperHex 4 address ++ ": " ++ Text.upperHex 2 word.1.toNat ++
    Text.upperHex 2 word.2.toNat ++ "\n"

/-- The listing of the words from the start of the program on, as many as `count` bytes hold and
memory has. -/
def listing (m : Machine) (count : Nat) : String :=
  let numbered := (Memory.pairs m.memory.cells.toList).zipIdx
  String.join <| ((numbered.drop (programStart / 2)).take (count / 2)).map fun (word, k) =>
    listingLine (k * 2) word

end Machine

end ChipEight
