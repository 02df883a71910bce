/-
# Executing an instruction

What each instruction form does to a machine whose program counter has already moved past it, in the
order in which it is done. Where a form both sets the flag and a register, the flag comes first, so
that the register wins if it is the flag itself.
-/
import ChipEight.Machine.Operation

namespace ChipEight

/-- How a step ended. -/
inductive Flow where
  /-- Nothing special. -/
  | ok
  /-- The program counter was set to a new address. -/
  | jump
  /-- The screen was drawn to. -/
  | draw
  /-- The sound timer was set. -/
  | sound
  /-- The program waits for a key press. -/
  | keyWait
  deriving DecidableEq, Repr

namespace Sprite

/-- The number of columns of a sprite. -/
def width : Nat := 8

/-- A coordinate that is strictly past the edge comes back on the other side, once. -/
def wrap (coordinate bound : Nat) : Nat :=
  if coordinate > bound then coordinate - bound else coordinate

end Sprite

/-- The decimal digits of a byte: hundreds, tens and ones. -/
def decimalDigits (b : UInt8) : List UInt8 := [b / 100, b / 10 % 10, b % 10]

namespace Operation

/-! ## Families of instructions -/

/-- Set a register and go on. -/
def assign (r b : UInt8) : Operation Flow := do
  setReg r b
  return .ok

/-- Set the flag and then a register, and go on. -/
def assignWithFlag (r b : UInt8) (flag : Bool) : Operation Flow := do
  setReg Registers.flag (if flag then 1 else 0)
  setReg r b
  return .ok

/-- Skip the next instruction if a condition holds. -/
def skipIf (condition : Bool) : Operation Flow := do
  if condition then
    setPc ((← view (·.pc)) + 2)
  return .ok

/-- Jump to an address. -/
def jumpTo (address : Nat) : Operation Flow := do
  setPc address
  return .jump

/-! ## Drawing -/

/-- Toggle the pixels that are set in a row of a sprite, in some of its columns. What was erased so
far is handed on. -/
def drawRow (x y : Nat) (row : UInt8) (erased : Bool) : List Nat → Operation Bool
  | [] => return erased
  | c :: columns => do
    if row.toNat.testBit (Sprite.width - 1 - c) then
      let off ← setPixel (Sprite.wrap (x + c) Screen.width) (Sprite.wrap y Screen.height)
      drawRow x y row (erased || off) columns
    else
      drawRow x y row erased columns

/-- Draw the rows of a sprite, the next one being row `r`. -/
def drawRows (x y r : Nat) (erased : Bool) : List UInt8 → Operation Bool
  | [] => return erased
  | row :: rows => do
    let erased ← drawRow x (y + r) row erased (List.range Sprite.width)
    drawRows x y (r + 1) erased rows

/-- Draw the sprite of `n` rows at the index register. The flag tells in the end whether any pixel
went off. -/
def drawSprite (vx vy n : UInt8) : Operation Flow := do
  let x ← reg vx
  let y ← reg vy
  let rows ← readMemory (← view (·.index)).toNat n.toNat
  let erased ← drawRows x.toNat y.toNat 0 false rows
  setReg Registers.flag (if erased then 1 else 0)
  return .draw

/-! ## All instructions -/

/-- Execute an instruction that was fetched from `address`. -/
def execute (address : Nat) : Instruction → Operation Flow
  | .sys _ => return .ok
  | .clearScreen => do
    clearScreen
    return .draw
  | .ret => do jumpTo (← pop address)
  | .jump target => jumpTo target.toNat
  | .call target => do
    push (← view (·.pc)) address
    jumpTo target.toNat
  | .skipIfByte vx nn => do skipIf ((← reg vx) == nn)
  | .skipUnlessByte vx nn => do skipIf ((← reg vx) != nn)
  | .skipIfEqual vx vy => do skipIf ((← reg vx) == (← reg vy))
  | .setByte vx nn => assign vx nn
  | .addByte vx nn => do assign vx ((← reg vx) + nn)
  | .copy vx vy => do assign vx (← reg vy)
  | .or vx vy => do assign vx ((← reg vx) ||| (← reg vy))
  | .and vx vy => do assign vx ((← reg vx) &&& (← reg vy))
  | .xor vx vy => do assign vx ((← reg vx) ^^^ (← reg vy))
  | .add vx vy => do
    let a ← reg vx
    let b ← reg vy
    assignWithFlag vx (a + b) (decide (a.toNat + b.toNat > 255))
  | .sub vx vy => do
    let a ← reg vx
    let b ← reg vy
    assignWithFlag vx (a - b) (decide (b ≤ a))
  | .shiftRight vx => do
    let a ← reg vx
    assignWithFlag vx (a >>> 1) (a.toNat.testBit 0)
  | .subFrom vx vy => do
    let a ← reg vx
    let b ← reg vy
    assignWithFlag vx (b - a) (decide (a ≤ b))
  | .shiftLeft vx => do
    let a ← reg vx
    assignWithFlag vx (a <<< 1) (a.toNat.testBit 7)
  | .skipUnlessEqual vx vy => do skipIf ((← reg vx) != (← reg vy))
  | .setIndex target => do
    change fun m => { m with index := target }
    return .ok
  | .jumpOffset target => do jumpTo (target.toNat + (← reg 0).toNat)
  | .random vx nn => do assign vx ((← drawByte) &&& nn)
  | .draw vx vy n => drawSprite vx vy n
  | .skipIfKey vx => do skipIf (← isKeyDown (← reg vx))
  | .skipUnlessKey vx => do skipIf (!(← isKeyDown (← reg vx)))
  | .readDelay vx => do assign vx (← view (·.delay))
  | .awaitKey vx => do
    note (.waiting vx)
    change fun m => { m with keyWait := some vx }
    awaitKey
    return .keyWait
  | .setDelay vx => do
    let b ← reg vx
    change fun m => { m with delay := b }
    return .ok
  | .setSound vx => do
    let b ← reg vx
    change fun m => { m with sound := b }
    return .sound
  | .addIndex vx => do
    let b ← reg vx
    change fun m => { m with index := m.index + b.toUInt16 }
    return .ok
  | .setGlyph vx => do
    let digit := (← reg vx).toNat % 16
    change fun m => { m with index := UInt16.ofNat (Font.glyphAddress digit) }
    return .ok
  | .storeDecimal vx => do
    let b ← reg vx
    writeMemory (← view (·.index)).toNat (decimalDigits b)
    return .ok
  | .storeRegisters vx => do
    let registers ← view (·.registers)
    writeMemory (← view (·.index)).toNat (registers.take (Registers.select vx + 1))
    return .ok
  | .loadRegisters vx => do
    let bytes ← readMemory (← view (·.index)).toNat (Registers.select vx + 1)
    change fun m => { m with registers := m.registers.fill 0 bytes }
    return .ok

/-! ## Fetching -/

/-- Fetch the word at the program counter. -/
def fetch : Operation UInt16 := do
  let pc ← view (·.pc)
  checkRange pc 2
  view (·.memory.word pc)

/-- Fetch, decode and execute the instruction at the program counter, which is `address`. -/
def fetchExecute (address : Nat) : Operation Flow := do
  let opcode ← fetch
  match Instruction.decode? opcode with
  | none => fail (.unknownOpcode address opcode)
  | some instruction => do
    note (.executing address opcode instruction)
    setPc (address + 2)
    execute address instruction

end Operation

end ChipEight
