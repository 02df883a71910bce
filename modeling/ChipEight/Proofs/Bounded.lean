/-
# The machine on words of bounded size

The machine computes with unbounded numbers and reads its memory and its registers by total
functions. Here it is a second time on words of 16 and 64 bits, with every access checked: a sum or
product that does not fit into its word, a difference below zero, an index outside of its table, a
copy between lengths that differ and an instruction in the wrong place break off with a
`Bounded.Breach`. Only the count of presented frames stays unbounded. Like the operations of the
machine, those on bounded words (`Bounded.Attempt`) work in place, and one that fails leaves behind
what it did before. A machine that respects its bounds (`Machine.Sound`) never breaks off, and both
machines do the same (`Bounded.perform_eq`).
-/
import ChipEight.Proofs.Sprite

namespace ChipEight.Bounded

/-! ## Words and tables -/

/-- Why a computation on bounded words breaks off. -/
inductive Breach where
  /-- A value does not fit into a word of some bits. -/
  | overflow (bits value : Nat)
  /-- A number is subtracted from a smaller one. -/
  | underflow (minuend subtrahend : Nat)
  /-- An index lies outside of a table. -/
  | outside (index size : Nat)
  /-- A copy has another length than its target. -/
  | mismatch (source target : Nat)
  /-- An instruction is handed to a family that it does not belong to. -/
  | misplaced (instruction : Instruction)
  deriving DecidableEq, Repr

/-- A result, unless the computation of it breaks off. -/
abbrev Checked (α : Type) := Except Breach α

/-- A value of a word of some bits. -/
def fit (bits value : Nat) : Checked Nat :=
  if value < 2 ^ bits then .ok value else .error (.overflow bits value)

/-- A difference that is not below zero. -/
def minus (a b : Nat) : Checked Nat :=
  if b ≤ a then .ok (a - b) else .error (.underflow a b)

/-- Asks that a range lies within a table. -/
def within (start stop size : Nat) : Checked Unit :=
  if start ≤ stop ∧ stop ≤ size then .ok () else .error (.outside stop size)

/-- The item at an index. -/
def item (bytes : List UInt8) (k : Nat) : Checked UInt8 :=
  match bytes[k]? with
  | some b => .ok b
  | none => .error (.outside k bytes.length)

/-- Copy bytes to a range of memory of the same length. -/
def splice (m : Memory) (start stop : Nat) (bytes : List UInt8) : Checked Memory := do
  within start stop memorySize
  if bytes.length = stop - start then
    return m.overwrite start bytes
  else
    throw (.mismatch bytes.length (stop - start))

/-- Toggle the pixel at a column and a row. -/
def toggle (s : Screen) (x y : Nat) : Checked (Bool × Screen) := do
  let offset ← fit 64 (y * Screen.width)
  let cell ← fit 64 (x + offset)
  return (s.isLit cell, s.toggleCell cell)

/-- A coordinate that is strictly past the edge comes back on the other side, once. -/
def wrap (coordinate bound : Nat) : Checked Nat :=
  if coordinate > bound then minus coordinate bound else .ok coordinate

/-! ## Operations that may break off -/

/-- Something that a machine does, unless it breaks off. -/
def Attempt (α : Type) : Type := Machine → Checked (Reaction α)

namespace Attempt

variable {α β : Type}

/-- Go on with the result of an attempt, unless it failed or broke off. -/
def andThen (first : Attempt α) (next : α → Attempt β) : Attempt β := fun m =>
  match first m with
  | .error breach => .error breach
  | .ok { result := .error failure, machine, events } =>
    .ok { result := .error failure, machine, events }
  | .ok { result := .ok a, machine, events } => (next a machine).map (Reaction.behind events)

instance : Monad Attempt where
  pure a := fun m => .ok { result := .ok a, machine := m }
  bind := andThen

/-- An operation that computes no address and reads no table. -/
def plain (op : Operation α) : Attempt α := fun m => .ok (op m)

/-- A value that may be out of bounds. -/
def checked (value : Checked α) : Attempt α := fun m =>
  value.map fun a => { result := .ok a, machine := m }

/-- Look at the machine. -/
def view (f : Machine → α) : Attempt α := plain (Operation.view f)

/-- Change the machine. -/
def change (f : Machine → Machine) : Attempt Unit := plain (Operation.change f)

/-- The value of a register. -/
def reg (r : UInt8) : Attempt UInt8 := do
  let registers ← view (·.registers)
  if h : r.toNat < 16 then
    return registers.cells[r.toNat]
  else
    checked (.error (.outside r.toNat 16))

/-- Set a register. -/
def setReg (r b : UInt8) : Attempt Unit := do
  let registers ← view (·.registers)
  if h : r.toNat < 16 then
    change fun m => { m with registers := ⟨registers.cells.set r.toNat b h⟩ }
  else
    checked (.error (.outside r.toNat 16))

/-- Where an access ends. One that ends past the end of memory is refused. -/
def span (start len : Nat) : Attempt Nat := do
  let stop ← checked (fit 64 (start + len))
  if stop > memorySize then
    plain (Operation.fail (.memoryOutOfBounds (max start memorySize)))
  else
    return stop

/-- Read bytes of memory. -/
def readMemory (start len : Nat) : Attempt (List UInt8) := do
  let stop ← span start len
  checked (within start stop memorySize)
  return ((← view (·.memory)).cells.toList.take stop).drop start

/-- Write bytes to memory. -/
def writeMemory (start : Nat) (bytes : List UInt8) : Attempt Unit := do
  let stop ← span start bytes.length
  let memory ← checked (splice (← view (·.memory)) start stop bytes)
  change fun m => { m with memory }

/-! ## Drawing -/

/-- Toggle a pixel, and tell whether it is off now. -/
def setPixel (x y : Nat) : Attempt Bool := do
  let (off, screen) ← checked (toggle (← view (·.screen)) x y)
  change fun m => { m with screen }
  plain (Operation.note (.setPixel x y off))
  return off

/-- Toggle the pixels that are set in row `r` of a sprite, in some of its columns. -/
def drawRow (x y r : Nat) (row : UInt8) (erased : Bool) : List Nat → Attempt Bool
  | [] => return erased
  | c :: columns => do
    let shift ← checked (minus (Sprite.width - 1) c)
    let bit ← checked (fit 3 shift)
    if row.toNat.testBit bit then
      let column ← checked (fit 64 (x + c))
      let px ← checked (wrap column Screen.width)
      let line ← checked (fit 64 (y + r))
      let py ← checked (wrap line Screen.height)
      let off ← setPixel px py
      drawRow x y r row (erased || off) columns
    else
      drawRow x y r row erased columns

/-- Draw the rows of a sprite, the next one being row `r`. -/
def drawRows (x y r : Nat) (erased : Bool) : List UInt8 → Attempt Bool
  | [] => return erased
  | row :: rows => do
    let erased ← drawRow x y r row erased (List.range Sprite.width)
    drawRows x y (r + 1) erased rows

/-- Draw the sprite of `n` rows at the index register. -/
def drawSprite (vx vy n : UInt8) : Attempt Flow := do
  let x ← reg vx
  let y ← reg vy
  let rows ← readMemory (← view (·.index)).toNat n.toNat
  let erased ← drawRows x.toNat y.toNat 0 false rows
  setReg Registers.flag (if erased then 1 else 0)
  return .draw

/-! ## Instructions -/

/-- Set a register and go on. -/
def assign (r b : UInt8) : Attempt Flow := do
  setReg r b
  return .ok

/-- Set the flag and then a register, and go on. -/
def assignWithFlag (r b : UInt8) (flag : Bool) : Attempt Flow := do
  setReg Registers.flag (if flag then 1 else 0)
  setReg r b
  return .ok

/-- Skip the next instruction if a condition holds. -/
def skipIf (condition : Bool) : Attempt Flow := do
  if condition then
    let pc ← checked (fit 16 ((← view (·.pc)) + 2))
    plain (Operation.setPc pc)
  return .ok

/-- The instructions of the family `8`, which fail for no reason of their own. -/
def arithmetic : Instruction → Attempt Flow
  | .copy vx vy => do assign vx (← reg vy)
  | .or vx vy => do assign vx ((← reg vx) ||| (← reg vy))
  | .and vx vy => do assign vx ((← reg vx) &&& (← reg vy))
  | .xor vx vy => do assign vx ((← reg vx) ^^^ (← reg vy))
  | .add vx vy => do
    let a ← reg vx
    let b ← reg vy
    assignWithFlag vx (a + b) (decide (a.toNat + b.toNat > 255))
  | .sub vx vy => do
    let a ← reg vx
    let b ← reg vy
    assignWithFlag vx (a - b) (decide (b ≤ a))
  | .shiftRight vx => do
    let a ← reg vx
    assignWithFlag vx (a >>> 1) (a.toNat.testBit 0)
  | .subFrom vx vy => do
    let a ← reg vx
    let b ← reg vy
    assignWithFlag vx (b - a) (decide (a ≤ b))
  | .shiftLeft vx => do
    let a ← reg vx
    assignWithFlag vx (a <<< 1) (a.toNat.testBit 7)
  | i => checked (.error (.misplaced i))

/-- Execute an instruction that was fetched from `address`. -/
def execute (address : Nat) : Instruction → Attempt Flow
  | .skipIfByte vx nn => do skipIf ((← reg vx) == nn)
  | .skipUnlessByte vx nn => do skipIf ((← reg vx) != nn)
  | .skipIfEqual vx vy => do skipIf ((← reg vx) == (← reg vy))
  | .skipUnlessEqual vx vy => do skipIf ((← reg vx) != (← reg vy))
  | .setByte vx nn => assign vx nn
  | .addByte vx nn => do assign vx ((← reg vx) + nn)
  | .jumpOffset target => do
    let address ← checked (fit 16 (target.toNat + (← reg 0).toNat))
    plain (Operation.jumpTo address)
  | .random vx nn => do assign vx ((← plain Operation.drawByte) &&& nn)
  | .draw vx vy n => drawSprite vx vy n
  | .skipIfKey vx => do skipIf (← plain (Operation.isKeyDown (← reg vx)))
  | .skipUnlessKey vx => do skipIf (!(← plain (Operation.isKeyDown (← reg vx))))
  | .readDelay vx => do assign vx (← view (·.delay))
  | .setDelay vx => do
    let b ← reg vx
    change fun m => { m with delay := b }
    return .ok
  | .setSound vx => do
    let b ← reg vx
    change fun m => { m with sound := b }
    return .sound
  | .addIndex vx => do
    let b ← reg vx
    change fun m => { m with index := m.index + b.toUInt16 }
    return .ok
  | .setGlyph vx => do
    let offset ← checked (fit 16 ((← reg vx).toNat % 16 * glyphHeight))
    let target ← checked (fit 16 (Font.start + offset))
    change fun m => { m with index := UInt16.ofNat target }
    return .ok
  | .storeDecimal vx => do
    let b ← reg vx
    writeMemory (← view (·.index)).toNat (decimalDigits b)
    return .ok
  | .storeRegisters vx => do
    let registers ← view (·.registers)
    let count ← checked (fit 64 (vx.toNat + 1))
    checked (within 0 count 16)
    writeMemory (← view (·.index)).toNat (registers.cells.toList.take count)
    return .ok
  | .loadRegisters vx => do
    let count ← checked (fit 64 (vx.toNat + 1))
    checked (within 0 count 16)
    let bytes ← readMemory (← view (·.index)).toNat count
    if bytes.length = count then
      change fun m => { m with registers := m.registers.fill 0 bytes }
      return .ok
    else
      checked (.error (.mismatch bytes.length count))
  -- these compute no address and read no table
  | .sys target => plain (Operation.execute address (.sys target))
  | .clearScreen => plain (Operation.execute address .clearScreen)
  | .ret => plain (Operation.execute address .ret)
  | .jump target => plain (Operation.execute address (.jump target))
  | .call target => plain (Operation.execute address (.call target))
  | .setIndex target => plain (Operation.execute address (.setIndex target))
  | .awaitKey vx => plain (Operation.execute address (.awaitKey vx))
  | i@(.copy ..) | i@(.or ..) | i@(.and ..) | i@(.xor ..) | i@(.add ..) | i@(.sub ..)
  | i@(.shiftRight _) | i@(.subFrom ..) | i@(.shiftLeft _) => arithmetic i

/-- Fetch the word at the program counter. -/
def fetch : Attempt UInt16 := do
  let bytes ← readMemory (← view (·.pc)) 2
  let high ← checked (item bytes 0)
  let low ← checked (item bytes 1)
  return UInt16.ofNat (high.toNat * 256 + low.toNat)

/-- Fetch, decode and execute the instruction at the program counter, which is `address`. -/
def fetchExecute (address : Nat) : Attempt Flow := do
  let opcode ← fetch
  match Instruction.decode? opcode with
  | none => plain (Operation.fail (.unknownOpcode address opcode))
  | some instruction => do
    plain (Operation.note (.executing address opcode instruction))
    let pc ← checked (fit 16 (address + 2))
    plain (Operation.setPc pc)
    execute address instruction

end Attempt

/-! ## Steps, frames and actions -/

/-- Fetch, decode and execute the instruction at the program counter. -/
def fetchExecute (m : Machine) : Checked (Reaction Flow) :=
  match Attempt.fetchExecute m.pc m with
  | .error breach => .error breach
  | .ok { result := .error fault, machine, events } => .ok (machine.halt fault events)
  | .ok reaction => .ok reaction

/-- Execute one instruction, unless the machine is halted or waits for a key. -/
def step (m : Machine) : Checked (Reaction Flow) :=
  match m.fault with
  | some fault => return { result := .error fault, machine := m }
  | none =>
    match m.keyWait with
    | none => fetchExecute m
    | some register =>
      match m.keypad.take with
      | (none, _) => return { result := .ok .keyWait, machine := m, events := [.takeKey none] }
      | (some key, keypad) => do
        let written ← Attempt.setReg register (Key.toByte key) m
        let reaction ← fetchExecute { written.machine with keyWait := none, keypad }
        return reaction.behind [.takeKey (some key), .resumed key register]

/-- Execute up to `count` more instructions. -/
def runFrom (flow : Flow) (seen : Array Event) : Nat → Machine → Checked (Reaction Flow)
  | 0, m => return { result := .ok flow, machine := m, events := seen.toList }
  | count + 1, m => do
    let reaction ← step m
    let seen := seen ++ reaction.events
    match reaction.result with
    | .error fault =>
      return { result := .error fault, machine := reaction.machine, events := seen.toList }
    | .ok .keyWait =>
      return { result := .ok .keyWait, machine := reaction.machine, events := seen.toList }
    | .ok next => runFrom next seen count reaction.machine

/-- Execute the instructions of a frame, up to `count` more of them. -/
def loopFrom (seen : Array Event) : Nat → Machine → Checked (Reaction Unit)
  | 0, m => return { result := .ok (), machine := m, events := seen.toList }
  | count + 1, m => do
    let reaction ← step m
    let seen := seen ++ reaction.events
    match reaction.result with
    | .error fault =>
      return { result := .error fault, machine := reaction.machine, events := seen.toList }
    | .ok .keyWait =>
      return { result := .ok (), machine := reaction.machine, events := seen.toList }
    | .ok _ => loopFrom seen count reaction.machine

/-- Run one frame. -/
def cycle (m : Machine) : Checked (Reaction Unit) :=
  match m.fault with
  | some fault => return { result := .error fault, machine := m }
  | none => do
    match ← loopFrom #[] m.config.speed m with
    | { result := .error fault, machine, events } =>
      return { result := .error fault, machine, events }
    | { result := .ok (), machine, events } =>
      let (machine, calls) := machine.endFrame
      return { result := .ok (), machine, events := events ++ calls }

/-- Put the built-in font into memory. -/
def withBuiltinFont (m : Machine) : Checked Machine := do
  return { m with memory := ← splice m.memory Font.start fontSize Font.builtin }

/-- Replace the font. -/
def loadFont (m : Machine) (font : List UInt8) : Checked (Reaction Unit) :=
  if font.length ≠ fontSize then
    return { result := .error (.wrongFontSize font.length), machine := m }
  else
    Attempt.writeMemory Font.start font m

/-- The machine as at power-on, before the font is put into memory. -/
def blank (m : Machine) : Machine :=
  { m with
    pc := programStart
    registers := .empty
    index := 0
    delay := 0
    sound := 0
    keyWait := none
    memory := .empty
    stack := []
    screen := m.screen.clear
    fault := none }

/-- Load a program. -/
def load (m : Machine) (program : List UInt8) : Checked (Reaction Unit) :=
  if program.length > maxProgramSize then
    return { result := .error (.programTooLarge program.length), machine := m }
  else do
    let fresh ← withBuiltinFont (blank m)
    let stop ← fit 64 (programStart + program.length)
    return {
      result := .ok ()
      machine := { fresh with memory := ← splice fresh.memory programStart stop program }
      events := [.clearScreen, .loaded program.length] }

/-- Perform an action. -/
def perform (m : Machine) : Action → Checked (Reaction Answer)
  | .load program => do return (← load m program).map fun _ => .done
  | .loadFont font => do return (← loadFont m font).map fun _ => .done
  | .builtinFont => do return { result := .ok .done, machine := ← withBuiltinFont m }
  | .step => do return (← step m).map .flow
  | .runSteps count => do return (← runFrom .ok #[] count m).map .flow
  | .cycle => do return (← cycle m).map fun _ => .done
  | .togglePixel x y => do
    let (off, screen) ← toggle m.screen x y
    return { result := .ok (.erased off), machine := { m with screen } }
  -- these compute no address and read no table
  | a => return m.perform a

/-! ## Computations that do not break off -/

/-- A result is handed on. -/
@[simp]
theorem ok_bind {α β : Type} (a : α) (f : α → Checked β) : (Except.ok a >>= f) = f a := rfl

/-- A value that is returned is a result. -/
@[simp]
theorem pure_eq_ok {α : Type} (a : α) : (pure a : Checked α) = .ok a := rfl

/-- A small value fits. -/
theorem fit_of_lt {bits value : Nat} (h : value < 2 ^ bits) : fit bits value = .ok value :=
  if_pos h

/-- A smaller number can be subtracted. -/
theorem minus_of_le {a b : Nat} (h : b ≤ a) : minus a b = .ok (a - b) := if_pos h

/-- A range that lies in a table is accepted. -/
theorem within_of_le {start stop size : Nat} (h : start ≤ stop) (h' : stop ≤ size) :
    within start stop size = .ok () := if_pos ⟨h, h'⟩

/-- Bytes that lie in memory are copied there. -/
theorem splice_of_le (memory : Memory) {start stop : Nat} {bytes : List UInt8}
    (hstop : stop = start + bytes.length) (h : stop ≤ memorySize) :
    splice memory start stop bytes = .ok (memory.overwrite start bytes) := by
  subst hstop
  rw [splice, within_of_le (Nat.le_add_right start bytes.length) h, ok_bind,
    if_pos (Nat.add_sub_cancel_left start bytes.length).symm, pure_eq_ok]

/-- A range of memory has the bytes that a slice has. -/
theorem drop_take_eq_slice (m : Memory) {start len : Nat} (h : start + len ≤ memorySize) :
    (m.cells.toList.take (start + len)).drop start = m.slice start len := by
  -- both lists are compared byte by byte
  apply List.ext_getElem
  · rw [List.length_drop, List.length_take, Vector.length_toList, Memory.length_slice]
    omega
  · intro k hk hk'
    rw [Memory.length_slice] at hk'
    have hlt : start + k < memorySize := by omega
    rw [List.getElem_drop, List.getElem_take, Memory.getElem_slice, Memory.byte, dif_pos hlt]
    rfl

/-- A coordinate can always wrap. -/
theorem wrap_eq (a bound : Nat) : wrap a bound = .ok (Sprite.wrap a bound) := by
  rw [wrap, Sprite.wrap]
  by_cases h : a > bound
  · rw [if_pos h, if_pos h, minus_of_le (Nat.le_of_lt h)]
  · rw [if_neg h, if_neg h]

/-- No coordinate grows when it wraps. -/
theorem wrap_le (a bound : Nat) : Sprite.wrap a bound ≤ a := by
  rw [Sprite.wrap]
  split
  · exact Nat.sub_le a bound
  · exact Nat.le_refl a

/-- A pixel whose cell has a small number can be toggled. -/
theorem toggle_of_lt (s : Screen) {x y : Nat} (h : x + 64 * y < 2 ^ 64) :
    toggle s x y = .ok (s.toggle x y) := by
  have hcell : x + y * Screen.width = Screen.cell x y := by
    rw [Screen.cell, Nat.mul_comm]
  have hoffset : y * Screen.width < 2 ^ 64 := by
    simp only [Screen.width]
    omega
  have hlt : Screen.cell x y < 2 ^ 64 := h
  rw [toggle, fit_of_lt hoffset, ok_bind, hcell, fit_of_lt hlt, Screen.toggle_eq]
  rfl

/-- A register with a single digit is selected by that digit. -/
theorem select_of_lt {r : UInt8} (h : r.toNat < 16) : Registers.select r = r.toNat :=
  Nat.mod_eq_of_lt h

/-! ## Attempts that do not break off -/

namespace Attempt

variable {α β : Type} {m : Machine}

/-- Attempts that agree with operations agree with them one after the other. -/
theorem bind_eq {first : Attempt α} {op : Operation α} (h : first m = .ok (op m))
    {next : α → Attempt β} {nextOp : α → Operation β}
    (hnext : ∀ a, next a (op m).machine = .ok (nextOp a (op m).machine)) :
    (first >>= next) m = .ok ((op >>= nextOp) m) := by
  show andThen first next m = .ok (Operation.andThen op nextOp m)
  rw [andThen, Operation.andThen, h]
  rcases hop : op m with ⟨_ | a, machine, events⟩
  · rfl
  · have hrest := hnext a
    rw [hop] at hrest
    show (next a machine).map _ = _
    rw [hrest]
    rfl

/-- Behind an attempt that gives a result and does nothing else, the next one comes to its own
end. -/
theorem bind_of_view {first : Attempt α} {a : α}
    (h : first m = .ok { result := .ok a, machine := m }) (next : α → Attempt β) :
    (first >>= next) m = next a m := by
  show andThen first next m = _
  rw [andThen, h]
  show (next a m).map (Reaction.behind []) = _
  cases next a m <;> rfl

/-- A look at the machine hands on what was seen. -/
theorem view_bind (f : Machine → α) (next : α → Attempt β) (m : Machine) :
    (view f >>= next) m = next (f m) m := bind_of_view rfl next

/-- A value within its bounds is handed on. -/
theorem checked_bind {value : Checked α} {a : α} (h : value = .ok a) (next : α → Attempt β)
    (m : Machine) : (checked value >>= next) m = next a m := by
  refine bind_of_view ?_ next
  rw [h]
  rfl

/-- A register with a single digit has a value. -/
theorem reg_of_lt {r : UInt8} (h : r.toNat < 16) (m : Machine) :
    reg r m = .ok { result := .ok (m.reg r), machine := m } := by
  rw [reg, view_bind, dif_pos h, Machine.reg, Registers.get]
  simp only [select_of_lt h]
  rfl

/-- The value of a register with a single digit is handed on. -/
theorem reg_bind {r : UInt8} (h : r.toNat < 16) (next : UInt8 → Attempt β) (m : Machine) :
    (reg r >>= next) m = next (m.reg r) m := bind_of_view (reg_of_lt h m) next

/-- A register with a single digit can be set. -/
theorem setReg_of_lt {r : UInt8} (b : UInt8) (h : r.toNat < 16) (m : Machine) :
    setReg r b m = .ok (Operation.setReg r b m) := by
  rw [setReg, view_bind, dif_pos h, Operation.setReg, Operation.change, Machine.setReg,
    Registers.set]
  simp only [select_of_lt h]
  rfl

/-- Nothing comes behind an attempt that fails. -/
theorem bind_of_error {first : Attempt α} {failure : Failure}
    (h : first m = .ok { result := .error failure, machine := m }) (next : α → Attempt β) :
    (first >>= next) m = .ok { result := .error failure, machine := m } := by
  show andThen first next m = _
  rw [andThen, h]

/-- An access past the end of memory is refused. -/
theorem span_of_gt {start len : Nat} (hlt : start + len < 2 ^ 64)
    (h : memorySize < start + len) (m : Machine) :
    span start len m =
      .ok { result := .error (.memoryOutOfBounds (max start memorySize)), machine := m } := by
  rw [span, checked_bind (fit_of_lt hlt), if_pos h]
  rfl

/-- An access within memory may be made. -/
theorem span_of_le {start len : Nat} (h : start + len ≤ memorySize) (m : Machine) :
    span start len m = .ok { result := .ok (start + len), machine := m } := by
  have hlt : start + len < 2 ^ 64 := Nat.lt_of_le_of_lt h (by decide)
  rw [span, checked_bind (fit_of_lt hlt), if_neg (Nat.not_lt_of_le h)]
  rfl

/-- An access with a small end is read. -/
theorem readMemory_of_lt {start len : Nat} (hlt : start + len < 2 ^ 64) (m : Machine) :
    readMemory start len m = .ok (Operation.readMemory start len m) := by
  rw [readMemory]
  rcases Nat.lt_or_ge memorySize (start + len) with h | h
  · rw [bind_of_error (span_of_gt hlt h m), Operation.readMemory_of_gt h]
  · rw [bind_of_view (span_of_le h m), checked_bind (within_of_le (Nat.le_add_right start len) h),
      view_bind, drop_take_eq_slice _ h, Operation.readMemory_of_le h]
    rfl

/-- What is done with bytes that are read agrees with an operation if it does for those bytes. -/
theorem readMemory_bind {start len : Nat} (hlt : start + len < 2 ^ 64)
    {next : List UInt8 → Attempt β} {nextOp : List UInt8 → Operation β}
    (hnext : next (m.memory.slice start len) m = .ok (nextOp (m.memory.slice start len) m)) :
    (readMemory start len >>= next) m = .ok ((Operation.readMemory start len >>= nextOp) m) := by
  have hread := readMemory_of_lt hlt m
  rcases Nat.lt_or_ge memorySize (start + len) with h | h
  · have hfail := Operation.readMemory_of_gt h m
    rw [hfail] at hread
    rw [bind_of_error hread, Operation.bind_of_error hfail]
  · have hok := Operation.readMemory_of_le h m
    rw [hok] at hread
    rw [bind_of_view hread, hnext, Operation.bind_of_ok hok]
    rfl

/-- An access with a small end is written. -/
theorem writeMemory_of_lt {start : Nat} {bytes : List UInt8} (hlt : start + bytes.length < 2 ^ 64)
    (m : Machine) : writeMemory start bytes m = .ok (Operation.writeMemory start bytes m) := by
  rw [writeMemory]
  rcases Nat.lt_or_ge memorySize (start + bytes.length) with h | h
  · rw [bind_of_error (span_of_gt hlt h m), Operation.writeMemory_of_gt h]
  · rw [bind_of_view (span_of_le h m), view_bind, checked_bind (splice_of_le _ rfl h),
      Operation.writeMemory_of_le h]
    rfl

/-! ## Drawing does not break off -/

/-- A pixel whose cell has a small number can be toggled. -/
theorem setPixel_of_lt {x y : Nat} (h : x + 64 * y < 2 ^ 64) (m : Machine) :
    setPixel x y m = .ok (Operation.setPixel x y m) := by
  rw [setPixel, view_bind, checked_bind (toggle_of_lt m.screen h)]
  rfl

/-- A row of a sprite can be drawn at every position that bytes give. -/
theorem drawRow_of_lt {x y r : Nat} (hx : x < 256) (hy : y + r < 512) (row : UInt8) (erased : Bool)
    {columns : List Nat} (hc : ∀ c ∈ columns, c < Sprite.width) (m : Machine) :
    drawRow x y r row erased columns m =
      .ok (Operation.drawRow x (y + r) row erased columns m) := by
  induction columns generalizing erased m with
  | nil => rfl
  | cons c columns ih =>
    have hc8 : c < 8 := hc c List.mem_cons_self
    have hle : c ≤ Sprite.width - 1 := Nat.le_sub_one_of_lt hc8
    have hshift : Sprite.width - 1 - c < 2 ^ 3 := by
      simp only [Sprite.width]
      omega
    have hrest := fun erased => ih erased fun d hd => hc d (List.mem_cons_of_mem c hd)
    have hpixel : Sprite.wrap (x + c) Screen.width + 64 * Sprite.wrap (y + r) Screen.height <
        2 ^ 64 := by
      have hcolumn := wrap_le (x + c) Screen.width
      have hline := wrap_le (y + r) Screen.height
      omega
    rw [drawRow, Operation.drawRow, checked_bind (minus_of_le hle),
      checked_bind (fit_of_lt hshift)]
    split
    · rw [checked_bind (fit_of_lt (by omega)), checked_bind (wrap_eq _ _),
        checked_bind (fit_of_lt (by omega)), checked_bind (wrap_eq _ _)]
      exact bind_eq (setPixel_of_lt hpixel m) fun off => hrest _ _
    · exact hrest erased m

/-- A sprite can be drawn at every position that bytes give. -/
theorem drawRows_of_lt {x y : Nat} (hx : x < 256) {rows : List UInt8} {r : Nat}
    (hy : y + r + rows.length ≤ 512) (erased : Bool) (m : Machine) :
    drawRows x y r erased rows m = .ok (Operation.drawRows x y r erased rows m) := by
  -- the bound counts the rows that are left, so it holds again one row further down
  induction rows generalizing r erased m with
  | nil => rfl
  | cons row rows ih =>
    rw [List.length_cons] at hy
    have hcolumns : ∀ c ∈ List.range Sprite.width, c < Sprite.width :=
      fun c hc => List.mem_range.1 hc
    have hrow := drawRow_of_lt hx (y := y) (r := r) (by omega) row erased hcolumns m
    exact bind_eq hrow fun erased => ih (by omega) erased _

/-- A sprite can be drawn whatever the registers and the index register are. -/
theorem drawSprite_of_fits {vx vy n : UInt8} (h : (Instruction.draw vx vy n).Fits) :
    drawSprite vx vy n m = .ok (Operation.drawSprite vx vy n m) := by
  have hx : vx.toNat < 16 := h.1
  have hy : vy.toNat < 16 := h.2.1
  have hn : n.toNat < 16 := h.2.2
  have hindex := m.index.toNat_lt
  have hvx := (m.reg vx).toNat_lt
  have hvy := (m.reg vy).toNat_lt
  have hrows := m.memory.length_slice m.index.toNat n.toNat
  have hflag : Registers.flag.toNat < 16 := by decide
  rw [drawSprite, reg_bind hx, reg_bind hy, view_bind, Operation.drawSprite, Operation.reg,
    Operation.reg, Operation.view_bind, Operation.view_bind, Operation.view_bind]
  refine readMemory_bind (by omega) ?_
  exact bind_eq (drawRows_of_lt hvx (by omega) false m) fun erased =>
    bind_eq (setReg_of_lt _ hflag _) fun _ => rfl

/-! ## Instructions do not break off -/

/-- A register with a single digit can be assigned. -/
theorem assign_of_lt {r : UInt8} (b : UInt8) (h : r.toNat < 16) (m : Machine) :
    assign r b m = .ok (Operation.assign r b m) :=
  bind_eq (setReg_of_lt b h m) fun _ => rfl

/-- A register with a single digit can be assigned together with the flag. -/
theorem assignWithFlag_of_lt {r : UInt8} (b : UInt8) (flag : Bool) (h : r.toNat < 16)
    (m : Machine) : assignWithFlag r b flag m = .ok (Operation.assignWithFlag r b flag m) :=
  have hflag : Registers.flag.toNat < 16 := by decide
  bind_eq (setReg_of_lt _ hflag m) fun _ => bind_eq (setReg_of_lt b h _) fun _ => rfl

/-- The next instruction can be skipped while the program counter is small. -/
theorem skipIf_of_le (h : m.pc ≤ memorySize) (condition : Bool) :
    skipIf condition m = .ok (Operation.skipIf condition m) := by
  have hpc : m.pc + 2 < 2 ^ 16 := by
    simp only [memorySize] at h
    omega
  cases condition with
  | true =>
    show (view (·.pc) >>= _) m = _
    rw [view_bind, checked_bind (fit_of_lt hpc)]
    rfl
  | false => rfl

/-- Bytes at the index register are written, and the step goes on. -/
theorem writeMemory_bind (bytes : List UInt8) (hlen : bytes.length ≤ 16) :
    (do writeMemory m.index.toNat bytes; return .ok : Attempt Flow) m =
      .ok ((do Operation.writeMemory m.index.toNat bytes; return .ok : Operation Flow) m) := by
  have hindex := m.index.toNat_lt
  exact bind_eq (writeMemory_of_lt (by omega) m) fun _ => rfl

/-- Decoded instructions are executed in the same way on bounded words, if the program counter is
behind a word in memory. -/
theorem execute_of_fits (address : Nat) {i : Instruction} (hi : i.Fits)
    (hpc : m.pc ≤ memorySize) : execute address i m = .ok (Operation.execute address i m) := by
  have hindex := m.index.toNat_lt
  cases i with
  | sys target | clearScreen | ret | jump target | call target | setIndex target | awaitKey x => rfl
  | draw x y n => exact drawSprite_of_fits hi
  | skipIfByte x nn | skipUnlessByte x nn =>
    rw [execute, reg_bind hi, skipIf_of_le hpc]
    rfl
  | skipIfEqual x y | skipUnlessEqual x y =>
    rw [execute, reg_bind hi.1, reg_bind hi.2, skipIf_of_le hpc]
    rfl
  | setByte x nn =>
    rw [execute, assign_of_lt nn hi]
    rfl
  | readDelay x =>
    rw [execute, view_bind, assign_of_lt _ hi]
    rfl
  | addByte x nn =>
    rw [execute, reg_bind hi, assign_of_lt _ hi]
    rfl
  | copy x y =>
    rw [execute, arithmetic, reg_bind hi.2, assign_of_lt _ hi.1]
    rfl
  | or x y | and x y | xor x y =>
    rw [execute, arithmetic, reg_bind hi.1, reg_bind hi.2, assign_of_lt _ hi.1]
    rfl
  | add x y | sub x y | subFrom x y =>
    rw [execute, arithmetic, reg_bind hi.1, reg_bind hi.2, assignWithFlag_of_lt _ _ hi.1]
    rfl
  | shiftRight x | shiftLeft x =>
    rw [execute, arithmetic, reg_bind hi, assignWithFlag_of_lt _ _ hi]
    rfl
  | jumpOffset target =>
    have htarget : target.toNat < 4096 := hi
    have hoffset := (m.reg 0).toNat_lt
    rw [execute, reg_bind (by decide), checked_bind (fit_of_lt (by omega))]
    rfl
  | random x nn =>
    have hbyte : plain Operation.drawByte m = .ok (Operation.drawByte m) := rfl
    exact bind_eq hbyte fun byte => assign_of_lt _ hi _
  | skipIfKey x | skipUnlessKey x =>
    rw [execute, reg_bind hi]
    have hdown : plain (Operation.isKeyDown (m.reg x)) m =
        .ok (Operation.isKeyDown (m.reg x) m) := rfl
    refine bind_eq hdown fun down => ?_
    rw [Operation.isKeyDown_eq]
    exact skipIf_of_le hpc _
  | setDelay x | setSound x | addIndex x =>
    rw [execute, reg_bind hi]
    rfl
  | setGlyph x =>
    have hdigit : (m.reg x).toNat % 16 * glyphHeight < 2 ^ 16 := by
      simp only [glyphHeight]
      omega
    have htarget : Font.start + (m.reg x).toNat % 16 * glyphHeight < 2 ^ 16 := by
      simp only [Font.start, glyphHeight]
      omega
    rw [execute, reg_bind hi, checked_bind (fit_of_lt hdigit), checked_bind (fit_of_lt htarget)]
    rfl
  | storeDecimal x =>
    rw [execute, reg_bind hi, view_bind]
    exact writeMemory_bind (decimalDigits (m.reg x)) (by simp [decimalDigits])
  | storeRegisters x =>
    have hx : x.toNat < 16 := hi
    have hlen := m.registers.length_take_select x
    rw [select_of_lt hx] at hlen
    rw [execute, view_bind, checked_bind (fit_of_lt (by omega)),
      checked_bind (within_of_le (Nat.zero_le _) hx), view_bind, ← Registers.take,
      writeMemory_bind _ (by omega)]
    simp only [← select_of_lt hx]
    rfl
  | loadRegisters x =>
    have hx : x.toNat < 16 := hi
    rw [execute, checked_bind (fit_of_lt (by omega)),
      checked_bind (within_of_le (Nat.zero_le _) hx), view_bind, Operation.execute,
      Operation.view_bind, select_of_lt hx]
    refine readMemory_bind (by omega) ?_
    rw [if_pos (Memory.length_slice _ _ _)]
    rfl

end Attempt

end ChipEight.Bounded
