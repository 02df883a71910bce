/-
# Effects

The effect of an instruction, told at one go: `Machine.effect` gives the machine behind the
instruction, or the reason why it is refused. Executing the instruction in place comes to the same
(`Machine.execute_eq`). In particular an instruction that fails has changed nothing before, and
nothing has happened (`Machine.execute_of_error`): whatever it does comes behind its only check.
-/
import ChipEight.Headless

namespace ChipEight

/-- What an executed instruction leaves behind. -/
structure Effect where
  /-- The machine afterwards. -/
  machine : Machine
  /-- How the step ended. -/
  flow : Flow := .ok
  /-- The device calls and notices. -/
  events : List Event := []

/-! ## Sprites -/

namespace Sprite

/-- The columns, from the left, in which a row of eight pixels is set. -/
def columns (row : UInt8) : List Nat :=
  (List.range width).filter fun c => row.toNat.testBit (width - 1 - c)

/-- The pixels of the rows of a sprite at a position, row `r` being the next one. -/
def pixelsFrom (x y r : Nat) : List UInt8 → List (Nat × Nat)
  | [] => []
  | row :: rows =>
    (columns row).map (fun c => (wrap (x + c) Screen.width, wrap (y + r) Screen.height)) ++
      pixelsFrom x y (r + 1) rows

/-- The pixels that a sprite toggles at a position, row by row and from left to right. -/
def pixels (x y : Nat) (rows : List UInt8) : List (Nat × Nat) := pixelsFrom x y 0 rows

end Sprite

namespace Machine

/-! ## Families of instructions -/

/-- Set a register and go on. -/
def assign (m : Machine) (r b : UInt8) : Effect := { machine := m.setReg r b }

/-- Set the flag and then a register, and go on. -/
def assignWithFlag (m : Machine) (r b : UInt8) (flag : Bool) : Effect :=
  { machine := { m with registers := m.registers.setWithFlag r b (if flag then 1 else 0) } }

/-- Skip the next instruction if a condition holds. -/
def skipIf (m : Machine) (condition : Bool) : Effect :=
  { machine := if condition then { m with pc := m.pc + 2 } else m }

/-- Set the program counter. -/
def jumpTo (m : Machine) (address : Nat) : Effect :=
  { machine := { m with pc := address }, flow := .jump }

/-- Whether the key with a number is down, and the call that asks for it. -/
def keyState (m : Machine) (number : UInt8) : Bool × List Event :=
  match Key.ofByte? number with
  | some k => (m.keypad.isDown k, [.isKeyDown k (m.keypad.isDown k)])
  | none => (false, [])

/-- Toggle pixels one after the other. The flag tells whether any of them went off. -/
def drawPixels (m : Machine) (pixels : List (Nat × Nat)) : Effect :=
  let (erased, screen) := m.screen.toggleAll pixels
  { machine := { m with
      screen
      registers := m.registers.set Registers.flag (if erased.any id then 1 else 0) }
    flow := .draw
    events := List.zipWith (fun p off => .setPixel p.1 p.2 off) pixels erased }

/-- An effect that takes a number of bytes at the index register, if they lie in memory. -/
def reaching (m : Machine) (len : Nat) (e : Effect) : Except Failure Effect :=
  if memorySize < m.index.toNat + len then
    .error (.memoryOutOfBounds (max m.index.toNat memorySize))
  else
    .ok e

/-- An effect that reaches past the end of memory is refused. -/
theorem reaching_of_gt {m : Machine} {len : Nat} (h : memorySize < m.index.toNat + len)
    (e : Effect) :
    m.reaching len e = .error (.memoryOutOfBounds (max m.index.toNat memorySize)) :=
  if_pos h

/-- An effect within memory is not. -/
theorem reaching_of_le {m : Machine} {len : Nat} (h : m.index.toNat + len ≤ memorySize)
    (e : Effect) : m.reaching len e = .ok e :=
  if_neg (Nat.not_lt_of_le h)

/-- An effect that is not refused is the one that was asked for. -/
theorem eq_of_reaching {m : Machine} {len : Nat} {e e' : Effect} (h : m.reaching len e = .ok e') :
    e' = e := by
  unfold reaching at h
  split at h <;> cases h
  rfl

/-- An effect that is refused reaches past the end of memory. -/
theorem outside_of_reaching {m : Machine} {len : Nat} {e : Effect} {failure : Failure}
    (h : m.reaching len e = .error failure) :
    memorySize < m.index.toNat + len ∧
      failure = .memoryOutOfBounds (max m.index.toNat memorySize) := by
  unfold reaching at h
  split at h <;> cases h
  next hlen => exact ⟨hlen, rfl⟩

/-- Another machine with the same index register reaches as far. -/
theorem reaching_map {m m' : Machine} (h : m'.index = m.index) (len : Nat) (e : Effect)
    (f : Effect → Effect) : m'.reaching len (f e) = (m.reaching len e).map f := by
  unfold reaching
  rw [h]
  split <;> rfl

/-! ## All instructions -/

/-- The effect of an instruction that was fetched from `address`. -/
def effect (m : Machine) (address : Nat) : Instruction → Except Failure Effect
  | .sys _ => .ok { machine := m }
  | .clearScreen =>
    .ok { machine := { m with screen := m.screen.clear }, flow := .draw, events := [.clearScreen] }
  | .ret =>
    match m.stack with
    | [] => .error (.stackUnderflow address)
    | top :: rest => .ok ({ m with stack := rest }.jumpTo top)
  | .jump target => .ok (m.jumpTo target.toNat)
  | .call target =>
    if m.stack.length ≥ m.config.stackSize then
      .error (.stackOverflow address)
    else
      .ok ({ m with stack := m.pc :: m.stack }.jumpTo target.toNat)
  | .skipIfByte vx nn => .ok (m.skipIf (m.reg vx == nn))
  | .skipUnlessByte vx nn => .ok (m.skipIf (m.reg vx != nn))
  | .skipIfEqual vx vy => .ok (m.skipIf (m.reg vx == m.reg vy))
  | .setByte vx nn => .ok (m.assign vx nn)
  | .addByte vx nn => .ok (m.assign vx (m.reg vx + nn))
  | .copy vx vy => .ok (m.assign vx (m.reg vy))
  | .or vx vy => .ok (m.assign vx (m.reg vx ||| m.reg vy))
  | .and vx vy => .ok (m.assign vx (m.reg vx &&& m.reg vy))
  | .xor vx vy => .ok (m.assign vx (m.reg vx ^^^ m.reg vy))
  | .add vx vy =>
    .ok (m.assignWithFlag vx (m.reg vx + m.reg vy)
      (decide ((m.reg vx).toNat + (m.reg vy).toNat > 255)))
  | .sub vx vy => .ok (m.assignWithFlag vx (m.reg vx - m.reg vy) (decide (m.reg vy ≤ m.reg vx)))
  | .shiftRight vx => .ok (m.assignWithFlag vx (m.reg vx >>> 1) ((m.reg vx).toNat.testBit 0))
  | .subFrom vx vy =>
    .ok (m.assignWithFlag vx (m.reg vy - m.reg vx) (decide (m.reg vx ≤ m.reg vy)))
  | .shiftLeft vx => .ok (m.assignWithFlag vx (m.reg vx <<< 1) ((m.reg vx).toNat.testBit 7))
  | .skipUnlessEqual vx vy => .ok (m.skipIf (m.reg vx != m.reg vy))
  | .setIndex target => .ok { machine := { m with index := target } }
  | .jumpOffset target => .ok (m.jumpTo (target.toNat + (m.reg 0).toNat))
  | .random vx nn =>
    let (byte, generator) := m.generator.next
    .ok ({ m with generator }.assign vx (byte &&& nn))
  | .draw vx vy n =>
    m.reaching n.toNat <| m.drawPixels <|
      Sprite.pixels (m.reg vx).toNat (m.reg vy).toNat (m.memory.slice m.index.toNat n.toNat)
  | .skipIfKey vx =>
    let (down, calls) := m.keyState (m.reg vx)
    .ok { m.skipIf down with events := calls }
  | .skipUnlessKey vx =>
    let (down, calls) := m.keyState (m.reg vx)
    .ok { m.skipIf (!down) with events := calls }
  | .readDelay vx => .ok (m.assign vx m.delay)
  | .awaitKey vx =>
    .ok {
      machine := { m with keyWait := some vx, keypad := m.keypad.await }
      flow := .keyWait
      events := [.waiting vx, .awaitKey] }
  | .setDelay vx => .ok { machine := { m with delay := m.reg vx } }
  | .setSound vx => .ok { machine := { m with sound := m.reg vx }, flow := .sound }
  | .addIndex vx => .ok { machine := { m with index := m.index + (m.reg vx).toUInt16 } }
  | .setGlyph vx =>
    .ok { machine := { m with
      index := UInt16.ofNat (Font.glyphAddress ((m.reg vx).toNat % 16)) } }
  | .storeDecimal vx =>
    m.reaching 3 { machine := { m with
      memory := m.memory.overwrite m.index.toNat (decimalDigits (m.reg vx)) } }
  | .storeRegisters vx =>
    m.reaching (Registers.select vx + 1) { machine := { m with
      memory := m.memory.overwrite m.index.toNat (m.registers.take (Registers.select vx + 1)) } }
  | .loadRegisters vx =>
    m.reaching (Registers.select vx + 1) { machine := { m with
      registers := m.registers.fill 0 (m.memory.slice m.index.toNat (Registers.select vx + 1)) } }

/-- The reaction of a machine to an instruction with a known effect, or to a refused one. -/
def react (m : Machine) : Except Failure Effect → Reaction Flow
  | .error failure => { result := .error failure, machine := m }
  | .ok e => { result := .ok e.flow, machine := e.machine, events := e.events }

end Machine

/-! ## Executing in place -/

/-- The registers up to a selected one are taken in full. -/
theorem Registers.length_take_select (v : Registers) (x : UInt8) :
    (v.take (select x + 1)).length = select x + 1 :=
  length_take v (select_lt x)

namespace Operation

variable {α β : Type} {m : Machine}

/-- Behind an operation that gives a result, the next one comes to its own end. -/
theorem bind_of_ok {first : Operation α} {a : α} {m' : Machine} {events : List Event}
    (h : first m = { result := .ok a, machine := m', events }) (next : α → Operation β) :
    (first >>= next) m = (next a m').behind events := by
  show andThen first next m = _
  rw [andThen, h]

/-- Nothing comes behind an operation that fails. -/
theorem bind_of_error {first : Operation α} {failure : Failure} {m' : Machine}
    {events : List Event} (h : first m = { result := .error failure, machine := m', events })
    (next : α → Operation β) :
    (first >>= next) m = { result := .error failure, machine := m', events } := by
  show andThen first next m = _
  rw [andThen, h]

/-- A look at the machine hands on what was seen. -/
theorem view_bind (f : Machine → α) (next : α → Operation β) (m : Machine) :
    (view f >>= next) m = next (f m) m := rfl

/-- An access that runs past the end of memory is refused. -/
theorem checkRange_of_gt {start len : Nat} (h : memorySize < start + len) (m : Machine) :
    checkRange start len m =
      { result := .error (.memoryOutOfBounds (max start memorySize)), machine := m } := by
  rw [checkRange, if_pos h]
  rfl

/-- An access within memory may be made. -/
theorem checkRange_of_le {start len : Nat} (h : start + len ≤ memorySize) (m : Machine) :
    checkRange start len m = { result := .ok (), machine := m } := by
  rw [checkRange, if_neg (Nat.not_lt_of_le h)]
  rfl

/-- Bytes past the end of memory are not read. -/
theorem readMemory_of_gt {start len : Nat} (h : memorySize < start + len) (m : Machine) :
    readMemory start len m =
      { result := .error (.memoryOutOfBounds (max start memorySize)), machine := m } :=
  bind_of_error (checkRange_of_gt h m) _

/-- Bytes within memory are read. -/
theorem readMemory_of_le {start len : Nat} (h : start + len ≤ memorySize) (m : Machine) :
    readMemory start len m = { result := .ok (m.memory.slice start len), machine := m } :=
  bind_of_ok (checkRange_of_le h m) _

/-- Bytes past the end of memory are not written, nor are those before them. -/
theorem writeMemory_of_gt {start : Nat} {bytes : List UInt8}
    (h : memorySize < start + bytes.length) (m : Machine) :
    writeMemory start bytes m =
      { result := .error (.memoryOutOfBounds (max start memorySize)), machine := m } :=
  bind_of_error (checkRange_of_gt h m) _

/-- Bytes within memory are written. -/
theorem writeMemory_of_le {start : Nat} {bytes : List UInt8}
    (h : start + bytes.length ≤ memorySize) (m : Machine) :
    writeMemory start bytes m =
      { result := .ok (), machine := { m with memory := m.memory.overwrite start bytes } } :=
  bind_of_ok (checkRange_of_le h m) _

/-- A full call stack takes no return address. -/
theorem push_of_le (back address : Nat) (h : m.config.stackSize ≤ m.stack.length) :
    push back address m = { result := .error (.stackOverflow address), machine := m } := by
  rw [push, view_bind, view_bind, if_pos h]
  rfl

/-- A call stack that is not full takes a return address. -/
theorem push_of_gt (back address : Nat) (h : m.stack.length < m.config.stackSize) :
    push back address m =
      { result := .ok (), machine := { m with stack := back :: m.stack } } := by
  rw [push, view_bind, view_bind, if_neg (Nat.not_le_of_lt h)]
  rfl

/-- An empty call stack gives no return address. -/
theorem pop_of_nil (address : Nat) (h : m.stack = []) :
    pop address m = { result := .error (.stackUnderflow address), machine := m } := by
  rw [pop, view_bind, h]
  rfl

/-- A call stack that is not empty gives its newest return address. -/
theorem pop_of_cons (address : Nat) {top : Nat} {rest : List Nat} (h : m.stack = top :: rest) :
    pop address m = { result := .ok top, machine := { m with stack := rest } } := by
  rw [pop, view_bind, h]
  rfl

/-- The keypad is asked for a key, if the number is that of a key. -/
theorem isKeyDown_eq (number : UInt8) (m : Machine) :
    isKeyDown number m =
      { result := .ok (m.keyState number).1, machine := m, events := (m.keyState number).2 } := by
  rw [isKeyDown, Machine.keyState]
  cases Key.ofByte? number <;> rfl

/-- A skip moves the program counter, if its condition holds. -/
theorem skipIf_eq (condition : Bool) (m : Machine) :
    skipIf condition m = m.react (.ok (m.skipIf condition)) := by
  cases condition <;> rfl

/-! ## Drawing in place -/

/-- What toggling pixels one after the other comes to, if something may have been erased before. -/
def toggled (m : Machine) (erased : Bool) (pixels : List (Nat × Nat)) : Reaction Bool :=
  { result := .ok (erased || (m.screen.toggleAll pixels).1.any id)
    machine := { m with screen := (m.screen.toggleAll pixels).2 }
    events := List.zipWith (fun p off => .setPixel p.1 p.2 off) pixels
      (m.screen.toggleAll pixels).1 }

/-- Without pixels nothing is toggled. -/
theorem toggled_nil (m : Machine) (erased : Bool) :
    toggled m erased [] = { result := .ok erased, machine := m } := by
  simp only [toggled, Screen.toggleAll, List.any_nil, Bool.or_false, List.zipWith_nil_left]

/-- A pixel is toggled before the others. -/
theorem toggled_cons (m : Machine) (erased : Bool) (x y : Nat) (pixels : List (Nat × Nat)) :
    toggled m erased ((x, y) :: pixels) =
      (toggled { m with screen := (m.screen.toggle x y).2 } (erased || (m.screen.toggle x y).1)
        pixels).behind [.setPixel x y (m.screen.toggle x y).1] := by
  simp only [toggled, Screen.toggleAll, List.any_cons, id_eq, Bool.or_assoc, List.zipWith_cons_cons,
    Reaction.behind, List.singleton_append]

/-- Pixels are toggled before others. -/
theorem toggled_append (m : Machine) (erased : Bool) (first second : List (Nat × Nat)) :
    toggled m erased (first ++ second) =
      (toggled { m with screen := (m.screen.toggleAll first).2 }
        (erased || (m.screen.toggleAll first).1.any id) second).behind
          (toggled m erased first).events := by
  induction first generalizing m erased with
  | nil =>
    rw [toggled_nil, Screen.toggleAll, List.any_nil, Bool.or_false]
    rfl
  | cons p first ih =>
    obtain ⟨x, y⟩ := p
    rw [List.cons_append, toggled_cons, ih, toggled_cons, Screen.toggleAll, List.any_cons,
      Bool.or_assoc]
    rfl

/-- The pixels of a row of a sprite in some of its columns are toggled one after the other. -/
theorem drawRow_eq (x y : Nat) (row : UInt8) (erased : Bool) (columns : List Nat) (m : Machine) :
    drawRow x y row erased columns m =
      toggled m erased ((columns.filter fun c => row.toNat.testBit (Sprite.width - 1 - c)).map
        fun c => (Sprite.wrap (x + c) Screen.width, Sprite.wrap y Screen.height)) := by
  induction columns generalizing erased m with
  | nil => exact (toggled_nil m erased).symm
  | cons c columns ih =>
    rw [drawRow, List.filter_cons]
    split
    · rw [List.map_cons, toggled_cons, ← ih]
      rfl
    · exact ih erased m

/-- The pixels of a sprite are toggled one after the other. -/
theorem drawRows_eq (x y r : Nat) (erased : Bool) (rows : List UInt8) (m : Machine) :
    drawRows x y r erased rows m = toggled m erased (Sprite.pixelsFrom x y r rows) := by
  induction rows generalizing r erased m with
  | nil => exact (toggled_nil m erased).symm
  | cons row rows ih =>
    rw [drawRows, bind_of_ok (drawRow_eq x (y + r) row erased (List.range Sprite.width) m), ih,
      Sprite.pixelsFrom, toggled_append]
    rfl

end Operation

namespace Machine

variable {m : Machine} {address : Nat} {i : Instruction}

/-- Something that is written to the index register is written in full or not at all. -/
theorem writeMemory_eq (m : Machine) (bytes : List UInt8) :
    (do Operation.writeMemory m.index.toNat bytes; return .ok : Operation Flow) m =
      m.react (m.reaching bytes.length
        { machine := { m with memory := m.memory.overwrite m.index.toNat bytes } }) := by
  rcases Nat.lt_or_ge memorySize (m.index.toNat + bytes.length) with h | h
  · rw [Operation.bind_of_error (Operation.writeMemory_of_gt h m), reaching_of_gt h]
    rfl
  · rw [Operation.bind_of_ok (Operation.writeMemory_of_le h m), reaching_of_le h]
    rfl

/-- What is read at the index register is read in full or not at all. -/
theorem readMemory_eq (m : Machine) (len : Nat) (next : List UInt8 → Operation Flow) {e : Effect}
    (h : next (m.memory.slice m.index.toNat len) m = m.react (.ok e)) :
    (Operation.readMemory m.index.toNat len >>= next) m = m.react (m.reaching len e) := by
  rcases Nat.lt_or_ge memorySize (m.index.toNat + len) with hlen | hlen
  · rw [Operation.bind_of_error (Operation.readMemory_of_gt hlen m), reaching_of_gt hlen]
    rfl
  · rw [Operation.bind_of_ok (Operation.readMemory_of_le hlen m), reaching_of_le hlen, h]
    rfl

/-- The rows of a sprite are drawn, and then the flag is set. -/
theorem drawRows_eq (m : Machine) (x y : Nat) (rows : List UInt8) :
    (do
      let erased ← Operation.drawRows x y 0 false rows
      Operation.setReg Registers.flag (if erased then 1 else 0)
      return .draw : Operation Flow) m = m.react (.ok (m.drawPixels (Sprite.pixels x y rows))) := by
  rw [Operation.bind_of_ok (Operation.drawRows_eq x y 0 false rows m)]
  exact Reaction.ext rfl rfl (List.append_nil _)

/-- A skip that depends on a key asks for the key and then moves the program counter. -/
theorem skipIfKey_eq (m : Machine) (number : UInt8) (condition : Bool → Bool) :
    (Operation.isKeyDown number >>= fun down => Operation.skipIf (condition down)) m =
      m.react (.ok { m.skipIf (condition (m.keyState number).1) with
        events := (m.keyState number).2 }) := by
  rw [Operation.bind_of_ok (Operation.isKeyDown_eq number m), Operation.skipIf_eq]
  exact Reaction.ext rfl rfl (List.append_nil _)

/-- Executing an instruction in place comes to its effect, and to nothing if it is refused. -/
theorem execute_eq (m : Machine) (address : Nat) (i : Instruction) :
    Operation.execute address i m = m.react (m.effect address i) := by
  -- most forms are a few changes in a row; the others check something or repeat something first
  cases i with
  | ret =>
    rw [effect]
    cases hs : m.stack with
    | nil => exact Operation.bind_of_error (Operation.pop_of_nil address hs) _
    | cons top rest => exact Operation.bind_of_ok (Operation.pop_of_cons address hs) _
  | call target =>
    rw [effect]
    by_cases hs : m.stack.length ≥ m.config.stackSize
    · rw [if_pos hs]
      exact Operation.bind_of_error (Operation.push_of_le m.pc address hs) _
    · rw [if_neg hs]
      exact Operation.bind_of_ok (Operation.push_of_gt m.pc address (Nat.lt_of_not_le hs)) _
  | skipIfByte x nn | skipUnlessByte x nn | skipIfEqual x y | skipUnlessEqual x y =>
    exact Operation.skipIf_eq _ m
  | skipIfKey x => exact m.skipIfKey_eq (m.reg x) id
  | skipUnlessKey x => exact m.skipIfKey_eq (m.reg x) not
  | draw x y n => exact m.readMemory_eq n.toNat _ (m.drawRows_eq _ _ _)
  | storeDecimal x => exact m.writeMemory_eq (decimalDigits (m.reg x))
  | storeRegisters x =>
    have hstore := m.writeMemory_eq (m.registers.take (Registers.select x + 1))
    rw [Registers.length_take_select] at hstore
    exact hstore
  | loadRegisters x => exact m.readMemory_eq (Registers.select x + 1) _ rfl
  | _ => rfl

/-- An instruction that fails leaves everything as it was, and nothing has happened. -/
theorem execute_of_error {failure : Failure}
    (h : (Operation.execute address i m).result = .error failure) :
    Operation.execute address i m = { result := .error failure, machine := m } := by
  rw [execute_eq] at h ⊢
  cases he : m.effect address i with
  | error other =>
    rw [he] at h
    cases h
    rfl
  | ok e =>
    rw [he] at h
    cases h

end Machine

end ChipEight
