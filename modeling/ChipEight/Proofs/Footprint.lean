/-
# What instructions write to

An instruction writes to few parts of a machine, and its word says to which: `Opcode.Writes` is the
table. A machine that differs from another one in listed parts only, wherever its program counter
stands, keeps to a footprint (`Machine.Footprint`). Whatever instruction is executed, the machine
keeps to the footprint of its word (`Machine.footprint_of_effect`), and so it does in every step
that succeeds (`Headless.step_footprint`).
-/
import ChipEight.Proofs.Gate
import ChipEight.Proofs.Table

namespace ChipEight

/-! ## Writing to registers and memory -/

namespace Registers

variable {v : Registers} {x r b f : UInt8}

/-- Setting a register changes no other one. -/
theorem select_eq_of_get_set_ne (h : (v.set x b).get r ≠ v.get r) : select r = select x := by
  by_contra hne
  exact h (get_set_of_ne v x r b (Ne.symm hne))

/-- Setting a register and the flag changes no other register. -/
theorem select_eq_of_get_setWithFlag_ne (h : (v.setWithFlag x b f).get r ≠ v.get r) :
    select r = select x ∨ select r = select flag := by
  by_cases hx : ((v.set flag f).set x b).get r = (v.set flag f).get r
  · right
    apply select_eq_of_get_set_ne (v := v) (b := f)
    rwa [← hx]
  · exact Or.inl (select_eq_of_get_set_ne hx)

/-- Filling the first registers changes no others. -/
theorem select_lt_of_get_fill_ne {bytes : List UInt8} (h : (v.fill 0 bytes).get r ≠ v.get r) :
    select r < bytes.length := by
  by_contra hle
  apply h
  rw [get_fill, dif_neg]
  omega

end Registers

/-- Overwriting memory changes no byte outside. -/
theorem Memory.exists_of_byte_overwrite_ne {m : Memory} {start a : Nat} {bytes : List UInt8}
    (h : (m.overwrite start bytes).byte a ≠ m.byte a) :
    ∃ k, a = start + k ∧ k < bytes.length := by
  by_contra hout
  apply h
  rw [byte_overwrite, dif_neg]
  rintro ⟨hle, hlt, -⟩
  exact hout ⟨a - start, by omega, by omega⟩

/-! ## Parts of a machine -/

/-- A part of a machine that instructions write to. -/
inductive Part where
  /-- The byte of memory that lies some way behind the index register. -/
  | byte (offset : Nat)
  /-- A general register. -/
  | register (number : Nat)
  /-- The index register. -/
  | index
  /-- The delay timer. -/
  | delay
  /-- The sound timer. -/
  | sound
  /-- The call stack. -/
  | stack
  /-- The source of random bytes. -/
  | generator
  /-- The cells of the screen. -/
  | screen
  /-- The wait for a key: the register that waits, and the slot of the keypad. -/
  | wait
  deriving DecidableEq, Repr

namespace Opcode

/-- The parts of a machine that the instruction of a word may write to. -/
inductive Writes (w : UInt16) : Part → Prop
  /-- Form `Fx33` stores three bytes. -/
  | decimal {k : Nat} (h : Row.Matches { first := 0xF, third := some 0x3, last := some 0x3 } w)
      (hk : k < 3) : Writes w (.byte k)
  /-- Form `Fx55` stores the registers up to `Vx`. -/
  | store {k : Nat} (h : Row.Matches { first := 0xF, third := some 0x5, last := some 0x5 } w)
      (hk : k ≤ (x w).toNat) : Writes w (.byte k)
  /-- Form `2nnn` pushes an address. -/
  | call (h : Row.Matches { first := 0x2 } w) : Writes w .stack
  /-- Form `00EE` pops an address. -/
  | ret (h : w = 0x00EE) : Writes w .stack
  /-- Form `Annn`. -/
  | setIndex (h : Row.Matches { first := 0xA } w) : Writes w .index
  /-- Form `Fx1E`. -/
  | addIndex (h : Row.Matches { first := 0xF, third := some 0x1, last := some 0xE } w) :
      Writes w .index
  /-- Form `Fx29`. -/
  | setGlyph (h : Row.Matches { first := 0xF, third := some 0x2, last := some 0x9 } w) :
      Writes w .index
  /-- Form `Fx15`. -/
  | setDelay (h : Row.Matches { first := 0xF, third := some 0x1, last := some 0x5 } w) :
      Writes w .delay
  /-- Form `Fx18`. -/
  | setSound (h : Row.Matches { first := 0xF, third := some 0x1, last := some 0x8 } w) :
      Writes w .sound
  /-- Form `Cxnn` draws a random byte. -/
  | draw (h : Row.Matches { first := 0xC } w) : Writes w .generator
  /-- Form `00E0`. -/
  | clear (h : w = 0x00E0) : Writes w .screen
  /-- Form `Dxyn`. -/
  | sprite (h : Row.Matches { first := 0xD } w) : Writes w .screen
  /-- Form `Fx0A`. -/
  | awaitKey (h : Row.Matches { first := 0xF, third := some 0x0, last := some 0xA } w) :
      Writes w .wait
  /-- Form `6xnn` sets `Vx`. -/
  | setByte (h : Row.Matches { first := 0x6 } w) : Writes w (.register (x w).toNat)
  /-- Form `7xnn` sets `Vx`. -/
  | addByte (h : Row.Matches { first := 0x7 } w) : Writes w (.register (x w).toNat)
  /-- The forms `8xyN` set `Vx`. -/
  | arithmetic (h : Row.Matches { first := 0x8 } w) : Writes w (.register (x w).toNat)
  /-- Form `Cxnn` sets `Vx`. -/
  | random (h : Row.Matches { first := 0xC } w) : Writes w (.register (x w).toNat)
  /-- Form `Fx07` sets `Vx`. -/
  | readDelay (h : Row.Matches { first := 0xF, third := some 0x0, last := some 0x7 } w) :
      Writes w (.register (x w).toNat)
  /-- The forms `8xy4` to `8xy7` and `8xyE` set the flag `VF`. -/
  | flag {last : Nat} (hlast : last ∈ [0x4, 0x5, 0x6, 0x7, 0xE])
      (h : Row.Matches { first := 0x8, last := some last } w) : Writes w (.register 0xF)
  /-- Form `Dxyn` sets the flag `VF`. -/
  | collision (h : Row.Matches { first := 0xD } w) : Writes w (.register 0xF)
  /-- Form `Fx65` loads the registers up to `Vx`. -/
  | load {r : Nat} (h : Row.Matches { first := 0xF, third := some 0x6, last := some 0x5 } w)
      (hr : r ≤ (x w).toNat) : Writes w (.register r)

/-- The digit that selects a register is the number of that register. -/
theorem select_x (w : UInt16) : Registers.select (x w) = (x w).toNat := Nat.mod_eq_of_lt (x_lt w)

end Opcode

namespace Machine

/-! ## Footprints -/

/-- A machine differs from another one in given parts only, and perhaps in its program counter. -/
structure Footprint (m : Machine) (written : Part → Prop) (m' : Machine) : Prop where
  /-- Memory changes in the given bytes behind the index register. -/
  memory : ∀ a, m'.memory.byte a ≠ m.memory.byte a →
    ∃ k, a = m.index.toNat + k ∧ written (.byte k) := by exact fun _ h => absurd rfl h
  /-- The given registers change. -/
  registers : ∀ r, m'.reg r ≠ m.reg r → written (.register (Registers.select r)) := by
    exact fun _ h => absurd rfl h
  /-- The index register changes if it is given. -/
  index : m'.index ≠ m.index → written .index := by exact fun h => absurd rfl h
  /-- The delay timer changes if it is given. -/
  delay : m'.delay ≠ m.delay → written .delay := by exact fun h => absurd rfl h
  /-- The sound timer changes if it is given. -/
  sound : m'.sound ≠ m.sound → written .sound := by exact fun h => absurd rfl h
  /-- The call stack changes if it is given. -/
  stack : m'.stack ≠ m.stack → written .stack := by exact fun h => absurd rfl h
  /-- The random bytes go on if they are given. -/
  generator : m'.generator ≠ m.generator → written .generator := by exact fun h => absurd rfl h
  /-- The screen changes if it is given. -/
  screen : m'.screen ≠ m.screen → written .screen := by exact fun h => absurd rfl h
  /-- The register that waits for a key changes if the wait is given. -/
  keyWait : m'.keyWait ≠ m.keyWait → written .wait := by exact fun h => absurd rfl h
  /-- The slot of the keypad changes if the wait is given. -/
  slot : m'.keypad.slot ≠ m.keypad.slot → written .wait := by exact fun h => absurd rfl h
  /-- No key moves. -/
  held : m'.keypad.held = m.keypad.held := by rfl
  /-- The screen is not presented. -/
  frames : m'.screen.frames = m.screen.frames := by rfl
  /-- No fault is recorded. -/
  fault : m'.fault = m.fault := by rfl
  /-- The parameters stay. -/
  config : m'.config = m.config := by rfl

variable {m : Machine} {w : UInt16} {address : Nat} {i : Instruction} {e : Effect}

/-- A skip writes to no part. -/
theorem footprint_skipIf (m : Machine) (condition : Bool) (written : Part → Prop) :
    m.Footprint written (m.skipIf condition).machine := by
  cases condition
  · exact {}
  · exact {}

/-- Setting a register that a word may write to. -/
theorem footprint_assign (hx : Opcode.Writes w (.register (Opcode.x w).toNat)) (b : UInt8) :
    m.Footprint (Opcode.Writes w) (m.assign (Opcode.x w) b).machine where
  registers r hr := by
    rw [Registers.select_eq_of_get_set_ne hr, Opcode.select_x]
    exact hx

/-- Setting a register and the flag, when a word may write to both. -/
theorem footprint_assignWithFlag {last : Nat} (hlast : last ∈ [0x4, 0x5, 0x6, 0x7, 0xE])
    (hw : Opcode.Row.Matches { first := 0x8, last := some last } w) (b : UInt8) (f : Bool) :
    m.Footprint (Opcode.Writes w) (m.assignWithFlag (Opcode.x w) b f).machine where
  registers r hr := by
    rcases Registers.select_eq_of_get_setWithFlag_ne hr with hx | hflag
    · rw [hx, Opcode.select_x]
      exact .arithmetic (Opcode.Row.matches_first.2 hw.first)
    · rw [hflag]
      exact .flag hlast hw

/-- An instruction that is executed writes to no part but those of its word. -/
theorem footprint_of_effect (hd : Instruction.decode? w = some i)
    (h : m.effect address i = .ok e) : m.Footprint (Opcode.Writes w) e.machine := by
  have hw := Instruction.matches_of_decode? hd
  have hops := Instruction.operands_of_decode? hd
  -- in each case, the parts that are not named are as before by computation
  cases i with
  | ret =>
    rw [effect] at h
    split at h <;> cases h
    exact { stack := fun _ => .ret (Instruction.matches_ret.1 hw) }
  | call =>
    rw [effect] at h
    split at h <;> cases h
    exact { stack := fun _ => .call hw }
  | clearScreen =>
    cases h
    exact { screen := fun _ => .clear (Instruction.matches_clearScreen.1 hw) }
  | draw =>
    rw [eq_of_reaching h]
    refine { screen := fun _ => .sprite hw, registers := ?_, frames := ?_ }
    · intro r hr
      rw [Registers.select_eq_of_get_set_ne hr]
      exact .collision hw
    · exact Screen.frames_toggleAll _ _
  | skipIfByte | skipUnlessByte | skipIfEqual | skipUnlessEqual | skipIfKey | skipUnlessKey =>
    cases h
    exact footprint_skipIf m _ _
  | setByte =>
    obtain ⟨rfl, -⟩ := hops
    cases h
    exact footprint_assign (.setByte hw) _
  | addByte =>
    obtain ⟨rfl, -⟩ := hops
    cases h
    exact footprint_assign (.addByte hw) _
  | copy | or | and | xor =>
    obtain ⟨rfl, -⟩ := hops
    cases h
    exact footprint_assign (.arithmetic (Opcode.Row.matches_first.2 hw.first)) _
  | add | sub | subFrom =>
    obtain ⟨rfl, -⟩ := hops
    cases h
    exact footprint_assignWithFlag (by decide) hw _ _
  | shiftRight | shiftLeft =>
    obtain rfl := hops
    cases h
    exact footprint_assignWithFlag (by decide) hw _ _
  | random =>
    obtain ⟨rfl, -⟩ := hops
    cases h
    exact { footprint_assign (m := m) (.random hw) _ with generator := fun _ => .draw hw }
  | readDelay =>
    obtain rfl := hops
    cases h
    exact footprint_assign (.readDelay hw) _
  | setIndex =>
    cases h
    exact { index := fun _ => .setIndex hw }
  | addIndex =>
    cases h
    exact { index := fun _ => .addIndex hw }
  | setGlyph =>
    cases h
    exact { index := fun _ => .setGlyph hw }
  | setDelay =>
    cases h
    exact { delay := fun _ => .setDelay hw }
  | setSound =>
    cases h
    exact { sound := fun _ => .setSound hw }
  | awaitKey =>
    cases h
    exact { keyWait := fun _ => .awaitKey hw, slot := fun _ => .awaitKey hw }
  | storeDecimal =>
    rw [eq_of_reaching h]
    refine { memory := ?_ }
    intro a ha
    obtain ⟨k, hk, hlt⟩ := Memory.exists_of_byte_overwrite_ne ha
    exact ⟨k, hk, .decimal hw hlt⟩
  | storeRegisters =>
    obtain rfl := hops
    rw [eq_of_reaching h]
    refine { memory := ?_ }
    intro a ha
    obtain ⟨k, hk, hlt⟩ := Memory.exists_of_byte_overwrite_ne ha
    rw [Registers.length_take_select, Opcode.select_x] at hlt
    exact ⟨k, hk, .store hw (Nat.le_of_lt_succ hlt)⟩
  | loadRegisters =>
    obtain rfl := hops
    rw [eq_of_reaching h]
    refine { registers := ?_ }
    intro r hr
    have hlt := Registers.select_lt_of_get_fill_ne hr
    rw [Memory.length_slice, Opcode.select_x] at hlt
    exact .load hw (Nat.le_of_lt_succ hlt)
  | sys | jump | jumpOffset =>
    cases h
    exact {}

/-! ## Steps -/

/-- A footprint does not depend on where the program counter stands. -/
theorem Footprint.of_advanced {written : Part → Prop} {m' : Machine}
    (h : m.advanced.Footprint written m') : m.Footprint written m' := { h with }

/-- Fetching, decoding and executing an instruction keeps to the footprint of its word. -/
theorem footprint_fetchExecute {flow : Flow} (h : m.fetchExecute.result = .ok flow) :
    m.Footprint (Opcode.Writes (m.memory.word m.pc)) m.fetchExecute.machine := by
  cases m.fetched with
  | outside hpc hr | unknown hpc hd hr | refused i failure hi hf hr =>
    rw [hr] at h
    cases h
  | executed i e hi he hr =>
    rw [hr]
    exact (footprint_of_effect hi.2 he).of_advanced

end Machine

namespace Headless

/-- A step that succeeds leaves the buzzer alone. -/
theorem buzzer_of_step {h : Headless} {flow : Flow} (hr : h.machine.step.result = .ok flow) :
    (h.perform .step).after.buzzer = h.buzzer := by
  have hf : (h.perform .step).after.machine.fault = none := Machine.fault_of_step hr
  rw [buzzer_perform, Machine.raised_of_fault_eq_none hf]
  rfl

/-- A step that succeeds after any run writes to no part but those of the word at the program
counter, and leaves the tone alone. If the machine waited for a key and receives it in this step,
the footprint begins behind that: where the key is in its register, the wait is over, and the slot
is idle. -/
theorem step_footprint (config : Config) (generator : Random.Generator) (before : List Action)
    {answer : Answer}
    (hr : (((new config generator).after before).perform .step).result = .ok answer) :
    let h := (new config generator).after before
    let h' := (h.perform .step).after
    let w := h.machine.memory.word h.machine.pc
    (h.machine.keyWait = none → h.machine.Footprint (Opcode.Writes w) h'.machine) ∧
    (∀ register key, h.machine.keyWait = some register →
      h.machine.keypad.slot = .delivered key →
      (h.machine.resume register key).Footprint (Opcode.Writes w) h'.machine) ∧
    h'.buzzer = h.buzzer := by
  intro h h' w
  have hmachine : h'.machine = h.machine.step.machine := rfl
  obtain ⟨flow, hstep⟩ := Reaction.exists_ok_of_map hr
  have hf : h.machine.fault = none := Machine.fault_eq_none_of_step hstep
  refine ⟨?_, ?_, buzzer_of_step hstep⟩
  · intro hk
    rw [Machine.step_of_running hf hk] at hstep hmachine
    rw [hmachine]
    exact Machine.footprint_fetchExecute hstep
  · intro register key hk hs
    rw [Machine.step_of_delivered hf hk hs] at hstep hmachine
    rw [hmachine]
    exact Machine.footprint_fetchExecute (m := h.machine.resume register key) hstep

/-- A program waits for a key in `V1` and then stores `V0` and `V1`. The step that receives the key
stores them: no byte but these two changes, the key stays down, and the tone goes on. -/
theorem step_footprint_resumed :
    let before := [Action.load [0xA3, 0x00, 0xF1, 0x0A, 0xF1, 0x55], .runSteps 2, .pressKey 7]
    let h := (new {} (.ofSeed 0)).after before
    let h' := (h.perform .step).after
    ((h.perform .step).result = .ok (.flow .ok) ∧ h.machine.keyWait = some 1 ∧
      h.machine.keypad.slot = .delivered 7) ∧
    h.machine.memory.byte 0x301 = 0 ∧ h'.machine.memory.byte 0x301 = 7 ∧
    (∀ a, h'.machine.memory.byte a ≠ h.machine.memory.byte a → a = 0x300 ∨ a = 0x301) ∧
    h'.machine.keypad.held = h.machine.keypad.held ∧ h'.buzzer = h.buzzer := by
  intro before
  dsimp only
  have hr : (((new {} (.ofSeed 0)).after before).perform .step).result = .ok (.flow .ok) := by
    decide +kernel
  have hk : ((new {} (.ofSeed 0)).after before).machine.keyWait = some 1 := by decide +kernel
  have hs : ((new {} (.ofSeed 0)).after before).machine.keypad.slot = .delivered 7 := by
    decide +kernel
  have hw : ((new {} (.ofSeed 0)).after before).machine.memory.word
      ((new {} (.ofSeed 0)).after before).machine.pc = 0xF155 := by
    decide +kernel
  have hindex : ((new {} (.ofSeed 0)).after before).machine.index = 0x300 := by decide +kernel
  have hbefore : ((new {} (.ofSeed 0)).after before).machine.memory.byte 0x301 = 0 := by
    decide +kernel
  have hafter :
      (((new {} (.ofSeed 0)).after before).perform .step).after.machine.memory.byte 0x301 = 7 := by
    decide +kernel
  obtain ⟨-, hresumed, hbuzzer⟩ := step_footprint {} (.ofSeed 0) before hr
  have hfoot := hresumed 1 7 hk hs
  rw [hw] at hfoot
  -- from here on it does not matter how the machine came about
  generalize (new {} (.ofSeed 0)).after before = h at *
  refine ⟨⟨hr, hk, hs⟩, hbefore, hafter, ?_, hfoot.held, hbuzzer⟩
  intro a ha
  obtain ⟨k, hak, hwrites⟩ := hfoot.memory a ha
  have hstart : (h.machine.resume 1 7).index.toNat = 0x300 := congrArg UInt16.toNat hindex
  cases hwrites with
  | decimal h _ => exact absurd (h.third 3 rfl) (by decide)
  | store _ hle =>
    have hx : (Opcode.x 0xF155).toNat = 1 := rfl
    omega

end Headless

end ChipEight
