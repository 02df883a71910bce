/-
# Bounds that machines respect

A jump, a skip or a return can leave memory, but not far: the program counter of a machine never
exceeds 4350, which is the last address and the largest offset. `Machine.Sound` lists this bound
together with those on the call stack, the key wait and the fault. Every machine respects them after
it was switched on, and every action of a host preserves them (`Machine.sound_after`).
-/
import ChipEight.Proofs.Operands
import ChipEight.Proofs.Running

namespace ChipEight

/-- The bounds that a machine with some parameters respects. -/
structure Machine.Sound (m : Machine) (config : Config) : Prop where
  /-- The parameters never change. -/
  config_eq : m.config = config
  /-- The program counter can leave memory by a jump with an offset, but no further. -/
  pc_le : m.pc ≤ 4350
  /-- A return address lies behind a call in memory. -/
  stack_mem : ∀ address ∈ m.stack, 2 ≤ address ∧ address ≤ memorySize
  /-- The call stack is not deeper than the parameters allow. -/
  stack_length : m.stack.length ≤ config.stackSize
  /-- The register that waits for a key exists. -/
  keyWait_lt : ∀ register, m.keyWait = some register → register.toNat < 16
  /-- A machine that is halted does not wait for a key. -/
  halted_not_paused : m.fault = none ∨ m.keyWait = none
  /-- What halted the machine is a fault. -/
  isFault : ∀ failure, m.fault = some failure → failure.isFault

namespace Machine

variable {m : Machine} {config : Config}

/-! ## Machines that were switched on -/

/-- A machine that was just switched on respects its bounds. -/
theorem sound_new (config : Config) (generator : Random.Generator) :
    (new config generator).Sound config where
  config_eq := rfl
  pc_le := by
    show programStart ≤ 4350
    decide
  stack_mem := nofun
  stack_length := Nat.zero_le _
  keyWait_lt := nofun
  halted_not_paused := Or.inl rfl
  isFault := nofun

/-- The bounds concern no other parts of a machine than those that steer it. -/
theorem Sound.of_eq (h : m.Sound config) {m' : Machine} (hconfig : m'.config = m.config)
    (hpc : m'.pc = m.pc) (hstack : m'.stack = m.stack) (hwait : m'.keyWait = m.keyWait)
    (hfault : m'.fault = m.fault) : m'.Sound config := by
  obtain ⟨h₁, h₂, h₃, h₄, h₅, h₆, h₇⟩ := h
  rw [← hconfig] at h₁
  rw [← hpc] at h₂
  rw [← hstack] at h₃ h₄
  rw [← hwait] at h₅ h₆
  rw [← hfault] at h₆ h₇
  exact ⟨h₁, h₂, h₃, h₄, h₅, h₆, h₇⟩

/-! ## Steps -/

/-- Behind an instruction in memory, the bounds of a running machine decide where it goes on. -/
theorem Sound.nextPc_le (h : m.Sound config) (hpc : m.pc + 2 ≤ memorySize) {i : Instruction}
    (hi : i.Fits) : m.advanced.nextPc i ≤ 4350 := by
  have hmem : memorySize = 4096 := rfl
  -- a skip at the end of memory goes on at 4098 and a jump with an offset at 4350 at most
  have hskip : (if m.advanced.skips i then m.advanced.pc + 2 else m.advanced.pc) ≤ 4350 := by
    show (if m.advanced.skips i then m.pc + 2 + 2 else m.pc + 2) ≤ 4350
    split <;> omega
  cases i with
  | ret =>
    show m.stack.headD (m.pc + 2) ≤ 4350
    cases hs : m.stack with
    | nil =>
      show m.pc + 2 ≤ 4350
      omega
    | cons top rest =>
      have htop := h.stack_mem top (by rw [hs]; exact List.mem_cons_self)
      show top ≤ 4350
      omega
  | jump target | call target =>
    have htarget : target.toNat < 4096 := hi
    show target.toNat ≤ 4350
    omega
  | jumpOffset target =>
    have htarget : target.toNat < 4096 := hi
    have hoffset := (m.advanced.reg 0).toNat_lt
    show target.toNat + (m.advanced.reg 0).toNat ≤ 4350
    omega
  | _ => exact hskip

/-- The return addresses after an instruction in memory lie in memory. -/
theorem Sound.nextStack_mem (h : m.Sound config) (hpc : m.pc + 2 ≤ memorySize) (i : Instruction) :
    ∀ address ∈ m.advanced.nextStack i, 2 ≤ address ∧ address ≤ memorySize := by
  cases i with
  | ret =>
    intro address ha
    exact h.stack_mem address (List.mem_of_mem_tail ha)
  | call target =>
    intro address ha
    rcases List.mem_cons.1 ha with rfl | ha
    · exact ⟨Nat.le_add_left 2 m.pc, hpc⟩
    · exact h.stack_mem address ha
  | _ => exact h.stack_mem

/-- The call stack stays within its depth, since a call that finds it full is refused. -/
theorem Sound.length_nextStack (h : m.Sound config) {i : Instruction}
    (hr : ∀ failure, ¬ m.advanced.Refuses m.pc i failure) :
    (m.advanced.nextStack i).length ≤ config.stackSize := by
  cases i with
  | ret =>
    have hlength := h.stack_length
    show m.stack.tail.length ≤ config.stackSize
    rw [List.length_tail]
    omega
  | call target =>
    have hfull : ¬ m.config.stackSize ≤ m.stack.length := fun hle => hr _ (.overflow target hle)
    rw [h.config_eq] at hfull
    show ((m.pc + 2) :: m.stack).length ≤ config.stackSize
    rw [List.length_cons]
    omega
  | _ => exact h.stack_length

/-- What halts a machine is a fault. -/
theorem isFault_of_refuses {address : Nat} {i : Instruction} {failure : Failure}
    (h : m.Refuses address i failure) : failure.isFault := by
  cases h <;> rfl

/-- A machine that does not wait can be halted by a fault, wherever its program counter may be
within the bounds. -/
theorem Sound.halt (h : m.Sound config) (hwait : m.keyWait = none) {failure : Failure}
    (hfailure : failure.isFault) {pc : Nat} (hpc : pc ≤ 4350) (events : List Event) :
    ({ m with pc }.halt failure events).machine.Sound config where
  config_eq := h.config_eq
  pc_le := hpc
  stack_mem := h.stack_mem
  stack_length := h.stack_length
  keyWait_lt := h.keyWait_lt
  halted_not_paused := Or.inr hwait
  isFault := fun _ hf => Option.some.inj hf ▸ hfailure

/-- Fetching, decoding and executing preserve the bounds. -/
theorem Sound.fetchExecute (h : m.Sound config) (hfault : m.fault = none)
    (hwait : m.keyWait = none) : m.fetchExecute.machine.Sound config := by
  have hmem : memorySize = 4096 := rfl
  cases m.fetched with
  | outside hpc hr =>
    rw [hr]
    exact h.halt hwait rfl h.pc_le []
  | unknown hpc hd hr =>
    rw [hr]
    exact h.halt hwait rfl h.pc_le []
  | refused i failure hi hf hr =>
    have hpc : m.pc + 2 ≤ 4350 := by
      have hfetch := hi.1
      omega
    rw [hr]
    exact h.halt hwait (isFault_of_refuses hf) hpc _
  | executed i e hi he hr =>
    have hs := steered_of_effect he
    -- a call that succeeds was not refused, so the stack had room for it
    have hnever : ∀ failure, ¬ m.advanced.Refuses m.pc i failure := by
      intro failure hf
      rw [effect_of_refuses hf] at he
      cases he
    have hfits := Instruction.fits_of_decode? hi.2
    have hfault' : e.machine.fault = none := hs.fault.trans hfault
    rw [hr]
    constructor
    case config_eq => exact hs.config.trans h.config_eq
    case pc_le =>
      rw [hs.pc]
      exact h.nextPc_le hi.1 hfits
    case stack_mem =>
      rw [hs.stack]
      exact h.nextStack_mem hi.1 i
    case stack_length =>
      rw [hs.stack]
      exact h.length_nextStack hnever
    case keyWait_lt =>
      intro register hregister
      have hwait' : m.advanced.keyWait = none := hwait
      rw [hs.keyWait, hwait', Option.or_none] at hregister
      cases i <;> cases hregister
      exact hfits
    case halted_not_paused => exact Or.inl hfault'
    case isFault =>
      rw [hfault']
      nofun

/-- A machine that goes on with a delivered key respects its bounds. -/
theorem Sound.resume (h : m.Sound config) (register : UInt8) (key : Key) :
    (m.resume register key).Sound config where
  config_eq := h.config_eq
  pc_le := h.pc_le
  stack_mem := h.stack_mem
  stack_length := h.stack_length
  keyWait_lt := nofun
  halted_not_paused := Or.inr rfl
  isFault := h.isFault

/-- A step preserves the bounds. -/
theorem Sound.step (h : m.Sound config) : m.step.machine.Sound config :=
  step_preserves (P := fun m => m.Sound config)
    (fun _ register key h _ _ _ => h.resume register key)
    (fun _ h hfault hwait => h.fetchExecute hfault hwait) h

/-! ## Frames and actions -/

/-- The end of a frame preserves the bounds. -/
theorem Sound.endFrame (h : m.Sound config) : m.endFrame.1.Sound config := by
  unfold Machine.endFrame
  cases m.isPaused
  · exact h.of_eq rfl rfl rfl rfl rfl
  · exact h.of_eq rfl rfl rfl rfl rfl

/-- Loading a program preserves the bounds. -/
theorem Sound.load (h : m.Sound config) (program : List UInt8) :
    (m.load program).machine.Sound config := by
  unfold Machine.load
  split
  · exact h
  · exact (sound_new config m.generator).of_eq h.config_eq rfl rfl rfl rfl

/-- Restoring the built-in font preserves the bounds. -/
theorem Sound.withBuiltinFont (h : m.Sound config) : m.withBuiltinFont.Sound config := by
  unfold Machine.withBuiltinFont
  exact h.of_eq rfl rfl rfl rfl rfl

/-- Loading a font changes nothing but memory, and no device is called. -/
theorem loadFont_frame (m : Machine) (font : List UInt8) :
    (∃ memory, (m.loadFont font).machine = { m with memory }) ∧ (m.loadFont font).events = [] := by
  unfold Machine.loadFont
  split
  · exact ⟨⟨m.memory, rfl⟩, rfl⟩
  · rcases Nat.lt_or_ge memorySize (Font.start + font.length) with h | h
    · rw [Operation.writeMemory_of_gt h m]
      exact ⟨⟨m.memory, rfl⟩, rfl⟩
    · rw [Operation.writeMemory_of_le h m]
      exact ⟨⟨_, rfl⟩, rfl⟩

/-- Loading a font preserves the bounds. -/
theorem Sound.loadFont (h : m.Sound config) (font : List UInt8) :
    (m.loadFont font).machine.Sound config := by
  obtain ⟨⟨memory, hm⟩, -⟩ := loadFont_frame m font
  rw [hm]
  exact h.of_eq rfl rfl rfl rfl rfl

/-- Every action preserves the bounds. -/
theorem Sound.perform (h : m.Sound config) (a : Action) : (m.perform a).machine.Sound config := by
  have hstep : ∀ m : Machine, m.Sound config → m.step.machine.Sound config := fun _ h => h.step
  cases a with
  | load program => exact h.load program
  | loadFont font => exact h.loadFont font
  | builtinFont => exact h.withBuiltinFont
  | step => exact h.step
  | runSteps count => exact runSteps_preserves (P := fun m => m.Sound config) hstep h count
  | cycle =>
    show m.cycle.machine.Sound config
    exact cycle_preserves (P := fun m => m.Sound config) hstep (fun _ h => h.endFrame) h
  | _ => exact h.of_eq rfl rfl rfl rfl rfl

/-- Every run preserves the bounds. -/
theorem Sound.after (h : m.Sound config) (actions : List Action) :
    (m.after actions).Sound config :=
  after_preserves (P := fun m => m.Sound config) (Q := fun _ => True)
    (fun _ a h _ => h.perform a) h fun _ _ => trivial

/-- A machine that was switched on respects its bounds after every run. -/
theorem sound_after (config : Config) (generator : Random.Generator) (actions : List Action) :
    ((new config generator).after actions).Sound config :=
  (sound_new config generator).after actions

end Machine

end ChipEight
