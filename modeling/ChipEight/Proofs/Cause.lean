/-
# Why steps fail

The causes for which a machine that neither is halted nor waits fails to take a step, told by the
word at its program counter, its index register and its call stack. Each cause has a fault of its
own, no two causes are present at the same time, and a step fails exactly if one of them is
(`Machine.step_error_iff`).
-/
import ChipEight.Proofs.Invariant
import ChipEight.Proofs.Table

namespace ChipEight

/-! ## Words that can be refused -/

/-- A word whose instruction reaches a number of bytes at the index register: the rows of a sprite,
three decimal digits, or the registers up to a selected one. -/
inductive Opcode.Reaches (w : UInt16) : Nat → Prop
  /-- Form `Dxyn`. -/
  | sprite (h : Row.Matches { first := 0xD } w) : Reaches w (n w).toNat
  /-- Form `Fx33`. -/
  | decimal (h : Row.Matches { first := 0xF, third := some 0x3, last := some 0x3 } w) : Reaches w 3
  /-- Form `Fx55`. -/
  | store (h : Row.Matches { first := 0xF, third := some 0x5, last := some 0x5 } w) :
      Reaches w ((x w).toNat + 1)
  /-- Form `Fx65`. -/
  | load (h : Row.Matches { first := 0xF, third := some 0x6, last := some 0x5 } w) :
      Reaches w ((x w).toNat + 1)

namespace Instruction

open Opcode

variable {w : UInt16} {i : Instruction}

/-- The word `00EE` stands for a return. -/
theorem decode?_return : decode? 0x00EE = some ret := rfl

/-- Words `2nnn` stand for calls. -/
theorem decode?_of_call (h : Row.Matches { first := 0x2 } w) :
    decode? w = some (call (nnn w)) := by
  have hf := h.first
  simp only [decode?, hf]

/-- Words `Dxyn` stand for sprites. -/
theorem decode?_of_sprite (h : Row.Matches { first := 0xD } w) :
    decode? w = some (draw (x w) (y w) (n w)) := by
  have hf := h.first
  simp only [decode?, hf]

/-- Words of the family `F` are told apart by their last two digits. -/
theorem decode?_of_device {third last : Nat} (hlast : last < 16)
    (h : Row.Matches { first := 0xF, third := some third, last := some last } w) :
    w.toNat % 256 = 16 * third + last ∧ decode? w = decodeDevice w := by
  obtain ⟨hf, hnn⟩ := (Row.matches_lastTwo hlast).1 h
  exact ⟨hnn, by simp only [decode?, hf]⟩

/-- A word reaches as many bytes as the instruction that it stands for. -/
theorem exists_span?_of_reaches {len : Nat} (h : Reaches w len) :
    ∃ i, decode? w = some i ∧ i.span? = some len := by
  have hselect : Registers.select (x w) = (x w).toNat := Nat.mod_eq_of_lt (x_lt w)
  cases h with
  | sprite h => exact ⟨_, decode?_of_sprite h, rfl⟩
  | decimal h =>
    obtain ⟨hnn, hd⟩ := decode?_of_device (by decide) h
    refine ⟨storeDecimal (x w), ?_, rfl⟩
    simp only [hd, decodeDevice, hnn]
  | store h =>
    obtain ⟨hnn, hd⟩ := decode?_of_device (by decide) h
    refine ⟨storeRegisters (x w), ?_, ?_⟩
    · simp only [hd, decodeDevice, hnn]
    · rw [span?, hselect]
  | load h =>
    obtain ⟨hnn, hd⟩ := decode?_of_device (by decide) h
    refine ⟨loadRegisters (x w), ?_, ?_⟩
    · simp only [hd, decodeDevice, hnn]
    · rw [span?, hselect]

/-- An instruction reaches as many bytes as the words that stand for it. -/
theorem reaches_of_span? {len : Nat} (h : decode? w = some i) (hi : i.span? = some len) :
    Reaches w len := by
  have hreaches : ∀ {len'}, Reaches w len' → len' = len := by
    intro len' h'
    obtain ⟨i', hd, hspan⟩ := exists_span?_of_reaches h'
    rw [h] at hd
    cases hd
    exact Option.some.inj (hspan.symm.trans hi)
  have hrow := matches_of_decode? h
  cases i with
  | draw => exact hreaches (.sprite hrow) ▸ .sprite hrow
  | storeDecimal => exact hreaches (.decimal hrow) ▸ .decimal hrow
  | storeRegisters => exact hreaches (.store hrow) ▸ .store hrow
  | loadRegisters => exact hreaches (.load hrow) ▸ .load hrow
  | _ => cases hi

end Instruction

/-! ## Causes -/

/-- Why a machine fails to take a step. -/
inductive Cause where
  /-- The word at the program counter runs past the end of memory. -/
  | outside
  /-- The word at the program counter is no instruction. -/
  | unknown
  /-- A return finds the call stack empty. -/
  | underflow
  /-- A call finds the call stack full. -/
  | overflow
  /-- An access at the index register runs past the end of memory. -/
  | access
  deriving DecidableEq, Repr

namespace Cause

open Opcode

/-- A machine has a cause to fail. -/
def Present (m : Machine) : Cause → Prop
  | outside => memorySize < m.pc + 2
  | unknown => m.pc + 2 ≤ memorySize ∧ ∀ i : Instruction, ¬ i.row.Matches (m.memory.word m.pc)
  | underflow => m.pc + 2 ≤ memorySize ∧ m.memory.word m.pc = 0x00EE ∧ m.stack = []
  | overflow =>
    m.pc + 2 ≤ memorySize ∧ Row.Matches { first := 0x2 } (m.memory.word m.pc) ∧
      m.stack.length = m.config.stackSize
  | access =>
    m.pc + 2 ≤ memorySize ∧
      ∃ len, Reaches (m.memory.word m.pc) len ∧ memorySize < m.index.toNat + len

/-- The fault that a cause leads to. -/
def fault (m : Machine) : Cause → Failure
  | outside => .memoryOutOfBounds (max m.pc memorySize)
  | unknown => .unknownOpcode m.pc (m.memory.word m.pc)
  | underflow => .stackUnderflow m.pc
  | overflow => .stackOverflow m.pc
  | access => .memoryOutOfBounds (max m.index.toNat memorySize)

variable {m : Machine} {cause : Cause}

/-- Behind the fetch of an instruction, a cause is that the instruction is refused. -/
theorem Present.refuses {i : Instruction} (h : cause.Present m) (hi : m.AboutTo i) :
    m.advanced.Refuses m.pc i (cause.fault m) := by
  obtain ⟨hpc, hd⟩ := hi
  cases cause with
  | outside => exact absurd h (Nat.not_lt_of_le hpc)
  | unknown => exact absurd (Instruction.matches_of_decode? hd) (h.2 i)
  | underflow =>
    obtain ⟨-, hw, hs⟩ := h
    rw [hw, Instruction.decode?_return] at hd
    cases hd
    exact .underflow hs
  | overflow =>
    obtain ⟨-, hw, hs⟩ := h
    rw [Instruction.decode?_of_call hw] at hd
    cases hd
    exact .overflow _ (Nat.le_of_eq hs.symm)
  | access =>
    obtain ⟨-, len, hw, hlen⟩ := h
    obtain ⟨i', hd', hspan⟩ := Instruction.exists_span?_of_reaches hw
    rw [hd'] at hd
    cases hd
    exact .outside hspan hlen

/-- A machine that has a cause to fail does so, with the fault of that cause. -/
theorem Present.fetchExecute (h : cause.Present m) :
    m.fetchExecute.result = .error (cause.fault m) := by
  have hrefused : ∀ {i}, m.AboutTo i → m.fetchExecute.result = .error (cause.fault m) := by
    intro i hi
    rw [Machine.fetchExecute_of_error hi (Machine.effect_of_refuses (h.refuses hi))]
    rfl
  cases m.fetched with
  | outside hpc hr =>
    rw [hr]
    cases cause with
    | outside => rfl
    | _ => exact absurd h.1 (Nat.not_le_of_lt hpc)
  | unknown hpc hd hr =>
    rw [hr]
    -- the words of the other causes are instructions
    cases cause with
    | outside => exact absurd h (Nat.not_lt_of_le hpc)
    | unknown => rfl
    | underflow =>
      rw [h.2.1, Instruction.decode?_return] at hd
      cases hd
    | overflow =>
      rw [Instruction.decode?_of_call h.2.1] at hd
      cases hd
    | access =>
      obtain ⟨-, len, hw, -⟩ := h
      obtain ⟨i, hd', -⟩ := Instruction.exists_span?_of_reaches hw
      rw [hd'] at hd
      cases hd
  | refused i failure hi hf hr => exact hrefused hi
  | executed i e hi he hr => exact hrefused hi

/-- A machine within its bounds that fails has a cause to. -/
theorem exists_present {config : Config} (hm : m.Sound config) {failure : Failure}
    (h : m.fetchExecute.result = .error failure) :
    ∃ cause : Cause, cause.Present m ∧ failure = cause.fault m := by
  cases m.fetched with
  | outside hpc hr =>
    rw [hr] at h
    cases h
    exact ⟨outside, hpc, rfl⟩
  | unknown hpc hd hr =>
    rw [hr] at h
    cases h
    exact ⟨unknown, ⟨hpc, Instruction.decode?_eq_none_iff.1 hd⟩, rfl⟩
  | refused i failure' hi hf hr =>
    rw [hr] at h
    cases h
    have hrow := Instruction.matches_of_decode? hi.2
    cases hf with
    | underflow hs =>
      have hw := (Row.matches_all (by decide) (by decide) (by decide)).1 hrow
      exact ⟨underflow, ⟨hi.1, UInt16.toNat_inj.1 hw, hs⟩, rfl⟩
    | overflow target hs =>
      -- the stack is never deeper than full
      have hle : m.stack.length ≤ m.config.stackSize := by
        rw [hm.config_eq]
        exact hm.stack_length
      exact ⟨overflow, ⟨hi.1, hrow, Nat.le_antisymm hle hs⟩, rfl⟩
    | outside hspan hlen =>
      exact ⟨access, ⟨hi.1, _, Instruction.reaches_of_span? hi.2 hspan, hlen⟩, rfl⟩
  | executed i e hi he hr =>
    rw [hr] at h
    cases h

/-- No two causes are present at the same time. -/
theorem Present.unique {cause' : Cause} (h : cause.Present m) (h' : cause'.Present m) :
    cause = cause' := by
  -- both are the fault of the one step, and only two causes lead to faults of one kind
  have hfault : cause.fault m = cause'.fault m :=
    Except.error.inj (h.fetchExecute.symm.trans h'.fetchExecute)
  cases cause <;> cases cause' <;> try rfl
  case outside.access => exact absurd h (Nat.not_lt_of_le h'.1)
  case access.outside => exact absurd h' (Nat.not_lt_of_le h.1)
  all_goals cases hfault

end Cause

/-! ## Steps that fail -/

namespace Machine

/-- After any run, a machine that neither is halted nor waits fails to take a step exactly if a
cause is present, and with the fault of that cause; no two causes are present at the same time; and
without a cause the step succeeds. -/
theorem step_error_iff (config : Config) (generator : Random.Generator) (actions : List Action)
    (hf : ((new config generator).after actions).fault = none)
    (hk : ((new config generator).after actions).keyWait = none) :
    let m := (new config generator).after actions
    (∀ failure, m.step.result = .error failure ↔
      ∃ cause : Cause, cause.Present m ∧ failure = cause.fault m) ∧
    (∀ cause cause' : Cause, cause.Present m → cause'.Present m → cause = cause') ∧
    ((∀ cause : Cause, ¬ cause.Present m) → ∃ flow, m.step.result = .ok flow) := by
  intro m
  have hsound : m.Sound config := sound_after config generator actions
  have hiff : ∀ failure, m.step.result = .error failure ↔
      ∃ cause : Cause, cause.Present m ∧ failure = cause.fault m := by
    intro failure
    rw [step_of_running hf hk]
    constructor
    · exact Cause.exists_present hsound
    · rintro ⟨cause, h, rfl⟩
      exact h.fetchExecute
  refine ⟨hiff, fun _ _ h h' => h.unique h', ?_⟩
  intro hnone
  cases hr : m.step.result with
  | ok flow => exact ⟨flow, rfl⟩
  | error failure =>
    obtain ⟨cause, h, -⟩ := (hiff failure).1 hr
    exact absurd h (hnone cause)

/-- A sprite without rows touches no memory, but it fails if the index register lies past the end.
The fault names that address, and not the first one outside. -/
theorem step_error_empty_sprite :
    let m := (new {} (.ofSeed 0)).after
      [.load [0xAF, 0xFF, 0x60, 0x02, 0xF0, 0x1E, 0xD0, 0x00], .runSteps 3]
    (m.fault = none ∧ m.keyWait = none) ∧ Cause.access.Present m ∧
      m.step.result = .error (.memoryOutOfBounds 4097) ∧
      ∀ cause : Cause, cause.Present m → cause = .access := by
  intro m
  have hf : m.fault = none := by decide +kernel
  have hk : m.keyWait = none := by decide +kernel
  have hpc : m.pc + 2 ≤ memorySize := by decide +kernel
  have hw : m.memory.word m.pc = 0xD000 := by decide +kernel
  have hindex : m.index = 4097 := by decide +kernel
  have hpresent : Cause.access.Present m := by
    refine ⟨hpc, 0, ?_, ?_⟩
    · rw [hw]
      exact .sprite (Opcode.Row.matches_first.2 rfl)
    · rw [hindex]
      decide
  obtain ⟨hiff, hunique, -⟩ := step_error_iff {} (.ofSeed 0) _ hf hk
  refine ⟨⟨hf, hk⟩, hpresent, ?_, fun cause h => hunique cause .access h hpresent⟩
  rw [hiff]
  refine ⟨.access, hpresent, ?_⟩
  show Failure.memoryOutOfBounds 4097 = .memoryOutOfBounds (max m.index.toNat memorySize)
  rw [hindex]
  rfl

end Machine

end ChipEight
