/-
# Arithmetic

What the instructions `7xnn` and `8xyN` compute from the values that two registers have beforehand,
as a table in terms of natural numbers (`Opcode.Computes`), and that a step does just that
(`Machine.step_computes`). The registers may be the same, and either may be the flag register: the
operands are read first, then the flag is written, and the result last.
-/
import ChipEight.Proofs.Table
import ChipEight.Proofs.Running
import Mathlib.Data.Int.Notation

namespace ChipEight

/-! ## The table -/

/-- What the instruction of a word computes from the values `a` and `b` of the registers that its
second and third digit select: the value that goes to the first of them, and the flag, unless the
instruction has none. -/
inductive Opcode.Computes (w : UInt16) (a b : Nat) : Nat → Option Nat → Prop
  /-- Form `7xnn` adds a byte. -/
  | addByte (h : Row.Matches { first := 0x7 } w) : Computes w a b ((a + (nn w).toNat) % 256) none
  /-- Form `8xy0` copies. -/
  | copy (h : Row.Matches { first := 0x8, last := some 0x0 } w) : Computes w a b b none
  /-- Form `8xy1` is the bitwise or. -/
  | or (h : Row.Matches { first := 0x8, last := some 0x1 } w) : Computes w a b (a ||| b) none
  /-- Form `8xy2` is the bitwise and. -/
  | and (h : Row.Matches { first := 0x8, last := some 0x2 } w) : Computes w a b (a &&& b) none
  /-- Form `8xy3` is the bitwise exclusive or. -/
  | xor (h : Row.Matches { first := 0x8, last := some 0x3 } w) : Computes w a b (a ^^^ b) none
  /-- Form `8xy4` adds, and the flag is the carry. -/
  | add (h : Row.Matches { first := 0x8, last := some 0x4 } w) :
      Computes w a b ((a + b) % 256) (some (if 255 < a + b then 1 else 0))
  /-- Form `8xy5` subtracts, and the flag is cleared by a borrow. -/
  | sub (h : Row.Matches { first := 0x8, last := some 0x5 } w) :
      Computes w a b (((a : ℤ) - b) % 256).toNat (some (if b ≤ a then 1 else 0))
  /-- Form `8xy6` halves, and the flag is the remainder. -/
  | shiftRight (h : Row.Matches { first := 0x8, last := some 0x6 } w) :
      Computes w a b (a / 2) (some (a % 2))
  /-- Form `8xy7` subtracts the other way round. -/
  | subFrom (h : Row.Matches { first := 0x8, last := some 0x7 } w) :
      Computes w a b (((b : ℤ) - a) % 256).toNat (some (if a ≤ b then 1 else 0))
  /-- Form `8xyE` doubles, and the flag is the carry. -/
  | shiftLeft (h : Row.Matches { first := 0x8, last := some 0xE } w) :
      Computes w a b (2 * a % 256) (some (a / 128))

/-! ## Bytes as numbers -/

namespace Machine

/-- Bytes are subtracted modulo 256. -/
theorem toNat_sub (a b : UInt8) : (a - b).toNat = (((a.toNat : ℤ) - b.toNat) % 256).toNat := by
  have ha := a.toNat_lt
  have hb := b.toNat_lt
  rw [UInt8.toNat_sub]
  omega

/-- A byte that is shifted right is halved. -/
theorem toNat_shiftRight_one (a : UInt8) : (a >>> 1).toNat = a.toNat / 2 := by
  rw [UInt8.toNat_shiftRight]
  exact Nat.shiftRight_eq_div_pow a.toNat 1

/-- A byte that is shifted left is doubled modulo 256. -/
theorem toNat_shiftLeft_one (a : UInt8) : (a <<< 1).toNat = 2 * a.toNat % 256 := by
  rw [UInt8.toNat_shiftLeft, Nat.mul_comm]
  exact congrArg (· % 256) (Nat.shiftLeft_eq a.toNat 1)

/-- The value of the flag register for a condition. -/
theorem toNat_flag {p : Prop} [Decidable p] :
    (if decide p then 1 else 0 : UInt8).toNat = if p then 1 else 0 := by
  by_cases hp : p
  · rw [if_pos hp, decide_eq_true hp]
    rfl
  · rw [if_neg hp, decide_eq_false hp]
    rfl

/-- The last bit of a byte is its remainder modulo 2. -/
theorem toNat_lastBit (a : UInt8) :
    (if a.toNat.testBit 0 then 1 else 0 : UInt8).toNat = a.toNat % 2 := by
  rw [Nat.testBit_zero, toNat_flag]
  split <;> omega

/-- The first bit of a byte tells whether it is 128 or more. -/
theorem toNat_firstBit (a : UInt8) :
    (if a.toNat.testBit 7 then 1 else 0 : UInt8).toNat = a.toNat / 128 := by
  have ha := a.toNat_lt
  rw [Nat.testBit_eq_decide_div_mod_eq, toNat_flag]
  split <;> omega

/-! ## What a calculation leaves behind -/

/-- A machine calculated a result into a register and nothing else changed, but for the program
counter and, if the calculation has one, the flag. -/
structure Calculated (m m' : Machine) (r : UInt8) (result : Nat) (flag? : Option Nat) : Prop where
  /-- Nothing but registers changed. -/
  eq : m' = { m.advanced with registers := m'.registers }
  /-- The register holds the result, even if it is the flag. -/
  result : (m'.reg r).toNat = result
  /-- The flag register holds the flag, if it does not hold the result. -/
  flag : ∀ flag ∈ flag?, r ≠ Registers.flag → (m'.reg Registers.flag).toNat = flag
  /-- All other registers are as they were, and so is the flag register if there is no flag. -/
  others : ∀ s, Registers.select s ≠ Registers.select r →
    flag? = none ∨ Registers.select s ≠ Registers.select Registers.flag → m'.reg s = m.reg s

variable {m : Machine} {i : Instruction} {r b : UInt8} {result flag : Nat}

/-- A result that is set without a flag. -/
theorem calculated_assign (hb : b.toNat = result) :
    m.Calculated (m.advanced.assign r b).machine r result none where
  eq := rfl
  result := by
    rw [← hb]
    exact congrArg UInt8.toNat (Registers.get_set_self _ _ _)
  flag := nofun
  others s hs _ := Registers.get_set_of_ne _ _ _ _ hs.symm

/-- A result that is set behind a flag. -/
theorem calculated_assignWithFlag {set : Bool} (hr : r.toNat < 16) (hb : b.toNat = result)
    (hflag : (if set then 1 else 0 : UInt8).toNat = flag) :
    m.Calculated (m.advanced.assignWithFlag r b set).machine r result (some flag) where
  eq := rfl
  result := by
    rw [← hb]
    exact congrArg UInt8.toNat (Registers.get_set_self _ _ _)
  flag := by
    rintro _ ⟨⟩ hne
    have hselect := Registers.select_ne hr (by decide) hne
    rw [← hflag]
    exact congrArg UInt8.toNat
      ((Registers.get_set_of_ne _ _ _ _ hselect).trans (Registers.get_set_self _ _ _))
  others := by
    rintro s hs (hnone | hflag)
    · cases hnone
    · exact (Registers.get_set_of_ne _ _ _ _ hs.symm).trans
        (Registers.get_set_of_ne _ _ _ _ hflag.symm)

/-- A step that sets a register to a result. -/
theorem ComesTo.calculated (h : m.ComesTo i)
    (he : m.advanced.effect m.pc i = .ok (m.advanced.assign r b)) (hb : b.toNat = result) :
    m.step.result = .ok .ok ∧ m.Calculated m.step.machine r result none := by
  rw [h.step_eq he]
  exact ⟨rfl, calculated_assign hb⟩

/-- A step that sets the flag and then a register to a result. -/
theorem ComesTo.calculated_flag {set : Bool} (h : m.ComesTo i)
    (he : m.advanced.effect m.pc i = .ok (m.advanced.assignWithFlag r b set))
    (hr : r.toNat < 16) (hb : b.toNat = result)
    (hflag : (if set then 1 else 0 : UInt8).toNat = flag) :
    m.step.result = .ok .ok ∧ m.Calculated m.step.machine r result (some flag) := by
  rw [h.step_eq he]
  exact ⟨rfl, calculated_assignWithFlag hr hb hflag⟩

/-- A machine that neither is halted nor waits and comes to arithmetic calculates what the table
says, from the values that the registers have before, whichever registers these are. -/
theorem step_computes {flag? : Option Nat} (hf : m.fault = none) (hk : m.keyWait = none)
    (hpc : m.pc + 2 ≤ memorySize)
    (h : Opcode.Computes (m.memory.word m.pc) (m.reg (Opcode.x (m.memory.word m.pc))).toNat
      (m.reg (Opcode.y (m.memory.word m.pc))).toNat result flag?) :
    m.step.result = .ok .ok ∧
      m.Calculated m.step.machine (Opcode.x (m.memory.word m.pc)) result flag? := by
  have hcomes : ∀ i : Instruction, i.row.Matches (m.memory.word m.pc) →
      i.OperandsOf (m.memory.word m.pc) → i.row ≠ { first := 0x0 } → m.ComesTo i :=
    fun i hrow hops hi => ⟨hf, hk, hpc, Instruction.decode?_of_matches hrow hops hi⟩
  have hx := Opcode.x_lt (m.memory.word m.pc)
  cases h with
  | addByte h =>
    exact (hcomes (.addByte _ _) h ⟨rfl, rfl⟩ nofun).calculated rfl (UInt8.toNat_add _ _)
  | copy h => exact (hcomes (.copy _ _) h ⟨rfl, rfl⟩ nofun).calculated rfl rfl
  | or h => exact (hcomes (.or _ _) h ⟨rfl, rfl⟩ nofun).calculated rfl (UInt8.toNat_or _ _)
  | and h => exact (hcomes (.and _ _) h ⟨rfl, rfl⟩ nofun).calculated rfl (UInt8.toNat_and _ _)
  | xor h => exact (hcomes (.xor _ _) h ⟨rfl, rfl⟩ nofun).calculated rfl (UInt8.toNat_xor _ _)
  | add h =>
    exact (hcomes (.add _ _) h ⟨rfl, rfl⟩ nofun).calculated_flag rfl hx (UInt8.toNat_add _ _)
      toNat_flag
  | sub h =>
    exact (hcomes (.sub _ _) h ⟨rfl, rfl⟩ nofun).calculated_flag rfl hx (toNat_sub _ _) toNat_flag
  | shiftRight h =>
    exact (hcomes (.shiftRight _) h rfl nofun).calculated_flag rfl hx (toNat_shiftRight_one _)
      (toNat_lastBit _)
  | subFrom h =>
    exact (hcomes (.subFrom _ _) h ⟨rfl, rfl⟩ nofun).calculated_flag rfl hx (toNat_sub _ _)
      toNat_flag
  | shiftLeft h =>
    exact (hcomes (.shiftLeft _) h rfl nofun).calculated_flag rfl hx (toNat_shiftLeft_one _)
      (toNat_firstBit _)

/-- The flag register is the second operand of an addition and then the first one of a subtraction.
The addition adds 200 to 100, and not the carry that it sets; the subtraction takes 44 from that
carry, and the borrow is overwritten by the result. -/
theorem step_computes_aliased :
    let m := (new {} (.ofSeed 0)).after
      [.load [0x60, 0x64, 0x6F, 0xC8, 0x80, 0xF4, 0x8F, 0x05], .runSteps 2]
    let m' := m.step.machine
    (m.reg 0 = 100 ∧ m.reg 15 = 200) ∧
    ((m'.reg 0).toNat = 44 ∧ (m'.reg 15).toNat = 1) ∧
    (m'.step.machine.reg 15).toNat = 213 ∧ m'.step.machine.reg 0 = m'.reg 0 := by
  intro m m'
  -- one evaluation of each machine gives all that is needed of it
  obtain ⟨hf, hk, hpc, hadd, h₀, h₁⟩ : m.fault = none ∧ m.keyWait = none ∧
      m.pc + 2 ≤ memorySize ∧ m.memory.word m.pc = 0x80F4 ∧ m.reg 0 = 100 ∧ m.reg 15 = 200 := by
    decide +kernel
  obtain ⟨hf', hk', hpc', hsub⟩ : m'.fault = none ∧ m'.keyWait = none ∧
      m'.pc + 2 ≤ memorySize ∧ m'.memory.word m'.pc = 0x8F05 := by
    decide +kernel
  have hrow : Opcode.Row.Matches { first := 0x8, last := some 0x4 } (m.memory.word m.pc) := by
    rw [hadd]
    exact Opcode.Row.matches_last.2 ⟨rfl, rfl⟩
  have hrow' : Opcode.Row.Matches { first := 0x8, last := some 0x5 } (m'.memory.word m'.pc) := by
    rw [hsub]
    exact Opcode.Row.matches_last.2 ⟨rfl, rfl⟩
  have hfirst := (step_computes hf hk hpc (.add hrow)).2
  have hsecond := (step_computes hf' hk' hpc' (.sub hrow')).2
  rw [hadd, show Opcode.x 0x80F4 = 0 from rfl, show Opcode.y 0x80F4 = 15 from rfl, h₀, h₁]
    at hfirst
  have hresult : (m'.reg 0).toNat = 44 := hfirst.result
  have hcarry : (m'.reg 15).toNat = 1 := hfirst.flag 1 rfl (by decide)
  rw [hsub, show Opcode.x 0x8F05 = 15 from rfl, show Opcode.y 0x8F05 = 0 from rfl, hresult,
    hcarry] at hsecond
  exact ⟨⟨h₀, h₁⟩, ⟨hresult, hcarry⟩, hsecond.result,
    hsecond.others 0 (by decide) (Or.inr (by decide))⟩

end Machine

end ChipEight
