/-
# Transfers between registers and memory

Three instructions move bytes between the registers and the memory at the index register: `Fx55`
stores registers, `Fx65` loads them, and `Fx33` stores the decimal digits of one register. What was
stored is loaded back, whatever happened to the registers meanwhile, and what was loaded is stored
back without a change (`Machine.transfers_return`). None of the three moves the index register.
-/
import ChipEight.Proofs.Footprint

namespace ChipEight.Machine

open Registers

variable {m m' : Machine} {x y : UInt8}

/-! ## What transfers do -/

/-- Registers are stored if they find room. -/
theorem execute_storeRegisters (address : Nat) (hx : x.toNat < 16)
    (hfit : m.index.toNat + (x.toNat + 1) ≤ memorySize) :
    Operation.execute address (.storeRegisters x) m =
      { result := .ok .ok
        machine := { m with
          memory := m.memory.overwrite m.index.toNat (m.registers.take (x.toNat + 1)) } } := by
  have hselect : select x = x.toNat := Nat.mod_eq_of_lt hx
  rw [execute_eq, effect, hselect, reaching_of_le hfit]
  rfl

/-- Registers are loaded if the memory reaches that far. -/
theorem execute_loadRegisters (address : Nat) (hx : x.toNat < 16)
    (hfit : m.index.toNat + (x.toNat + 1) ≤ memorySize) :
    Operation.execute address (.loadRegisters x) m =
      { result := .ok .ok
        machine := { m with
          registers := m.registers.fill 0 (m.memory.slice m.index.toNat (x.toNat + 1)) } } := by
  have hselect : select x = x.toNat := Nat.mod_eq_of_lt hx
  rw [execute_eq, effect, hselect, reaching_of_le hfit]
  rfl

/-- Decimal digits are stored if they find room. -/
theorem execute_storeDecimal (address : Nat) (z : UInt8)
    (hfit : m.index.toNat + 3 ≤ memorySize) :
    Operation.execute address (.storeDecimal z) m =
      { result := .ok .ok
        machine := { m with
          memory := m.memory.overwrite m.index.toNat (decimalDigits (m.reg z)) } } := by
  rw [execute_eq, effect, reaching_of_le hfit]
  rfl

/-- A byte is made up of its three decimal digits. -/
theorem decimal_digits (b : UInt8) :
    (b / 100).toNat ≤ 9 ∧ (b / 10 % 10).toNat ≤ 9 ∧ (b % 10).toNat ≤ 9 ∧
      100 * (b / 100).toNat + 10 * (b / 10 % 10).toNat + (b % 10).toNat = b.toNat := by
  have hb := b.toNat_lt
  rw [UInt8.toNat_mod, UInt8.toNat_mod, UInt8.toNat_div, UInt8.toNat_div]
  show b.toNat / 100 ≤ 9 ∧ b.toNat / 10 % 10 ≤ 9 ∧ b.toNat % 10 ≤ 9 ∧
    100 * (b.toNat / 100) + 10 * (b.toNat / 10 % 10) + b.toNat % 10 = b.toNat
  omega

/-- The first three registers make up a byte, once they were filled with its decimal digits. -/
theorem digits_of_fill (v : Registers) (b : UInt8) :
    let w := v.fill 0 (decimalDigits b)
    (w.get 0).toNat ≤ 9 ∧ (w.get 1).toNat ≤ 9 ∧ (w.get 2).toNat ≤ 9 ∧
      100 * (w.get 0).toNat + 10 * (w.get 1).toNat + (w.get 2).toNat = b.toNat := by
  intro w
  have hundreds : w.get 0 = b / 100 := by
    rw [get_fill, dif_pos ⟨Nat.zero_le _, (by decide : select 0 < 3)⟩]
    rfl
  have tens : w.get 1 = b / 10 % 10 := by
    rw [get_fill, dif_pos ⟨Nat.zero_le _, (by decide : select 1 < 3)⟩]
    rfl
  have ones : w.get 2 = b % 10 := by
    rw [get_fill, dif_pos ⟨Nat.zero_le _, (by decide : select 2 < 3)⟩]
    rfl
  rw [hundreds, tens, ones]
  exact decimal_digits b

/-! ## There and back -/

/-- Some of the registers that were stored are read back from memory. -/
theorem slice_of_stored (v : Registers) (memory : Memory) {start count stored : Nat}
    (hcount : count ≤ stored) (hstored : stored ≤ 16) (hfit : start + stored ≤ memorySize) :
    (memory.overwrite start (v.take stored)).slice start count = v.take count := by
  have hlen : (v.take stored).length = stored := length_take v hstored
  rw [Memory.slice_overwrite _ _ _ _ (hlen.symm ▸ hcount) (hlen.symm ▸ hfit), Registers.take,
    List.take_take, Nat.min_eq_left hcount]
  rfl

/-- Registers that were stored are loaded back, whatever the registers of the machine that loads
them are. -/
theorem loadRegisters_of_stored (v : Registers) (memory : Memory) {m' : Machine} (address : Nat)
    (hyx : y ≤ x) (hx : x.toNat < 16) (hfit : m'.index.toNat + (x.toNat + 1) ≤ memorySize)
    (hmemory : m'.memory = memory.overwrite m'.index.toNat (v.take (x.toNat + 1))) :
    Operation.execute address (.loadRegisters y) m' =
      { result := .ok .ok
        machine := { m' with registers := m'.registers.fill 0 (v.take (y.toNat + 1)) } } := by
  have hle : y.toNat + 1 ≤ x.toNat + 1 := Nat.succ_le_succ (UInt8.le_iff_toNat_le.1 hyx)
  have hslice : m'.memory.slice m'.index.toNat (y.toNat + 1) = v.take (y.toNat + 1) := by
    rw [hmemory]
    exact slice_of_stored v memory hle hx hfit
  have hfit' : m'.index.toNat + (y.toNat + 1) ≤ memorySize := by omega
  rw [execute_loadRegisters address (Nat.lt_of_lt_of_le hle hx) hfit', hslice]

/-- Registers that were loaded are stored back. -/
theorem storeRegisters_of_loaded (v : Registers) {m' : Machine} (address : Nat)
    (hx : x.toNat < 16) (hfit : m'.index.toNat + (x.toNat + 1) ≤ memorySize)
    (hregisters : m'.registers = v.fill 0 (m'.memory.slice m'.index.toNat (x.toNat + 1))) :
    Operation.execute address (.storeRegisters x) m' = { result := .ok .ok, machine := m' } := by
  have htake : m'.registers.take (x.toNat + 1) =
      m'.memory.slice m'.index.toNat (x.toNat + 1) := by
    rw [hregisters]
    exact take_fill v (Memory.length_slice _ _ _) hx
  rw [execute_storeRegisters address hx hfit, htake, Memory.overwrite_slice]

/-- Decimal digits that were stored are loaded into the first three registers. -/
theorem loadRegisters_of_storedDecimal (b : UInt8) (memory : Memory) {m' : Machine} (address : Nat)
    (hfit : m'.index.toNat + 3 ≤ memorySize)
    (hmemory : m'.memory = memory.overwrite m'.index.toNat (decimalDigits b)) :
    Operation.execute address (.loadRegisters 2) m' =
      { result := .ok .ok
        machine := { m' with registers := m'.registers.fill 0 (decimalDigits b) } } := by
  have hslice : m'.memory.slice m'.index.toNat ((2 : UInt8).toNat + 1) = decimalDigits b := by
    rw [hmemory]
    exact Memory.slice_overwrite _ _ 3 (decimalDigits b) (Nat.le_refl 3) hfit
  rw [execute_loadRegisters address (by decide) hfit, hslice]

/-- Registers that were stored are loaded back, by a machine with the same index register and the
memory that was left, whatever its own registers are. Registers that were loaded are stored back
without a change of memory. And the decimal digits that were stored are loaded into three registers.
No transfer moves the index register, and loading leaves the memory alone. -/
theorem transfers_return (m : Machine) (address address' : Nat) :
    (∀ x y : UInt8, x.toNat < 16 → y ≤ x → m.index.toNat + x.toNat + 1 ≤ memorySize →
      ∃ stored : Machine, Operation.execute address (.storeRegisters x) m =
          { result := .ok .ok, machine := stored } ∧
        stored.index = m.index ∧
        (∀ a, stored.memory.byte a ≠ m.memory.byte a →
          m.index.toNat ≤ a ∧ a ≤ m.index.toNat + x.toNat) ∧
        ∀ m' : Machine, m'.index = m.index → m'.memory = stored.memory →
          ∃ loaded : Machine, Operation.execute address' (.loadRegisters y) m' =
              { result := .ok .ok, machine := loaded } ∧
            (∀ r, select r ≤ y.toNat → loaded.reg r = m.reg r) ∧
            (∀ r, y.toNat < select r → loaded.reg r = m'.reg r) ∧
            loaded.memory = m'.memory ∧ loaded.index = m.index) ∧
    (∀ x : UInt8, x.toNat < 16 → m.index.toNat + x.toNat + 1 ≤ memorySize →
      ∃ loaded : Machine, Operation.execute address (.loadRegisters x) m =
          { result := .ok .ok, machine := loaded } ∧
        loaded.index = m.index ∧ loaded.memory = m.memory ∧
        ∀ m' : Machine, m'.index = m.index → m'.memory = loaded.memory →
          m'.registers = loaded.registers →
          ∃ stored : Machine, Operation.execute address' (.storeRegisters x) m' =
              { result := .ok .ok, machine := stored } ∧
            stored.memory = m.memory ∧ stored.index = m.index) ∧
    (∀ z : UInt8, m.index.toNat + 3 ≤ memorySize →
      ∃ stored : Machine, Operation.execute address (.storeDecimal z) m =
          { result := .ok .ok, machine := stored } ∧
        stored.index = m.index ∧
        ∀ m' : Machine, m'.index = m.index → m'.memory = stored.memory →
          ∃ loaded : Machine, Operation.execute address' (.loadRegisters 2) m' =
              { result := .ok .ok, machine := loaded } ∧
            (loaded.reg 0).toNat ≤ 9 ∧ (loaded.reg 1).toNat ≤ 9 ∧ (loaded.reg 2).toNat ≤ 9 ∧
            100 * (loaded.reg 0).toNat + 10 * (loaded.reg 1).toNat + (loaded.reg 2).toNat =
              (m.reg z).toNat ∧
            loaded.index = m.index) := by
  refine ⟨?_, ?_, ?_⟩
  · intro x y hx hyx hfit
    have hy : y.toNat < 16 := Nat.lt_of_le_of_lt (UInt8.le_iff_toNat_le.1 hyx) hx
    refine ⟨_, execute_storeRegisters address hx hfit, rfl, ?_, ?_⟩
    · intro a ha
      obtain ⟨k, rfl, hk⟩ := Memory.exists_of_byte_overwrite_ne ha
      rw [length_take _ hx] at hk
      omega
    · intro m' hindex hmemory
      refine ⟨_, loadRegisters_of_stored m.registers m.memory address' hyx hx
        (hindex ▸ hfit) (hindex ▸ hmemory), ?_, ?_, rfl, hindex⟩
      · intro r hr
        exact (get_fill_take _ _ hy r).trans (if_pos (Nat.lt_succ_of_le hr))
      · intro r hr
        exact (get_fill_take _ _ hy r).trans (if_neg (Nat.not_lt_of_le hr))
  · intro x hx hfit
    refine ⟨_, execute_loadRegisters address hx hfit, rfl, rfl, ?_⟩
    intro m' hindex hmemory hregisters
    have hmemory' : m'.memory = m.memory := hmemory
    have hloaded : m'.registers =
        m.registers.fill 0 (m'.memory.slice m'.index.toNat (x.toNat + 1)) := by
      rw [hmemory', hindex]
      exact hregisters
    exact ⟨_, storeRegisters_of_loaded m.registers address' hx (hindex.symm ▸ hfit) hloaded,
      hmemory', hindex⟩
  · intro z hfit
    refine ⟨_, execute_storeDecimal address z hfit, rfl, ?_⟩
    intro m' hindex hmemory
    have hload := loadRegisters_of_storedDecimal (m.reg z) m.memory address'
      (hindex.symm ▸ hfit) (hindex.symm ▸ hmemory)
    obtain ⟨hhundreds, htens, hones, hsum⟩ := digits_of_fill m'.registers (m.reg z)
    exact ⟨_, hload, hhundreds, htens, hones, hsum, hindex⟩

/-- The last three bytes of memory hold three registers, or the digits of 254, but no more. -/
theorem transfers_return_last :
    let m := (new {} (.ofSeed 0)).after [.load [0x60, 0xFE, 0x61, 0x22, 0xAF, 0xFD], .runSteps 3]
    m.index.toNat + (2 : UInt8).toNat + 1 = memorySize ∧
    (∃ stored : Machine, Operation.execute 0x206 (.storeRegisters 2) m =
        { result := .ok .ok, machine := stored } ∧
      ∃ loaded : Machine, Operation.execute 0x208 (.loadRegisters 1)
          { stored with registers := .empty } = { result := .ok .ok, machine := loaded } ∧
        loaded.reg 0 = 0xFE ∧ loaded.reg 1 = 0x22 ∧ loaded.reg 2 = 0) ∧
    (∃ loaded : Machine, Operation.execute 0x206 (.loadRegisters 2) m =
        { result := .ok .ok, machine := loaded } ∧
      ∃ stored : Machine, Operation.execute 0x208 (.storeRegisters 2) loaded =
          { result := .ok .ok, machine := stored } ∧ stored.memory = m.memory) ∧
    ∃ stored : Machine, Operation.execute 0x206 (.storeDecimal 0) m =
        { result := .ok .ok, machine := stored } ∧
      ∃ loaded : Machine, Operation.execute 0x208 (.loadRegisters 2) stored =
          { result := .ok .ok, machine := loaded } ∧
        100 * (loaded.reg 0).toNat + 10 * (loaded.reg 1).toNat + (loaded.reg 2).toNat = 254 := by
  intro m
  obtain ⟨hfit, hzero, hone⟩ : m.index.toNat + (2 : UInt8).toNat + 1 = memorySize ∧
      m.reg 0 = 0xFE ∧ m.reg 1 = 0x22 := by
    decide +kernel
  have hle := Nat.le_of_eq hfit
  obtain ⟨hstored, hloaded, hdecimal⟩ := transfers_return m 0x206 0x208
  refine ⟨hfit, ?_, ?_, ?_⟩
  · obtain ⟨stored, hexec, hindex, -, hback⟩ := hstored 2 1 (by decide) (by decide) hle
    obtain ⟨loaded, hexec', hfirst, hrest, -⟩ :=
      hback { stored with registers := .empty } hindex rfl
    refine ⟨stored, hexec, loaded, hexec', ?_, ?_, ?_⟩
    · rw [hfirst 0 (by decide), hzero]
    · rw [hfirst 1 (by decide), hone]
    · rw [hrest 2 (by decide)]
      exact (by decide : Registers.empty.get 2 = 0)
  · obtain ⟨loaded, hexec, hindex, -, hback⟩ := hloaded 2 (by decide) hle
    obtain ⟨stored, hexec', hmemory, -⟩ := hback loaded hindex rfl rfl
    exact ⟨loaded, hexec, stored, hexec', hmemory⟩
  · obtain ⟨stored, hexec, hindex, hback⟩ := hdecimal 0 hle
    obtain ⟨loaded, hexec', -, -, -, hsum, -⟩ := hback stored hindex rfl
    refine ⟨stored, hexec, loaded, hexec', ?_⟩
    rw [hsum, hzero]
    rfl

end ChipEight.Machine
