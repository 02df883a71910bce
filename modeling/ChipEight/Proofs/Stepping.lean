/-
# What a step can come to

A step of a machine ends in one of four ways: the machine is halted, it waits for a key, it goes on
with a key that was delivered, or it simply goes on. Fetching, decoding and executing end in one of
four ways as well. `Machine.stepped` and `Machine.fetched` list them; what follows about steps is
read off these lists.
-/
import ChipEight.Proofs.Execution

namespace ChipEight.Machine

/-! ## Fetching and executing -/

/-- The machine whose program counter is past the instruction at hand. -/
def advanced (m : Machine) : Machine := { m with pc := m.pc + 2 }

/-- The machine is about to execute an instruction: the word at its program counter lies in memory
and stands for that instruction. -/
def AboutTo (m : Machine) (i : Instruction) : Prop :=
  m.pc + 2 ≤ memorySize ∧ Instruction.decode? (m.memory.word m.pc) = some i

instance (m : Machine) (i : Instruction) : Decidable (m.AboutTo i) :=
  inferInstanceAs (Decidable (_ ∧ _))

/-- The trace of an instruction that is executed. -/
def traced (m : Machine) (i : Instruction) : Event := .executing m.pc (m.memory.word m.pc) i

/-- How fetching, decoding and executing can end. -/
inductive Fetched (m : Machine) (r : Reaction Flow) : Prop
  /-- The word at the program counter runs past the end of memory. -/
  | outside (h : memorySize < m.pc + 2)
      (hr : r = m.halt (.memoryOutOfBounds (max m.pc memorySize)) [])
  /-- The word at the program counter is no instruction. -/
  | unknown (h : m.pc + 2 ≤ memorySize) (hd : Instruction.decode? (m.memory.word m.pc) = none)
      (hr : r = m.halt (.unknownOpcode m.pc (m.memory.word m.pc)) [])
  /-- The instruction is refused. -/
  | refused (i : Instruction) (failure : Failure) (hi : m.AboutTo i)
      (hf : m.advanced.Refuses m.pc i failure) (hr : r = m.advanced.halt failure [m.traced i])
  /-- The instruction is executed. -/
  | executed (i : Instruction) (e : Effect) (hi : m.AboutTo i)
      (he : m.advanced.effect m.pc i = .ok e)
      (hr : r = { result := .ok e.flow, machine := e.machine, events := m.traced i :: e.events })

/-- A word that runs past the end of memory is not fetched. -/
theorem fetch_of_gt {m : Machine} (h : memorySize < m.pc + 2) :
    Operation.fetch m =
      { result := .error (.memoryOutOfBounds (max m.pc memorySize)), machine := m } := by
  rw [Operation.fetch, Operation.view_bind]
  exact Operation.bind_of_error (Operation.checkRange_of_gt h m) _

/-- A word that lies in memory is fetched. -/
theorem fetch_of_le {m : Machine} (h : m.pc + 2 ≤ memorySize) :
    Operation.fetch m = { result := .ok (m.memory.word m.pc), machine := m } := by
  rw [Operation.fetch, Operation.view_bind]
  exact Operation.bind_of_ok (Operation.checkRange_of_le h m) _

/-- A word that runs past the end of memory halts the machine. -/
theorem fetchExecute_of_outside {m : Machine} (h : memorySize < m.pc + 2) :
    m.fetchExecute = m.halt (.memoryOutOfBounds (max m.pc memorySize)) [] := by
  rw [fetchExecute, Operation.fetchExecute, Operation.bind_of_error (fetch_of_gt h)]

/-- A word that is no instruction halts the machine. -/
theorem fetchExecute_of_unknown {m : Machine} (h : m.pc + 2 ≤ memorySize)
    (hd : Instruction.decode? (m.memory.word m.pc) = none) :
    m.fetchExecute = m.halt (.unknownOpcode m.pc (m.memory.word m.pc)) [] := by
  rw [fetchExecute, Operation.fetchExecute, Operation.bind_of_ok (fetch_of_le h), hd]
  rfl

/-- A word that is an instruction is executed in place, behind its trace. -/
theorem operation_fetchExecute {m : Machine} {i : Instruction} (hi : m.AboutTo i) :
    Operation.fetchExecute m.pc m =
      (m.advanced.react (m.advanced.effect m.pc i)).behind [m.traced i] := by
  rw [Operation.fetchExecute, Operation.bind_of_ok (fetch_of_le hi.1), hi.2, ← execute_eq]
  rfl

/-- An instruction that is not refused is executed. -/
theorem fetchExecute_of_ok {m : Machine} {i : Instruction} {e : Effect} (hi : m.AboutTo i)
    (he : m.advanced.effect m.pc i = .ok e) :
    m.fetchExecute =
      { result := .ok e.flow, machine := e.machine, events := m.traced i :: e.events } := by
  rw [fetchExecute, operation_fetchExecute hi, he]
  rfl

/-- An instruction that is refused halts the machine behind it. -/
theorem fetchExecute_of_error {m : Machine} {i : Instruction} {failure : Failure}
    (hi : m.AboutTo i) (he : m.advanced.effect m.pc i = .error failure) :
    m.fetchExecute = m.advanced.halt failure [m.traced i] := by
  rw [fetchExecute, operation_fetchExecute hi, he]
  rfl

/-- Fetching, decoding and executing end in one of the listed ways. -/
theorem fetched (m : Machine) : m.Fetched m.fetchExecute := by
  -- the tests come in the order of the machine: range, decoding, execution
  by_cases h : memorySize < m.pc + 2
  · exact .outside h (fetchExecute_of_outside h)
  · have hpc : m.pc + 2 ≤ memorySize := Nat.le_of_not_lt h
    cases hd : Instruction.decode? (m.memory.word m.pc) with
    | none => exact .unknown hpc hd (fetchExecute_of_unknown hpc hd)
    | some i =>
      cases he : m.advanced.effect m.pc i with
      | error failure =>
        exact .refused i failure ⟨hpc, hd⟩ (refuses_of_effect he)
          (fetchExecute_of_error ⟨hpc, hd⟩ he)
      | ok e => exact .executed i e ⟨hpc, hd⟩ he (fetchExecute_of_ok ⟨hpc, hd⟩ he)

/-- What can happen while an instruction is fetched, decoded and executed. -/
theorem mem_fetchExecute {m : Machine} {event : Event} (h : event ∈ m.fetchExecute.events) :
    event.isInner ∨ (∃ i, event = m.traced i) ∨ (∃ fault, event = .halted fault) ∨
      event = .stopTone := by
  have hhalt : ∀ {fault : Failure}, event ∈ [Event.halted fault, .stopTone] →
      (∃ fault, event = .halted fault) ∨ event = .stopTone := by
    intro fault hmem
    rcases List.mem_cons.1 hmem with rfl | hmem
    · exact Or.inl ⟨fault, rfl⟩
    · exact Or.inr (List.mem_singleton.1 hmem)
  cases m.fetched with
  | outside hpc hr | unknown hpc hd hr =>
    rw [hr] at h
    exact Or.inr (Or.inr (hhalt h))
  | refused i failure hi hf hr =>
    rw [hr] at h
    rcases List.mem_cons.1 h with rfl | h
    · exact Or.inr (Or.inl ⟨i, rfl⟩)
    · exact Or.inr (Or.inr (hhalt h))
  | executed i e hi he hr =>
    rw [hr] at h
    rcases List.mem_cons.1 h with rfl | h
    · exact Or.inr (Or.inl ⟨i, rfl⟩)
    · exact Or.inl ((steered_of_effect he).events event h)

/-! ## Steps -/

/-- The machine with a delivered key in the register that waited for it. -/
def resume (m : Machine) (register : UInt8) (key : Key) : Machine :=
  { m.setReg register (Key.toByte key) with
    keyWait := none
    keypad := { m.keypad with slot := .idle } }

/-- The events of a key wait that ends. -/
def resumption (register : UInt8) (key : Key) : List Event :=
  [.takeKey (some key), .resumed key register]

/-- How a step can end. -/
inductive Stepped (m : Machine) (r : Reaction Flow) : Prop
  /-- A halted machine gives its fault again. -/
  | halted (fault : Failure) (hf : m.fault = some fault)
      (hr : r = { result := .error fault, machine := m })
  /-- A machine that waits for a key finds none. -/
  | waiting (register : UInt8) (hf : m.fault = none) (hk : m.keyWait = some register)
      (hs : ∀ key, m.keypad.slot ≠ .delivered key)
      (hr : r = { result := .ok .keyWait, machine := m, events := [.takeKey none] })
  /-- A machine that waits for a key finds it and goes on. -/
  | resumed (register : UInt8) (key : Key) (hf : m.fault = none)
      (hk : m.keyWait = some register) (hs : m.keypad.slot = .delivered key)
      (hr : r = (m.resume register key).fetchExecute.behind (resumption register key))
  /-- A machine goes on. -/
  | running (hf : m.fault = none) (hk : m.keyWait = none) (hr : r = m.fetchExecute)

/-- The step of a halted machine. -/
theorem step_of_fault {m : Machine} {fault : Failure} (hf : m.fault = some fault) :
    m.step = { result := .error fault, machine := m } := by
  simp only [step, hf]

/-- The step of a machine that neither is halted nor waits. -/
theorem step_of_running {m : Machine} (hf : m.fault = none) (hk : m.keyWait = none) :
    m.step = m.fetchExecute := by
  simp only [step, hf, hk]

/-- A machine that neither is halted nor waits comes to an instruction. -/
structure ComesTo (m : Machine) (i : Instruction) : Prop where
  /-- No fault halted the machine. -/
  fault : m.fault = none
  /-- The machine does not wait for a key. -/
  keyWait : m.keyWait = none
  /-- The instruction is the next one. -/
  aboutTo : m.AboutTo i

instance (m : Machine) (i : Instruction) : Decidable (m.ComesTo i) :=
  decidable_of_iff (m.fault = none ∧ m.keyWait = none ∧ m.AboutTo i)
    ⟨fun h => ⟨h.1, h.2.1, h.2.2⟩, fun h => ⟨h.fault, h.keyWait, h.aboutTo⟩⟩

/-- A machine that comes to an instruction executes it in its next step. -/
theorem ComesTo.step_eq {m : Machine} {i : Instruction} {e : Effect} (h : m.ComesTo i)
    (he : m.advanced.effect m.pc i = .ok e) :
    m.step =
      { result := .ok e.flow, machine := e.machine, events := m.traced i :: e.events } := by
  rw [step_of_running h.fault h.keyWait]
  exact fetchExecute_of_ok h.aboutTo he

/-- The step of a machine that waits for a key that was not pressed yet. -/
theorem step_of_waiting {m : Machine} {register : UInt8} (hf : m.fault = none)
    (hk : m.keyWait = some register) (hs : ∀ key, m.keypad.slot ≠ .delivered key) :
    m.step = { result := .ok .keyWait, machine := m, events := [.takeKey none] } := by
  simp only [step, hf, hk, Keypad.take_of_not_delivered hs]

/-- The step of a machine that waits for a key that was delivered. -/
theorem step_of_delivered {m : Machine} {register : UInt8} {key : Key} (hf : m.fault = none)
    (hk : m.keyWait = some register) (hs : m.keypad.slot = .delivered key) :
    m.step = (m.resume register key).fetchExecute.behind (resumption register key) := by
  simp only [step, hf, hk, Keypad.take_of_delivered hs]
  rfl

/-- A step ends in one of the listed ways. -/
theorem stepped (m : Machine) : m.Stepped m.step := by
  cases hf : m.fault with
  | some fault => exact .halted fault hf (step_of_fault hf)
  | none =>
    cases hk : m.keyWait with
    | none => exact .running hf hk (step_of_running hf hk)
    | some register =>
      cases hs : m.keypad.slot with
      | delivered key => exact .resumed register key hf hk hs (step_of_delivered hf hk hs)
      | idle | awaiting =>
        have hnone : ∀ key, m.keypad.slot ≠ .delivered key := by simp [hs]
        exact .waiting register hf hk hnone (step_of_waiting hf hk hnone)

/-- What fetching and resuming keep, a step keeps. -/
theorem step_preserves {P : Machine → Prop}
    (hresume : ∀ m register key, P m → m.fault = none → m.keyWait = some register →
      m.keypad.slot = .delivered key → P (m.resume register key))
    (hfetch : ∀ m, P m → m.fault = none → m.keyWait = none → P m.fetchExecute.machine)
    {m : Machine} (hm : P m) : P m.step.machine := by
  cases m.stepped with
  | halted fault hf hr =>
    rw [hr]
    exact hm
  | waiting register hf hk hs hr =>
    rw [hr]
    exact hm
  | resumed register key hf hk hs hr =>
    -- a resumed machine does not wait any more, so it fetches like a running one
    rw [hr]
    exact hfetch _ (hresume m register key hm hf hk hs) hf rfl
  | running hf hk hr =>
    rw [hr]
    exact hfetch m hm hf hk

end ChipEight.Machine
