/-
# Accesses outside of memory

A machine accesses memory to fetch a word, and then at its index register if the word asks for that
(`Machine.Accesses`). An access that runs past the end is refused, and the fault names the lowest
address outside of memory that the access covers (`Memory.isLeast_outside`). The fault of a halted
machine is that of the step that halted it (`Machine.Ticks.raised`).

* `outOfBounds_names` : the address of a refused access, in every run. A sprite without rows covers
  no address, but it is refused all the same if the index register lies past the end; then the fault
  names the index register.
-/
import ChipEight.Proofs.Cause
import ChipEight.Proofs.Halted
import ChipEight.Proofs.Tick
import Mathlib.Order.Bounds.Defs

namespace ChipEight

/-! ## Accesses -/

namespace Memory

/-- The addresses outside of memory that an access covers. -/
def outside (start len : Nat) : Set Nat := {b | memorySize ≤ b ∧ start ≤ b ∧ b < start + len}

/-- The lowest address outside of memory that an access covers, if it covers any address. -/
theorem isLeast_outside {start len : Nat} (hlen : 0 < len) (h : memorySize < start + len) :
    IsLeast (outside start len) (max start memorySize) := by
  refine ⟨⟨Nat.le_max_right _ _, Nat.le_max_left _ _, ?_⟩, ?_⟩
  · rcases Nat.le_total start memorySize with hle | hle
    · rwa [Nat.max_eq_right hle]
    · rw [Nat.max_eq_left hle]
      exact Nat.lt_add_of_pos_right hlen
  · rintro b ⟨hb, hstart, -⟩
    exact Nat.max_le.2 ⟨hstart, hb⟩

end Memory

namespace Machine

variable {m m' : Machine} {start len a : Nat}

/-- An access to memory that a machine makes for its next instruction, if the accesses before are
not refused: a start and a number of bytes. -/
inductive Accesses (m : Machine) : Nat → Nat → Prop
  /-- The word at the program counter is fetched. -/
  | fetch : m.Accesses m.pc 2
  /-- Bytes at the index register are read or written. -/
  | data {len : Nat} (hpc : m.pc + 2 ≤ memorySize) (hw : Opcode.Reaches (m.memory.word m.pc) len) :
      m.Accesses m.index.toNat len

/-- Only a sprite without rows accesses no byte. -/
theorem Accesses.of_zero (h : m.Accesses start 0) :
    m.pc + 2 ≤ memorySize ∧
      Opcode.Row.Matches { first := 0xD, last := some 0x0 } (m.memory.word m.pc) ∧
      start = m.index.toNat := by
  generalize hlen : 0 = len at h
  cases h with
  | fetch => cases hlen
  | data hpc hw =>
    cases hw with
    | sprite hrow =>
      refine ⟨hpc, Opcode.Row.matches_last.2 ⟨hrow.first, ?_⟩, rfl⟩
      rw [← Opcode.toNat_n, ← hlen]
    | decimal | store | load => cases hlen

/-- The machine that fetches an instruction when a machine takes a step: it is the machine itself,
unless a key was delivered to it, which goes to its register first. -/
inductive Fetches (m : Machine) : Machine → Prop
  /-- The machine goes on. -/
  | running (hf : m.fault = none) (hk : m.keyWait = none) : m.Fetches m
  /-- The machine goes on with a key. -/
  | resumed {register : UInt8} {key : Key} (hf : m.fault = none) (hk : m.keyWait = some register)
      (hs : m.keypad.slot = .delivered key) : m.Fetches (m.resume register key)

/-- A machine that fails with an address outside of memory makes an access that runs past the end.
The address is the start of the access or, if that lies in memory, the end of memory. -/
theorem accesses_of_fetchExecute (h : m.fetchExecute.result = .error (.memoryOutOfBounds a)) :
    ∃ start len, m.Accesses start len ∧ memorySize < start + len ∧ a = max start memorySize := by
  obtain ⟨⟨pc, hfaults, -⟩, -⟩ := crashes_of_fetchExecute h
  cases hfaults with
  | outside hpc => exact ⟨m.pc, 2, .fetch, hpc, rfl⟩
  | refused hi hr =>
    cases hr with
    | outside hspan hlen =>
      exact ⟨_, _, .data hi.1 (Instruction.reaches_of_span? hi.2 hspan), hlen, rfl⟩

/-- A machine that is not halted but fails to take a step fails to fetch and execute. -/
theorem fetches_of_step_error {failure : Failure} (hf : m.fault = none)
    (h : m.step.result = .error failure) :
    ∃ m', m.Fetches m' ∧ m'.fetchExecute.result = .error failure := by
  cases m.stepped with
  | halted fault hfault hr =>
    rw [hf] at hfault
    cases hfault
  | waiting register _ hk hs hr =>
    rw [hr] at h
    cases h
  | resumed register key _ hk hs hr =>
    rw [hr] at h
    exact ⟨_, .resumed hf hk hs, h⟩
  | running _ hk hr =>
    rw [hr] at h
    exact ⟨m, .running hf hk, h⟩

end Machine

/-! ## The step that halted a machine -/

/-- A fault after a tick was there before, unless the tick is a step that raised it. -/
def Tick.Records (t : Tick) : Prop :=
  ∀ fault, t.after.fault = some fault →
    t.before.fault = some fault ∨
      ∃ m, t = .step m ∧ m.fault = none ∧ m.step.result = .error fault

namespace Machine

variable {m m' : Machine} {start len a : Nat} {fault : Failure}

/-- Steps record the faults that they raise. -/
theorem records_step (m : Machine) : (Tick.step m).Records := by
  intro fault h
  cases hf : m.fault with
  | some fault' =>
    left
    rw [Tick.after, step_of_fault hf] at h
    exact h
  | none =>
    right
    refine ⟨m, rfl, hf, ?_⟩
    cases hr : m.step.result with
    | ok flow =>
      rw [Tick.after, fault_of_step hr] at h
      cases h
    | error failure =>
      rw [Tick.after, fault_of_step_error hr] at h
      cases h
      rfl

/-- An action that runs nothing records no fault. -/
theorem fault_of_perform {action : Action} (ha : ¬ action.runs)
    (h : (m.perform action).machine.fault = some fault) : m.fault = some fault := by
  by_cases hreplaces : action.replaces
  · cases action with
    | load program =>
      have hnone : (m.perform (.load program)).machine.fault = none :=
        (load_of_le (Action.replaces_load.1 hreplaces)).2
      rw [hnone] at h
      cases h
    | _ => cases hreplaces
  · obtain ⟨memory, screen, keypad, hm⟩ := perform_frame (m := m) hreplaces ha
    rw [hm] at h
    exact h

/-- In every tick of a run, only a step can record a fault. -/
theorem records_of_mem_ticks (m : Machine) (actions : List Action) :
    ∀ t ∈ m.ticks actions, t.Records := by
  refine forall_mem_ticks (Q := fun _ => True) ?_ fun _ _ => trivial
  intro m action _ t ht
  rcases mem_actionTicks ht with ⟨m', rfl⟩ | ⟨m', rfl⟩ | ⟨rfl, hruns⟩
  · exact m'.records_step
  · exact fun fault h => Or.inl (m'.endFrame_frame.2.2.symm.trans h)
  · exact fun fault h => Or.inl (fault_of_perform hruns h)

/-- A step of a machine, one of several ticks, raised a fault that has remained since. -/
def RaisedBy (ticks : List Tick) (fault : Failure) (m : Machine) : Prop :=
  ∃ first later, ticks = first ++ .step m :: later ∧ m.fault = none ∧
    m.step.result = .error fault ∧ ∀ t ∈ later, t.before.fault = some fault

/-- A fault at the end of ticks was there from the beginning, unless a step raised it. -/
theorem Ticks.raised {ticks : List Tick} {events : List Event} (h : Ticks m ticks events m')
    (hrecords : ∀ t ∈ ticks, t.Records) (hf : m'.fault = some fault) :
    (m.fault = some fault ∧ ∀ t ∈ ticks, t.before.fault = some fault) ∨
      ∃ m₀, RaisedBy ticks fault m₀ := by
  induction h with
  | refl m => exact Or.inl ⟨hf, List.forall_mem_nil _⟩
  | head t h ih =>
    obtain ⟨ht, hrest⟩ := List.forall_mem_cons.1 hrecords
    rcases ih hrest hf with ⟨hafter, hlater⟩ | ⟨m₀, first, later, hticks, hraised⟩
    · rcases ht fault hafter with hbefore | ⟨m₀, rfl, hnone, herror⟩
      · exact Or.inl ⟨hbefore, List.forall_mem_cons.2 ⟨hbefore, hlater⟩⟩
      · exact Or.inr ⟨m₀, [], _, rfl, hnone, herror, hlater⟩
    · exact Or.inr ⟨m₀, t :: first, later, congrArg (t :: ·) hticks, hraised⟩

/-- The fault of a machine after a run was raised by a step of the run. -/
theorem raised_of_fault {config : Config} {generator : Random.Generator} {actions : List Action}
    (hf : ((new config generator).after actions).fault = some fault) :
    ∃ m₀, RaisedBy ((new config generator).ticks actions) fault m₀ := by
  have hrecords := records_of_mem_ticks (new config generator) actions
  rcases (ticks_after (new config generator) actions).raised hrecords hf with ⟨hnew, -⟩ | hraised
  · cases hnew
  · exact hraised

/-! ## The address of a fault -/

/-- An address names the access of a machine that is refused. -/
inductive Names (a : Nat) (m : Machine) : Prop
  /-- It is the lowest address outside of memory that the access covers. -/
  | lowest {start len : Nat} (haccess : m.Accesses start len)
      (hleast : IsLeast (Memory.outside start len) a)
  /-- It is the index register, past the end of memory, of a sprite without rows. -/
  | empty (hpc : m.pc + 2 ≤ memorySize)
      (hrow : Opcode.Row.Matches { first := 0xD, last := some 0x0 } (m.memory.word m.pc))
      (hindex : a = m.index.toNat) (hpast : memorySize < a)

/-- A fault of an access that runs past the end names the access. -/
theorem Accesses.names (h : m.Accesses start len) (hlen : memorySize < start + len) :
    Names (max start memorySize) m := by
  rcases Nat.eq_zero_or_pos len with rfl | hpos
  · obtain ⟨hpc, hrow, rfl⟩ := h.of_zero
    rw [Nat.add_zero] at hlen
    rw [Nat.max_eq_left (Nat.le_of_lt hlen)]
    exact .empty hpc hrow rfl hlen
  · exact .lowest h (Memory.isLeast_outside hpos hlen)

/-- A machine that is not halted and fails to take a step because of an access names it. -/
theorem names_of_step_error (hf : m.fault = none)
    (h : m.step.result = .error (.memoryOutOfBounds a)) : ∃ m₁, m.Fetches m₁ ∧ Names a m₁ := by
  obtain ⟨m₁, hfetches, herror⟩ := fetches_of_step_error hf h
  obtain ⟨start, len, haccess, hlen, rfl⟩ := accesses_of_fetchExecute herror
  exact ⟨m₁, hfetches, haccess.names hlen⟩

/-- A step after any run that fails with an access outside of memory names an address. The access is
made in this step, or, if the machine is halted, in the step that halted it. If it covers any
address, the one that is named is the lowest of those that lie outside of memory. The only access
that covers none is that of a sprite without rows; it is refused if the index register lies past the
end, and then the index register is named. -/
theorem outOfBounds_names (config : Config) (generator : Random.Generator) (actions : List Action)
    (h : ((new config generator).after actions).step.result = .error (.memoryOutOfBounds a)) :
    let m := (new config generator).after actions
    ∃ m₀ m₁, m₀.Fetches m₁ ∧ Names a m₁ ∧
      (m.fault = none ∧ m₀ = m ∨
        m.fault = some (.memoryOutOfBounds a) ∧
          RaisedBy ((new config generator).ticks actions) (.memoryOutOfBounds a) m₀) := by
  intro m
  cases hf : m.fault with
  | none =>
    obtain ⟨m₁, hfetches, hnames⟩ := names_of_step_error hf h
    exact ⟨m, m₁, hfetches, hnames, Or.inl ⟨rfl, rfl⟩⟩
  | some fault =>
    rw [step_of_fault hf] at h
    cases h
    obtain ⟨m₀, hraised⟩ := raised_of_fault hf
    have ⟨_, _, _, hnone, herror, _⟩ := hraised
    obtain ⟨m₁, hfetches, hnames⟩ := names_of_step_error hnone herror
    exact ⟨m₀, m₁, hfetches, hnames, Or.inr ⟨rfl, hraised⟩⟩

/-- A sprite of four rows begins two bytes before the end of memory. The machine is halted, and
every further step names address 4096, the lowest one that the sprite covers outside of memory. -/
theorem outOfBounds_names_again :
    let actions : List Action := [.load [0xAF, 0xFE, 0xD0, 0x04], .runSteps 2, .pressKey 3, .step]
    let m := (new {} (.ofSeed 0)).after actions
    m.step.result = .error (.memoryOutOfBounds 4096) ∧
    ∃ m₀ m₁ start len,
      RaisedBy ((new {} (.ofSeed 0)).ticks actions) (.memoryOutOfBounds 4096) m₀ ∧ m₀.Fetches m₁ ∧
      m₁.Accesses start len ∧ IsLeast (Memory.outside start len) 4096 := by
  intro actions m
  have hfault : m.fault = some (.memoryOutOfBounds 4096) := by decide +kernel
  have hstep : m.step.result = .error (.memoryOutOfBounds 4096) := by rw [step_of_fault hfault]
  obtain ⟨m₀, m₁, hfetches, hnames, ⟨hnone, -⟩ | ⟨-, hraised⟩⟩ :=
    outOfBounds_names {} (.ofSeed 0) actions hstep
  · rw [hfault] at hnone
    cases hnone
  · refine ⟨hstep, m₀, m₁, ?_⟩
    cases hnames with
    | lowest haccess hleast => exact ⟨_, _, hraised, hfetches, haccess, hleast⟩
    | empty hpc hrow hindex hpast => exact absurd hpast (by decide)

/-- A sprite without rows touches no byte, but at index 4097 it is refused, and the fault names an
address that no access of the machine covers. -/
theorem outOfBounds_untouched :
    let m := (new {} (.ofSeed 0)).after
      [.load [0xAF, 0xFF, 0x60, 0x02, 0xF0, 0x1E, 0xD0, 0x00], .runSteps 3]
    (m.fault = none ∧ m.keyWait = none ∧ m.memory.word m.pc = 0xD000 ∧ m.index = 4097) ∧
    m.step.result = .error (.memoryOutOfBounds 4097) ∧
    ∀ start len, m.Accesses start len → ¬ IsLeast (Memory.outside start len) 4097 := by
  intro m
  obtain ⟨hf, hk, hpc, hw, hindex⟩ : m.fault = none ∧ m.keyWait = none ∧ m.pc = 518 ∧
      m.memory.word m.pc = 0xD000 ∧ m.index = 4097 := by
    decide +kernel
  have hfit : m.pc + 2 ≤ memorySize := by
    rw [hpc]
    decide
  have hzero : ∀ {len}, Opcode.Reaches 0xD000 len → len = 0 := by
    rintro len (h | h | h | h)
    · rfl
    all_goals exact absurd h.first (by decide)
  have hpresent : Cause.access.Present m := by
    refine ⟨hfit, 0, ?_, ?_⟩
    · rw [hw]
      exact .sprite (Opcode.Row.matches_first.2 rfl)
    · rw [hindex]
      decide
  refine ⟨⟨hf, hk, hw, hindex⟩, ?_, ?_⟩
  · rw [step_of_running hf hk, hpresent.fetchExecute, Cause.fault, hindex]
    rfl
  · rintro start len haccess ⟨⟨-, -, hlt⟩, -⟩
    cases haccess with
    | fetch =>
      rw [hpc] at hlt
      exact absurd hlt (by decide)
    | data _ hreaches =>
      rw [hw] at hreaches
      rw [hindex, hzero hreaches] at hlt
      exact absurd hlt (by decide)

end Machine

end ChipEight
