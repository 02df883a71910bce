/-
# What instructions do

Two views of `Machine.effect`. An instruction is refused in three situations only: a return with
an empty call stack, a call with a full one, and an access at the index register that runs past the
end of memory. An instruction that is not refused steers the machine: `Machine.Steered` lists its
effect on the program counter, the call stack, the key wait and the keypad, and what it cannot
touch.
-/
import ChipEight.Proofs.Effect

namespace ChipEight

/-! ## Refusals -/

/-- The number of bytes that an instruction reaches at the index register, if it reaches memory. -/
def Instruction.span? : Instruction → Option Nat
  | draw _ _ n => some n.toNat
  | storeDecimal _ => some 3
  | storeRegisters x | loadRegisters x => some (Registers.select x + 1)
  | _ => none

/-- Why an instruction that was fetched from `address` is refused. -/
inductive Machine.Refuses (m : Machine) (address : Nat) : Instruction → Failure → Prop
  /-- A return finds no address to return to. -/
  | underflow (h : m.stack = []) : m.Refuses address .ret (.stackUnderflow address)
  /-- A call finds the call stack full. -/
  | overflow (target : UInt16) (h : m.config.stackSize ≤ m.stack.length) :
      m.Refuses address (.call target) (.stackOverflow address)
  /-- An access runs past the end of memory. -/
  | outside {i : Instruction} {len : Nat} (hi : i.span? = some len)
      (h : memorySize < m.index.toNat + len) :
      m.Refuses address i (.memoryOutOfBounds (max m.index.toNat memorySize))

namespace Machine

variable {m : Machine} {address : Nat} {i : Instruction}

/-- An instruction without an effect is refused for the reason that it gives. -/
theorem refuses_of_effect {failure : Failure} (h : m.effect address i = .error failure) :
    m.Refuses address i failure := by
  -- six forms can fail, all others have an effect outright
  cases i with
  | ret =>
    rw [effect] at h
    split at h <;> cases h
    next hs => exact .underflow hs
  | call target =>
    rw [effect] at h
    split at h <;> cases h
    next hs => exact .overflow target hs
  | draw x y n | storeDecimal x | storeRegisters x | loadRegisters x =>
    obtain ⟨hlen, rfl⟩ := outside_of_reaching h
    exact .outside rfl hlen
  | _ => cases h

/-- A refused instruction has no effect. -/
theorem effect_of_refuses {failure : Failure} (h : m.Refuses address i failure) :
    m.effect address i = .error failure := by
  cases h with
  | underflow hs => rw [effect, hs]
  | overflow target hs => rw [effect, if_pos hs]
  | outside hi hs => cases i <;> cases hi <;> exact reaching_of_gt hs _

end Machine

/-! ## Steering -/

/-- The register into which an instruction waits for a key press, if it does. -/
def Instruction.awaited? : Instruction → Option UInt8
  | awaitKey x => some x
  | _ => none

/-- An event that the execution of an instruction causes by itself. -/
def Event.isInner : Event → Bool
  | setPixel .. | clearScreen | isKeyDown .. | awaitKey | waiting _ => true
  | _ => false

/-- Toggling pixels presents no screen. -/
theorem Screen.frames_toggleAll (s : Screen) (pixels : List (Nat × Nat)) :
    (s.toggleAll pixels).2.frames = s.frames := by
  induction pixels generalizing s with
  | nil => rfl
  | cons p pixels ih => exact ih _

namespace Machine

/-- Whether an instruction skips the next one. -/
def skips (m : Machine) : Instruction → Bool
  | .skipIfByte x nn => m.reg x == nn
  | .skipUnlessByte x nn => m.reg x != nn
  | .skipIfEqual x y => m.reg x == m.reg y
  | .skipUnlessEqual x y => m.reg x != m.reg y
  | .skipIfKey x => (m.keyState (m.reg x)).1
  | .skipUnlessKey x => !(m.keyState (m.reg x)).1
  | _ => false

/-- Where a machine, whose program counter is past an instruction, goes on after it. -/
def nextPc (m : Machine) : Instruction → Nat
  | .ret => m.stack.headD m.pc
  | .jump target | .call target => target.toNat
  | .jumpOffset target => target.toNat + (m.reg 0).toNat
  | i => if m.skips i then m.pc + 2 else m.pc

/-- The return addresses after an instruction. -/
def nextStack (m : Machine) : Instruction → List Nat
  | .ret => m.stack.tail
  | .call _ => m.pc :: m.stack
  | _ => m.stack

/-- What an instruction that is not refused does to the parts that steer a machine. -/
structure Steered (m : Machine) (i : Instruction) (e : Effect) : Prop where
  /-- The program counter moves as the instruction says. -/
  pc : e.machine.pc = m.nextPc i
  /-- Calls and returns change the call stack. -/
  stack : e.machine.stack = m.nextStack i
  /-- Only one form begins a key wait, and none ends it. -/
  keyWait : e.machine.keyWait = i.awaited?.or m.keyWait
  /-- That form arms the slot of the keypad. -/
  keypad : e.machine.keypad = if i.awaited?.isSome then m.keypad.await else m.keypad
  /-- No instruction records a fault. -/
  fault : e.machine.fault = m.fault
  /-- No instruction changes the parameters. -/
  config : e.machine.config = m.config
  /-- No instruction changes the stream of random words. -/
  stream : e.machine.generator.stream = m.generator.stream
  /-- No instruction presents the screen. -/
  frames : e.machine.screen.frames = m.screen.frames
  /-- The events are those that instructions can cause. -/
  events : ∀ event ∈ e.events, event.isInner

variable {m : Machine} {address : Nat} {i : Instruction}

/-- Asking the keypad for a key is an event of an instruction. -/
theorem isInner_of_mem_keyState (m : Machine) (number : UInt8) :
    ∀ event ∈ (m.keyState number).2, event.isInner := by
  unfold keyState
  split
  · intro event he
    rw [List.mem_singleton.1 he]
    rfl
  · nofun

/-- A skip steers by its condition alone. -/
theorem steered_skipIf (m : Machine) (condition : Bool) {calls : List Event}
    (hpc : m.nextPc i = if condition then m.pc + 2 else m.pc)
    (hstack : m.nextStack i = m.stack) (hwait : i.awaited? = none)
    (hcalls : ∀ event ∈ calls, event.isInner) :
    m.Steered i { m.skipIf condition with events := calls } := by
  constructor
  case pc =>
    rw [hpc]
    cases condition <;> rfl
  case stack =>
    rw [hstack]
    cases condition <;> rfl
  case keyWait | keypad =>
    rw [hwait]
    cases condition <;> rfl
  case events => exact hcalls
  all_goals cases condition <;> rfl

/-- Drawing pixels steers nothing. -/
theorem steered_drawPixels (m : Machine) (vx vy n : UInt8) (pixels : List (Nat × Nat)) :
    m.Steered (.draw vx vy n) (m.drawPixels pixels) := by
  refine ⟨rfl, rfl, rfl, rfl, rfl, rfl, rfl, Screen.frames_toggleAll _ _, ?_⟩
  show ∀ event ∈ List.zipWith _ pixels (m.screen.toggleAll pixels).1, Event.isInner event
  intro event he
  obtain ⟨k, hk, rfl⟩ := List.getElem_of_mem he
  rw [List.getElem_zipWith]
  rfl

/-- Every instruction that is not refused steers the machine as it says. -/
theorem steered_of_effect {e : Effect} (h : m.effect address i = .ok e) : m.Steered i e := by
  -- forms that can fail are opened first, those that skip share a lemma, the rest reads off
  cases i with
  | ret =>
    rw [effect] at h
    split at h <;> cases h
    next hs =>
      refine ⟨?_, ?_, rfl, rfl, rfl, rfl, rfl, rfl, List.forall_mem_nil _⟩
      · rw [nextPc, hs]
        rfl
      · rw [nextStack, hs]
        rfl
  | call target =>
    rw [effect] at h
    split at h <;> cases h
    exact ⟨rfl, rfl, rfl, rfl, rfl, rfl, rfl, rfl, List.forall_mem_nil _⟩
  | draw x y n =>
    rw [eq_of_reaching h]
    exact m.steered_drawPixels x y n _
  | storeDecimal x | storeRegisters x | loadRegisters x =>
    rw [eq_of_reaching h]
    exact ⟨rfl, rfl, rfl, rfl, rfl, rfl, rfl, rfl, List.forall_mem_nil _⟩
  | skipIfByte x nn | skipUnlessByte x nn | skipIfEqual x y | skipUnlessEqual x y =>
    cases h
    exact steered_skipIf m _ rfl rfl rfl (List.forall_mem_nil _)
  | skipIfKey x | skipUnlessKey x =>
    cases h
    exact steered_skipIf m _ rfl rfl rfl (isInner_of_mem_keyState m _)
  | awaitKey x =>
    cases h
    refine ⟨rfl, rfl, rfl, rfl, rfl, rfl, rfl, rfl, ?_⟩
    rintro event (_ | ⟨_, _ | ⟨_, ⟨⟩⟩⟩) <;> rfl
  | clearScreen =>
    cases h
    refine ⟨rfl, rfl, rfl, rfl, rfl, rfl, rfl, rfl, ?_⟩
    rintro event (_ | ⟨_, ⟨⟩⟩)
    rfl
  | _ =>
    cases h
    exact ⟨rfl, rfl, rfl, rfl, rfl, rfl, rfl, rfl, List.forall_mem_nil _⟩

end Machine

end ChipEight
