/-
# Faults

A step that fails has not begun to change anything but the program counter: `Machine.Crashes` says
what a fault leaves behind, and `Machine.Faults` where the program counter stands. A batch of steps
or a frame that fails ends with such a step, so it leaves behind what the steps before did and
nothing else.
-/
import ChipEight.Proofs.Running
import Mathlib.Control.Monad.Basic

namespace ChipEight

/-- A reaction that fails does so in every view of its result. -/
theorem Reaction.map_eq_error {α β : Type} {r : Reaction α} {f : α → β} {fault : Failure} :
    (r.map f).result = .error fault ↔ r.result = .error fault := by
  show r.result.map f = .error fault ↔ r.result = .error fault
  cases r.result with
  | error failure => exact ⟨fun h => by cases h; rfl, fun h => by cases h; rfl⟩
  | ok a => exact ⟨nofun, nofun⟩

/-- A reaction that succeeds does so in every view of its result. -/
theorem Reaction.exists_ok_of_map {α β : Type} {r : Reaction α} {f : α → β} {b : β}
    (h : (r.map f).result = .ok b) : ∃ a, r.result = .ok a := by
  cases hr : r.result with
  | error failure =>
    rw [Reaction.map_eq_error.2 hr] at h
    cases h
  | ok a => exact ⟨a, rfl⟩

/-- A reaction that does not succeed fails. -/
theorem Reaction.exists_error {α : Type} {r : Reaction α} (h : ¬ r.result.isOk) :
    ∃ fault, r.result = .error fault := by
  cases hr : r.result with
  | error fault => exact ⟨fault, rfl⟩
  | ok a =>
    rw [hr] at h
    exact absurd rfl h

namespace Machine

/-! ## What a fault leaves behind -/

/-- A machine that is to fetch an instruction fails with a fault, and its program counter is then at
some address. -/
inductive Faults (m : Machine) : Failure → Nat → Prop
  /-- The word at the program counter runs past the end of memory. -/
  | outside (h : memorySize < m.pc + 2) : m.Faults (.memoryOutOfBounds (max m.pc memorySize)) m.pc
  /-- The word at the program counter is no instruction. -/
  | unknown (h : m.pc + 2 ≤ memorySize) (hd : Instruction.decode? (m.memory.word m.pc) = none) :
      m.Faults (.unknownOpcode m.pc (m.memory.word m.pc)) m.pc
  /-- The instruction is refused, after the program counter moved past it. -/
  | refused {i : Instruction} {fault : Failure} (hi : m.AboutTo i) (hr : m.Refuses m.pc i fault) :
      m.Faults fault (m.pc + 2)

/-- A fault leaves behind the machine as it was, but for the fault and the program counter. -/
def Crashes (m : Machine) (fault : Failure) (m' : Machine) : Prop :=
  ∃ pc, m.Faults fault pc ∧ m' = { m with pc, fault := some fault }

variable {m : Machine} {fault : Failure}

/-- An instruction is refused for reasons that do not depend on the program counter. -/
theorem refuses_of_advanced {address : Nat} {i : Instruction}
    (h : m.advanced.Refuses address i fault) : m.Refuses address i fault := by
  cases h with
  | underflow hs => exact .underflow hs
  | overflow target hs => exact .overflow target hs
  | outside hi hs => exact .outside hi hs

/-- An instruction that cannot be fetched, decoded or executed is a fault, and then the tone is
stopped. -/
theorem crashes_of_fetchExecute (h : m.fetchExecute.result = .error fault) :
    m.Crashes fault m.fetchExecute.machine ∧
      ∃ events, m.fetchExecute.events = events ++ [.stopTone] := by
  cases m.fetched with
  | outside hpc hr =>
    rw [hr] at h ⊢
    cases h
    exact ⟨⟨m.pc, .outside hpc, rfl⟩, [.halted _], rfl⟩
  | unknown hpc hd hr =>
    rw [hr] at h ⊢
    cases h
    exact ⟨⟨m.pc, .unknown hpc hd, rfl⟩, [.halted _], rfl⟩
  | refused i failure hi hf hr =>
    rw [hr] at h ⊢
    cases h
    exact ⟨⟨m.pc + 2, .refused hi (refuses_of_advanced hf), rfl⟩, [m.traced i, .halted _], rfl⟩
  | executed i e hi he hr =>
    rw [hr] at h
    cases h

/-! ## Steps that succeed -/

/-- An instruction that is executed leaves no fault behind. -/
theorem fault_of_fetchExecute (hf : m.fault = none) {flow : Flow}
    (h : m.fetchExecute.result = .ok flow) : m.fetchExecute.machine.fault = none := by
  cases m.fetched with
  | outside hpc hr | unknown hpc hd hr | refused i failure hi hrefused hr =>
    rw [hr] at h
    cases h
  | executed i e hi he hr =>
    rw [hr]
    exact (steered_of_effect he).fault.trans hf

/-- A step that succeeds leaves no fault behind. -/
theorem fault_of_step {flow : Flow} (h : m.step.result = .ok flow) :
    m.step.machine.fault = none := by
  cases m.stepped with
  | halted fault hf hr =>
    rw [hr] at h
    cases h
  | waiting register hf hk hs hr =>
    rw [hr]
    exact hf
  | resumed register key hf hk hs hr =>
    rw [hr] at h ⊢
    exact fault_of_fetchExecute hf h
  | running hf hk hr =>
    rw [hr] at h ⊢
    exact fault_of_fetchExecute hf h

/-- Only a machine that is not halted takes a step that succeeds. -/
theorem fault_eq_none_of_step {flow : Flow} (h : m.step.result = .ok flow) : m.fault = none := by
  cases hf : m.fault with
  | none => rfl
  | some fault =>
    rw [step_of_fault hf] at h
    cases h

/-- A chain of steps leaves no fault behind. -/
theorem Steps.fault_eq_none {m' : Machine} {count : Nat} {events : List Event}
    (h : Steps m count events m') (hf : m.fault = none) : m'.fault = none := by
  induction h with
  | refl m => exact hf
  | head hr hflow h ih => exact ih (fault_of_step hr)

/-! ## Steps present nothing -/

/-- No step counts a frame. -/
theorem frames_step (m : Machine) : m.step.machine.screen.frames = m.screen.frames := by
  refine step_preserves (P := fun m' => m'.screen.frames = m.screen.frames) ?_ ?_ rfl
  · intro m' register key h _ _ _
    exact h
  · intro m' h _ _
    cases m'.fetched with
    | outside hpc hr | unknown hpc hd hr | refused i failure hi hf hr =>
      rw [hr]
      exact h
    | executed i e hi he hr =>
      rw [hr]
      exact (steered_of_effect he).frames.trans h

/-- No batch of steps counts a frame. -/
theorem frames_runSteps (m : Machine) (count : Nat) :
    (m.runSteps count).machine.screen.frames = m.screen.frames :=
  runSteps_preserves (P := fun n => n.screen.frames = m.screen.frames)
    (fun n h => (frames_step n).trans h) rfl count

/-- No instruction presents the screen. -/
theorem render_not_mem_fetchExecute (m : Machine) : .render ∉ m.fetchExecute.events := by
  intro h
  rcases mem_fetchExecute h with h | ⟨i, h⟩ | ⟨fault, h⟩ | h
  all_goals cases h

/-- No step presents the screen. -/
theorem ne_render_of_mem_step (m : Machine) : ∀ event ∈ m.step.events, event ≠ .render := by
  rintro event h rfl
  cases m.stepped with
  | halted fault hf hr =>
    rw [hr] at h
    cases h
  | waiting register hf hk hs hr =>
    rw [hr] at h
    simp at h
  | resumed register key hf hk hs hr =>
    rw [hr] at h
    rcases List.mem_append.1 h with h | h
    · simp [resumption] at h
    · exact render_not_mem_fetchExecute _ h
  | running hf hk hr =>
    rw [hr] at h
    exact render_not_mem_fetchExecute m h

/-! ## Batches and frames that fail -/

/-- A batch that fails is a chain of steps and a last step that fails. -/
theorem steps_of_runSteps_error {count : Nat} (h : (m.runSteps count).result = .error fault) :
    ∃ done events m', done < count ∧ Steps m done events m' ∧ m'.step.result = .error fault ∧
      m.runSteps count = m'.step.behind events := by
  cases count with
  | zero => cases h
  | succ count =>
    obtain ⟨done, events, m', hle, hsteps, hrun, -⟩ := runSteps_succ m count
    rw [hrun] at h
    exact ⟨done, events, m', Nat.lt_succ_of_le hle, hsteps, h, hrun⟩

/-- A frame that fails is the batch that fails, without an end of the frame. -/
theorem cycle_eq_of_error (hf : m.fault = none) (h : m.cycle.result = .error fault) :
    (m.runSteps m.config.speed).result = .error fault ∧
      m.cycle.machine = (m.runSteps m.config.speed).machine ∧
      m.cycle.events = (m.runSteps m.config.speed).events := by
  cases hr : (m.runSteps m.config.speed).result with
  | error failure =>
    rw [cycle_of_error hf hr] at h ⊢
    cases h
    exact ⟨rfl, rfl, rfl⟩
  | ok flow =>
    rw [cycle_of_ok hf hr] at h
    cases h

end Machine

/-! ## The buzzer -/

/-- A device hears events one after the other. -/
theorem ToneDevice.hearAll_append {δ : Type} [ToneDevice δ] (device : δ)
    (first second : List Event) :
    (hearAll device (first ++ second)).1 = (hearAll (hearAll device first).1 second).1 := by
  induction first generalizing device with
  | nil => rfl
  | cons event first ih =>
    rw [List.cons_append, hearAll_cons, hearAll_cons]
    exact ih _

namespace Buzzer

/-- A buzzer that is started plays, at the frequency that it played before if it did. -/
theorem playing_start (b : Buzzer) (hertz : Nat) :
    (b.start hertz).1.playing = some (b.playing.getD hertz) := by
  unfold start
  cases h : b.playing with
  | none => rfl
  | some hertz' => exact h

/-- A buzzer that is stopped is silent. -/
theorem playing_stop (b : Buzzer) : b.stop.1.playing = none := by
  unfold stop
  cases h : b.playing with
  | none => exact h
  | some hertz => rfl

/-- A buzzer that is stopped last is silent. -/
theorem playing_of_stopTone (b : Buzzer) (events : List Event) :
    (ToneDevice.hearAll b (events ++ [.stopTone])).1.playing = none := by
  rw [ToneDevice.hearAll_append, ToneDevice.hearAll_cons]
  exact playing_stop _

end Buzzer

namespace Headless

/-! ## Faults are atomic -/

/-- A fault of a machine with its buzzer: the machine crashes, after it has received the key that it
waited for if there is one, and the buzzer is silent. -/
inductive Faulted (h : Headless) (fault : Failure) (h' : Headless) : Prop
  /-- The machine does not wait. -/
  | running (hk : h.machine.keyWait = none) (hm : h.machine.Crashes fault h'.machine)
      (hb : h'.buzzer.playing = none)
  /-- The machine waits, and its key was delivered. -/
  | resumed (register : UInt8) (key : Key) (hk : h.machine.keyWait = some register)
      (hs : h.machine.keypad.slot = .delivered key)
      (hm : (h.machine.resume register key).Crashes fault h'.machine)
      (hb : h'.buzzer.playing = none)

/-- A number of steps succeed, and the step after them fails and is all that is left to happen. -/
def FailsAfter (h : Headless) (done : Nat) (fault : Failure) (h' : Headless) : Prop :=
  (∃ flow, flow ≠ .keyWait ∧ (h.perform (.runSteps done)).result = .ok (.flow flow)) ∧
  (h.perform (.runSteps done)).after.machine.fault = none ∧
  ((h.perform (.runSteps done)).after.perform .step).result = .error fault ∧
  ((h.perform (.runSteps done)).after.perform .step).after = h' ∧
  (h.perform (.runSteps done)).after.Faulted fault h'

variable {h : Headless} {fault : Failure}

/-- A step that fails is a fault. -/
theorem faulted_of_step (hf : h.machine.fault = none)
    (hr : (h.perform .step).result = .error fault) : h.Faulted fault (h.perform .step).after := by
  have hresult : h.machine.step.result = .error fault := Reaction.map_eq_error.1 hr
  have hmachine : (h.perform .step).after.machine = h.machine.step.machine := rfl
  have hbuzzer : (h.perform .step).after.buzzer =
      (ToneDevice.hearAll h.buzzer h.machine.step.events).1 := rfl
  cases h.machine.stepped with
  | halted failure hfault hstep =>
    rw [hf] at hfault
    cases hfault
  | waiting register _ hk hs hstep =>
    rw [hstep] at hresult
    cases hresult
  | resumed register key _ hk hs hstep =>
    rw [hstep] at hresult hmachine hbuzzer
    obtain ⟨hcrash, events, hevents⟩ := Machine.crashes_of_fetchExecute hresult
    refine .resumed register key hk hs ?_ ?_
    · rw [hmachine]
      exact hcrash
    · rw [hbuzzer, Reaction.behind, hevents, ← List.append_assoc]
      exact Buzzer.playing_of_stopTone _ _
  | running _ hk hstep =>
    rw [hstep] at hresult hmachine hbuzzer
    obtain ⟨hcrash, events, hevents⟩ := Machine.crashes_of_fetchExecute hresult
    refine .running hk ?_ ?_
    · rw [hmachine]
      exact hcrash
    · rw [hbuzzer, hevents]
      exact Buzzer.playing_of_stopTone _ _

/-- A batch of steps that fails is a number of steps that succeed and a last step that fails. -/
theorem failsAfter_of_runSteps (hf : h.machine.fault = none) {count : Nat}
    (hr : (h.perform (.runSteps count)).result = .error fault) :
    ∃ done, done < count ∧ h.FailsAfter done fault (h.perform (.runSteps count)).after := by
  obtain ⟨done, events, m', hlt, hsteps, hfail, hrun⟩ :=
    Machine.steps_of_runSteps_error (Reaction.map_eq_error.1 hr)
  obtain ⟨flow, hflow, hdone⟩ := Machine.runSteps_of_steps hsteps
  -- the machine and its buzzer before the step that fails
  have hbefore : (h.perform (.runSteps done)).after =
      { machine := m', buzzer := (ToneDevice.hearAll h.buzzer events).1 } := by
    show Headless.mk (h.machine.runSteps done).machine
      (ToneDevice.hearAll h.buzzer (h.machine.runSteps done).events).1 = _
    rw [hdone]
  have hafter : (h.perform (.runSteps count)).after =
      ((h.perform (.runSteps done)).after.perform .step).after := by
    rw [hbefore]
    show Headless.mk (h.machine.runSteps count).machine
      (ToneDevice.hearAll h.buzzer (h.machine.runSteps count).events).1 = _
    rw [hrun]
    show Headless.mk m'.step.machine
      (ToneDevice.hearAll h.buzzer (events ++ m'.step.events)).1 = _
    rw [ToneDevice.hearAll_append]
    rfl
  have hmachine : (h.perform (.runSteps done)).after.machine = m' := by rw [hbefore]
  have hfault : (h.perform (.runSteps done)).after.machine.fault = none := by
    rw [hmachine]
    exact hsteps.fault_eq_none hf
  have hresult : ((h.perform (.runSteps done)).after.perform .step).result = .error fault := by
    apply Reaction.map_eq_error.2
    rw [hmachine]
    exact hfail
  refine ⟨done, hlt, ⟨flow, hflow, ?_⟩, hfault, hresult, hafter.symm, ?_⟩
  · show (h.machine.runSteps done).result.map Answer.flow = _
    rw [hdone]
    rfl
  · rw [hafter]
    exact faulted_of_step hfault hresult

/-- Faults are atomic. A step that fails leaves the machine as it was, but for the fault and the
program counter, or as it was after the key that it waited for was received; and the buzzer is
silent. The same holds for the step that fails within a batch of steps or a frame, and a frame that
fails ends as the batch of its steps does: it ends without its timers, its tone and its screen. -/
theorem faults_atomic (hf : h.machine.fault = none) (fault : Failure) :
    ((h.perform .step).result = .error fault → h.Faulted fault (h.perform .step).after) ∧
    (∀ count, (h.perform (.runSteps count)).result = .error fault →
      ∃ done, done < count ∧ h.FailsAfter done fault (h.perform (.runSteps count)).after) ∧
    ((h.perform .cycle).result = .error fault →
      (∃ done, done < h.machine.config.speed ∧
        h.FailsAfter done fault (h.perform .cycle).after) ∧
      (h.perform .cycle).after = (h.perform (.runSteps h.machine.config.speed)).after ∧
      .render ∉ (h.perform .cycle).events ∧
      (h.perform .cycle).after.machine.screen.frames = h.machine.screen.frames) := by
  refine ⟨faulted_of_step hf, fun count => failsAfter_of_runSteps hf, ?_⟩
  intro hr
  obtain ⟨hbatch, hmachine, hevents⟩ := Machine.cycle_eq_of_error hf (Reaction.map_eq_error.1 hr)
  have hafter :
      (h.perform .cycle).after = (h.perform (.runSteps h.machine.config.speed)).after := by
    show Headless.mk h.machine.cycle.machine
      (ToneDevice.hearAll h.buzzer h.machine.cycle.events).1 = _
    rw [hmachine, hevents]
    rfl
  have hrun : (h.perform (.runSteps h.machine.config.speed)).result = .error fault :=
    Reaction.map_eq_error.2 hbatch
  refine ⟨?_, hafter, ?_, ?_⟩
  · rw [hafter]
    exact failsAfter_of_runSteps hf hrun
  · show .render ∉ h.machine.cycle.events
    rw [hevents]
    exact fun hmem => Machine.forall_mem_runSteps Machine.ne_render_of_mem_step _ _ _ hmem rfl
  · show h.machine.cycle.machine.screen.frames = h.machine.screen.frames
    rw [hmachine]
    exact Machine.frames_runSteps _ _

/-- A program sets the sound timer, waits for a key and returns from no subroutine. The frame that
resumes it fails: the key is in its register, the program counter is past the return, the tone is
off, and neither timer nor frame was counted. -/
theorem faults_atomic_resumed :
    let h := ((((new {} (.ofSeed 0)).perform
      (.load [0x60, 0x05, 0xF0, 0x18, 0xF1, 0x0A, 0x00, 0xEE])).after.perform .cycle).after.perform
        (.pressKey 7)).after
    let h' := (h.perform .cycle).after
    (h.machine.fault = none ∧ (h.perform .cycle).result = .error (.stackUnderflow 0x206)) ∧
    (∃ done, done < 10 ∧ h.FailsAfter done (.stackUnderflow 0x206) h') ∧
    (h'.machine.reg 1 = 7 ∧ h'.machine.pc = 0x208 ∧ h'.machine.sound = 5 ∧
      h'.machine.screen.frames = 1) ∧
    (h.buzzer.playing = some 440 ∧ h'.buzzer.playing = none) := by
  intro h h'
  have hf : h.machine.fault = none := by decide +kernel
  have hr : (h.perform .cycle).result = .error (.stackUnderflow 0x206) := by decide +kernel
  have hspeed : h.machine.config.speed = 10 := by decide +kernel
  obtain ⟨-, -, hcycle⟩ := faults_atomic hf (.stackUnderflow 0x206)
  obtain ⟨⟨done, hlt, hfails⟩, -, -, -⟩ := hcycle hr
  rw [hspeed] at hlt
  refine ⟨⟨hf, hr⟩, ⟨done, hlt, hfails⟩, ?_, ?_⟩
  · decide +kernel
  · decide +kernel

end Headless

end ChipEight
