/-
# The execution trace

Every instruction that is fetched and decoded leaves one line in the trace, also if it fails
afterwards; nothing else does. The line shows the program counter and the word there as they are
just before the instruction, so a program that overwrites itself is traced as it is executed. A step
has a line or none (`Machine.traced_step`), and a batch has the lines of its steps in their order.
Since a step that ends a batch leaves a machine behind that has no more lines, the batch may be told
by as many steps as it was asked for (`Machine.traced_runFrom`). The main statement is
`Headless.trace_of_steps`.
-/
import ChipEight.Proofs.Batch
import ChipEight.Proofs.Hexadecimal

namespace ChipEight

/-! ## Lines of the trace -/

/-- The line of an event in the trace, if it has one. -/
def Event.traceText? : Event → Option String
  | executing address opcode instruction => some (traceMessage address opcode instruction)
  | _ => none

/-- The messages of a log that belong to the trace. -/
def Log.traced (log : List Log.Entry) : List String :=
  (log.filter fun entry => entry.level = .trace).map Log.Entry.message

namespace Machine

variable {m : Machine} {i : Instruction} {flow : Flow} {failure : Failure}

instance (m : Machine) : Decidable m.Stalls :=
  decidable_of_iff (m.fault = none ∧ m.isPaused ∧ ∀ key, m.keypad.slot ≠ .delivered key)
    ⟨fun h => ⟨h.1, h.2.1, h.2.2⟩, fun h => ⟨h.fault, h.paused, h.slot⟩⟩

/-- The instruction at the program counter, if the word there lies in memory and stands for one. -/
def next? (m : Machine) : Option Instruction :=
  if m.pc + 2 ≤ memorySize then Instruction.decode? (m.memory.word m.pc) else none

/-- The line of the next step in the trace, if it has one: the machine is not halted and does not
stall, and there is an instruction at its program counter. -/
def line? (m : Machine) : Option String :=
  if m.fault = none ∧ ¬ m.Stalls then
    m.next?.map (Event.traceMessage m.pc (m.memory.word m.pc))
  else
    none

/-- The machine after a number of steps. -/
def afterSteps (m : Machine) : Nat → Machine
  | 0 => m
  | k + 1 => m.step.machine.afterSteps k

/-- The lines of a number of steps. -/
def lines (m : Machine) (count : Nat) : List String :=
  (List.range count).filterMap fun k => (m.afterSteps k).line?

/-- A line shows an instruction of a machine: the program counter in at least three upper-case
hexadecimal digits, the word there in four, and the mnemonic. -/
def Shows (m : Machine) (i : Instruction) (line : String) : Prop :=
  ∃ address word,
    Text.IsUpperHex 3 m.pc address ∧
    Text.IsUpperHex 4 (m.memory.word m.pc).toNat word ∧ word.length = 4 ∧
    line = String.ofList address ++ ": " ++ String.ofList word ++ " " ++ i.mnemonic

/-- The machine is about to execute the instruction at its program counter. -/
theorem next?_eq_some_iff : m.next? = some i ↔ m.AboutTo i := by
  unfold next? AboutTo
  split
  next h => simp [h]
  next h => simp [h]

/-- The line of a step shows the instruction that the machine is about to execute. -/
theorem shows_of_line? {line : String} (h : m.line? = some line) :
    ∃ i, m.AboutTo i ∧ m.Shows i line := by
  unfold line? at h
  split at h
  · obtain ⟨i, hi, rfl⟩ := Option.map_eq_some_iff.1 h
    have hword : (m.memory.word m.pc).toNat < 16 ^ 4 := UInt16.toNat_lt _
    exact ⟨i, next?_eq_some_iff.1 hi, _, _, Text.isUpperHex_upperHexDigits 3 _,
      Text.isUpperHex_upperHexDigits 4 _, Text.length_upperHexDigits (by decide) hword, rfl⟩
  · cases h

/-! ## Machines without a line -/

/-- The step of a halted machine has no line. -/
theorem line?_of_halted {fault : Failure} (hf : m.fault = some fault) : m.line? = none := by
  simp [line?, hf]

/-- The step of a machine that stalls has no line. -/
theorem line?_of_stalls (h : m.Stalls) : m.line? = none := by
  simp [line?, h]

/-- The step of any other machine has a line if there is an instruction at the program counter. -/
theorem line?_of_goesOn (hf : m.fault = none) (hs : ¬ m.Stalls) :
    m.line? = m.next?.map (Event.traceMessage m.pc (m.memory.word m.pc)) :=
  if_pos ⟨hf, hs⟩

/-- A machine that does not wait does not stall. -/
theorem not_stalls_of_keyWait (hk : m.keyWait = none) : ¬ m.Stalls := by
  intro h
  have hpaused := h.paused
  simp [isPaused, hk] at hpaused

/-! ## Lines of steps -/

/-- What an instruction causes by itself leaves no line. -/
theorem traced_of_isInner {events : List Event} (h : ∀ event ∈ events, event.isInner) :
    events.filterMap Event.traceText? = [] := by
  rw [List.filterMap_eq_nil_iff]
  intro event hevent
  have hinner := h event hevent
  cases event with
  | executing => simp [Event.isInner] at hinner
  | _ => rfl

/-- Fetching, decoding and executing leaves the line of the instruction, if there is one. -/
theorem traced_fetchExecute (m : Machine) :
    m.fetchExecute.events.filterMap Event.traceText? =
      (m.next?.map (Event.traceMessage m.pc (m.memory.word m.pc))).toList := by
  cases m.fetched with
  | outside hpc hr =>
    rw [hr, next?, if_neg (by omega)]
    rfl
  | unknown hpc hd hr =>
    rw [hr, next?, if_pos hpc, hd]
    rfl
  | refused i failure hi hrefused hr =>
    rw [hr, next?_eq_some_iff.2 hi]
    rfl
  | executed i e hi he hr =>
    rw [hr, next?_eq_some_iff.2 hi]
    show Event.traceMessage _ _ i :: e.events.filterMap Event.traceText? = _
    rw [traced_of_isInner (steered_of_effect he).events]
    rfl

/-- A step leaves its line, if it has one. -/
theorem traced_step (m : Machine) :
    m.step.events.filterMap Event.traceText? = m.line?.toList := by
  cases m.stepped with
  | halted fault hf hr =>
    rw [hr, line?_of_halted hf]
    rfl
  | waiting register hf hk hs hr =>
    have hstalls : m.Stalls := ⟨hf, by simp [isPaused, hk], hs⟩
    rw [hr, line?_of_stalls hstalls]
    rfl
  | resumed register key hf hk hs hr =>
    -- the key goes to a register, so the instruction at the program counter is the same
    rw [hr, line?_of_goesOn hf fun h => h.slot key hs]
    exact (m.resume register key).traced_fetchExecute
  | running hf hk hr =>
    rw [hr, line?_of_goesOn hf (not_stalls_of_keyWait hk)]
    exact m.traced_fetchExecute

/-! ## Lines and results -/

/-- What is executed was decoded. -/
theorem isSome_next?_of_ok (h : m.fetchExecute.result = .ok flow) : m.next?.isSome := by
  cases m.fetched with
  | outside hpc hr | unknown hpc hd hr | refused i failure hi hrefused hr =>
    rw [hr] at h
    cases h
  | executed i e hi he hr =>
    rw [next?_eq_some_iff.2 hi]
    rfl

/-- An instruction that fails on the call stack or on an access to data was decoded; where the fetch
or the decoding fails, there is none. -/
theorem isSome_next?_of_error (h : m.fetchExecute.result = .error failure) :
    m.next?.isSome ↔
      failure = .stackUnderflow m.pc ∨ failure = .stackOverflow m.pc ∨
        (∃ a, failure = .memoryOutOfBounds a) ∧ m.pc + 2 ≤ memorySize := by
  cases m.fetched with
  | outside hpc hr =>
    rw [hr] at h
    cases h
    have hnot : ¬ m.pc + 2 ≤ memorySize := by omega
    simp [next?, hnot]
  | unknown hpc hd hr =>
    rw [hr] at h
    cases h
    simp [next?, hd]
  | refused i failure' hi hrefused hr =>
    rw [hr] at h
    cases h
    rw [next?_eq_some_iff.2 hi]
    simp only [Option.isSome_some, true_iff]
    rcases hrefused with _ | _ | _
    · exact Or.inl rfl
    · exact Or.inr (Or.inl rfl)
    · exact Or.inr (Or.inr ⟨⟨_, rfl⟩, hi.1⟩)
  | executed i e hi he hr =>
    rw [hr] at h
    cases h

/-- A step that succeeds has a line, unless the machine stalls. -/
theorem isSome_line?_of_ok (h : m.step.result = .ok flow) : m.line?.isSome ↔ ¬ m.Stalls := by
  constructor
  · intro hline hs
    simp [line?_of_stalls hs] at hline
  · intro hs
    cases m.stepped with
    | halted fault hf hr =>
      rw [hr] at h
      cases h
    | waiting register hf hk hslot hr =>
      exact absurd ⟨hf, by simp [isPaused, hk], hslot⟩ hs
    | resumed register key hf hk hslot hr =>
      rw [hr] at h
      rw [line?_of_goesOn hf hs, Option.isSome_map]
      exact isSome_next?_of_ok (m := m.resume register key) h
    | running hf hk hr =>
      rw [hr] at h
      rw [line?_of_goesOn hf hs, Option.isSome_map]
      exact isSome_next?_of_ok h

/-- A step that fails has a line if it fails on the call stack or on an access to data. -/
theorem isSome_line?_of_error (hf : m.fault = none) (h : m.step.result = .error failure) :
    m.line?.isSome ↔
      failure = .stackUnderflow m.pc ∨ failure = .stackOverflow m.pc ∨
        (∃ a, failure = .memoryOutOfBounds a) ∧ m.pc + 2 ≤ memorySize := by
  cases m.stepped with
  | halted fault hfault hr =>
    simp [hf] at hfault
  | waiting register _ hk hslot hr =>
    rw [hr] at h
    cases h
  | resumed register key _ hk hslot hr =>
    rw [hr] at h
    rw [line?_of_goesOn hf fun h => h.slot key hslot, Option.isSome_map]
    exact isSome_next?_of_error (m := m.resume register key) h
  | running _ hk hr =>
    rw [hr] at h
    rw [line?_of_goesOn hf (not_stalls_of_keyWait hk), Option.isSome_map]
    exact isSome_next?_of_error h

/-! ## Lines of batches -/

/-- The first step comes before the others. -/
theorem lines_succ (m : Machine) (count : Nat) :
    m.lines (count + 1) = m.line?.toList ++ m.step.machine.lines count := by
  rw [lines, List.range_succ_eq_map, List.filterMap_cons, List.filterMap_map]
  cases hline : (m.afterSteps 0).line? with
  | none =>
    rw [show m.line? = none from hline]
    rfl
  | some line =>
    rw [show m.line? = some line from hline]
    rfl

/-- A machine that is halted or stalls stays as it is, and has no lines. -/
theorem lines_of_stuck (h : m.isHalted ∨ m.Stalls) (count : Nat) :
    m.lines count = [] ∧ m.afterSteps count = m := by
  have hstep : m.line? = none ∧ m.step.machine = m := by
    rcases h with h | h
    · obtain ⟨fault, hf⟩ := Option.isSome_iff_exists.1 h
      rw [step_of_fault hf]
      exact ⟨line?_of_halted hf, rfl⟩
    · obtain ⟨register, hk⟩ := Option.isSome_iff_exists.1 h.paused
      rw [step_of_waiting h.fault hk h.slot]
      exact ⟨line?_of_stalls h, rfl⟩
  induction count with
  | zero => exact ⟨rfl, rfl⟩
  | succ count ih =>
    rw [lines_succ, afterSteps, hstep.1, hstep.2]
    exact ih

/-- A step that ends its batch leaves a machine behind that is halted or stalls. -/
theorem stuck_of_stops (h : m.step.Stops) :
    m.step.machine.isHalted ∨ m.step.machine.Stalls := by
  rcases h with h | ⟨fault, h⟩
  · exact Or.inr (stalls_of_step h)
  · left
    rw [isHalted, fault_of_step_error h]
    rfl

/-- A batch leaves the lines of as many steps as it was asked for, and the machine after them. -/
theorem traced_runFrom (flow : Flow) (count : Nat) (m : Machine) :
    (runFrom flow #[] count m).events.filterMap Event.traceText? = m.lines count ∧
      (runFrom flow #[] count m).machine = m.afterSteps count := by
  induction count generalizing flow m with
  | zero => exact ⟨rfl, rfl⟩
  | succ count ih =>
    rw [lines_succ, afterSteps, ← traced_step]
    rcases stops_or_ok m.step with h | ⟨next, h, hnext⟩
    · -- the batch ends here, and the steps that it does not take would change nothing
      obtain ⟨hlines, hafter⟩ := lines_of_stuck (stuck_of_stops h) count
      rw [runFrom_of_stops h, hlines, hafter, List.append_nil]
      exact ⟨rfl, rfl⟩
    · obtain ⟨hlines, hafter⟩ := ih next m.step.machine
      rw [runFrom_of_ok h hnext, ← hlines, ← hafter]
      exact ⟨List.filterMap_append, rfl⟩

/-- The end of a frame leaves no line. -/
theorem traced_endFrame (m : Machine) : m.endFrame.2.filterMap Event.traceText? = [] := by
  rw [List.filterMap_eq_nil_iff]
  intro event hevent
  rcases mem_endFrame hevent with ⟨hertz, rfl⟩ | rfl | rfl
  all_goals rfl

/-- A frame leaves the lines of its steps. -/
theorem traced_cycle (m : Machine) :
    m.cycle.events.filterMap Event.traceText? = m.lines m.config.speed := by
  obtain ⟨hlines, -⟩ := traced_runFrom .ok m.config.speed m
  rw [← hlines]
  cases hf : m.fault with
  | some fault =>
    have hstuck : m.isHalted := by simp [isHalted, hf]
    rw [cycle_of_fault hf, hlines, (lines_of_stuck (Or.inl hstuck) _).1]
    rfl
  | none =>
    cases hr : (m.runSteps m.config.speed).result with
    | error failure =>
      rw [cycle_of_error hf hr]
      rfl
    | ok flow =>
      rw [cycle_of_ok hf hr]
      show ((m.runSteps m.config.speed).events ++ _).filterMap Event.traceText? = _
      rw [List.filterMap_append, traced_endFrame, List.append_nil]
      rfl

end Machine

/-! ## The trace in the log -/

namespace Headless

/-- Messages that were logged before come first. -/
theorem traced_append (first second : List Log.Entry) :
    Log.traced (first ++ second) = Log.traced first ++ Log.traced second := by
  rw [Log.traced, List.filter_append, List.map_append]
  rfl

/-- What is logged about an event belongs to the trace if the event has a line. -/
theorem traced_hear (b : Buzzer) (event : Event) :
    Log.traced (ToneDevice.hear b event).2 = event.traceText?.toList := by
  cases event with
  | startTone hertz =>
    show Log.traced (b.start hertz).2 = []
    unfold Buzzer.start
    split <;> rfl
  | stopTone =>
    show Log.traced b.stop.2 = []
    unfold Buzzer.stop
    split <;> rfl
  | _ => rfl

/-- The trace of a log consists of the lines of its events. -/
theorem traced_hearAll (b : Buzzer) (events : List Event) :
    Log.traced (ToneDevice.hearAll b events).2 = events.filterMap Event.traceText? := by
  induction events generalizing b with
  | nil => rfl
  | cons event events ih =>
    rw [ToneDevice.hearAll_cons, traced_append, traced_hear, ih, List.filterMap_cons]
    cases event.traceText? <;> rfl

/-- The trace is faithful. After any run, the trace messages of a batch are the lines of its steps
in their order, and those of a frame are the lines of its steps. At most one line belongs to a step:

* it shows the program counter, the word there and the instruction that this word stands for, all as
  they are just before the step;
* a halted machine has none;
* a step that succeeds has one, unless it is that of a machine that stalls;
* a step that fails has one exactly if it fails on the call stack or on an access to data. -/
theorem trace_of_steps (config : Config) (generator : Random.Generator) (before : List Action) :
    let h := (new config generator).after before
    (∀ count,
      Log.traced (h.perform (.runSteps count)).log = h.machine.lines count ∧
      (h.perform (.runSteps count)).after.machine = h.machine.afterSteps count) ∧
    Log.traced (h.perform .cycle).log = h.machine.lines config.speed ∧
    ∀ k,
      let m := h.machine.afterSteps k
      (∀ line, m.line? = some line → ∃ i, m.AboutTo i ∧ m.Shows i line) ∧
      (∀ fault, m.fault = some fault → m.line? = none) ∧
      (∀ flow, m.step.result = .ok flow → (m.line?.isSome ↔ ¬ m.Stalls)) ∧
      (∀ failure, m.fault = none → m.step.result = .error failure →
        (m.line?.isSome ↔
          failure = .stackUnderflow m.pc ∨ failure = .stackOverflow m.pc ∨
            (∃ a, failure = .memoryOutOfBounds a) ∧ m.pc + 2 ≤ memorySize)) := by
  intro h
  have hsound : h.machine.Sound config := by
    show ((new config generator).after before).machine.Sound config
    rw [machine_after]
    exact Machine.sound_after config generator before
  refine ⟨?_, ?_, ?_⟩
  · intro count
    obtain ⟨hlines, hafter⟩ := Machine.traced_runFrom .ok count h.machine
    refine ⟨?_, hafter⟩
    rw [← hlines]
    exact traced_hearAll h.buzzer _
  · have hcycle := h.machine.traced_cycle
    rw [hsound.config_eq] at hcycle
    rw [← hcycle]
    exact traced_hearAll h.buzzer _
  · intro k m
    exact ⟨fun _ => Machine.shows_of_line?, fun _ => Machine.line?_of_halted,
      fun _ => Machine.isSome_line?_of_ok, fun _ => Machine.isSome_line?_of_error⟩

/-- A program overwrites its last instruction but one, which is traced as it is then. The return
behind it fails, but it was decoded. -/
theorem trace_of_steps_rewritten :
    let program := [0x60, 0x00, 0xA2, 0x06, 0xF0, 0x55, 0x61, 0x05, 0x00, 0xEE]
    let h := (new {} (.ofSeed 0)).after [.load program]
    let m := h.machine.afterSteps 4
    h.machine.lines 9 =
        ["200: 6000 LD v0, 0", "202: A206 LD I, 0x206", "204: F055 LD [I], v0",
          "206: 0005 SYS 0x005", "208: 00EE RET"] ∧
      m.fault = none ∧ m.step.result = .error (.stackUnderflow m.pc) ∧ m.line?.isSome := by
  intro program h m
  obtain ⟨hbatch, -, hsteps⟩ := trace_of_steps {} (.ofSeed 0) [.load program]
  have hfault : m.fault = none := by decide +kernel
  have hresult : m.step.result = .error (.stackUnderflow m.pc) := by decide +kernel
  refine ⟨?_, hfault, hresult, ((hsteps 4).2.2.2 _ hfault hresult).2 (Or.inl rfl)⟩
  rw [← (hbatch 9).1]
  decide +kernel

end Headless

end ChipEight
