/-
# Halted machines

A fault halts a machine once and for all: until a program is loaded that fits into memory, every
step and every frame gives the same fault again, and nothing else happens. The fault is logged once,
by the action that raises it (`Machine.faults_perform`), so the errors in the log of a run are its
faults in order (`Headless.atLeast_error_log`).
-/
import ChipEight.Proofs.Signal

namespace ChipEight

namespace Machine

variable {m : Machine} {a : Action} {fault failure : Failure}

/-! ## Halted machines -/

/-- A halted machine refuses every step and every frame with its fault. -/
theorem perform_of_halted (hf : m.fault = some fault) (ha : a.runs) :
    m.perform a = { result := .error fault, machine := m } := by
  have hstep := step_of_fault hf
  cases a with
  | step =>
    rw [perform, hstep]
    rfl
  | runSteps count =>
    cases count with
    | zero => cases ha
    | succ count =>
      have hstops : m.step.Stops := by
        rw [hstep]
        exact Or.inr ⟨fault, rfl⟩
      rw [perform, runSteps, runFrom_of_stops hstops, hstep]
      rfl
  | cycle =>
    rw [perform, cycle_of_fault hf]
    rfl
  | _ => cases ha

/-- Only a program that fits into memory clears a fault. -/
theorem fault_perform_of_halted (hf : m.fault = some fault) (ha : ¬ a.replaces) :
    (m.perform a).machine.fault = some fault := by
  by_cases hruns : a.runs
  · rw [perform_of_halted hf hruns]
    exact hf
  · obtain ⟨memory, screen, keypad, hm⟩ := perform_frame (m := m) ha hruns
    rw [hm]
    exact hf

/-! ## Failures that are recorded -/

/-- What a step fails with is the fault that halts the machine. -/
theorem fault_of_step_error (h : m.step.result = .error failure) :
    m.step.machine.fault = some failure := by
  cases m.stepped with
  | halted fault hf hr =>
    rw [hr] at h ⊢
    cases h
    exact hf
  | waiting register hf hk hs hr =>
    rw [hr] at h
    cases h
  | resumed register key hf hk hs hr =>
    rw [hr] at h ⊢
    obtain ⟨⟨pc, -, hm⟩, -⟩ := crashes_of_fetchExecute h
    show (m.resume register key).fetchExecute.machine.fault = some failure
    rw [hm]
  | running hf hk hr =>
    rw [hr] at h ⊢
    obtain ⟨⟨pc, -, hm⟩, -⟩ := crashes_of_fetchExecute h
    rw [hm]

/-- What a batch of steps fails with is the fault that halts the machine. -/
theorem fault_of_runSteps_error {count : Nat} (h : (m.runSteps count).result = .error failure) :
    (m.runSteps count).machine.fault = some failure := by
  obtain ⟨done, events, m', -, -, hfail, hrun⟩ := steps_of_runSteps_error h
  rw [hrun]
  exact fault_of_step_error hfail

/-- What a frame fails with is the fault that halts the machine. -/
theorem fault_of_cycle_error (h : m.cycle.result = .error failure) :
    m.cycle.machine.fault = some failure := by
  cases hf : m.fault with
  | some fault =>
    rw [cycle_of_fault hf] at h ⊢
    cases h
    exact hf
  | none =>
    obtain ⟨hbatch, hmachine, -⟩ := cycle_eq_of_error hf h
    rw [hmachine]
    exact fault_of_runSteps_error hbatch

/-- Steps and frames fail with faults, and nothing else does. -/
theorem Sound.isFault_of_error {config : Config} (hm : m.Sound config)
    (h : (m.perform a).result = .error failure) : failure.isFault = a.runs := by
  have hrecorded := (hm.perform a).isFault failure
  cases a with
  | step => exact hrecorded (fault_of_step_error (Reaction.map_eq_error.1 h))
  | runSteps count =>
    cases count with
    | zero => cases h
    | succ count => exact hrecorded (fault_of_runSteps_error (Reaction.map_eq_error.1 h))
  | cycle => exact hrecorded (fault_of_cycle_error (Reaction.map_eq_error.1 h))
  | load program =>
    have hload : (m.load program).result = .error failure := Reaction.map_eq_error.1 h
    by_cases hsize : program.length ≤ maxProgramSize
    · rw [(load_of_le hsize).1] at hload
      cases hload
    · rw [load_of_gt (Nat.lt_of_not_le hsize)] at hload
      cases hload
      rfl
  | loadFont font =>
    have hload : (m.loadFont font).result = .error failure := Reaction.map_eq_error.1 h
    by_cases hsize : font.length = fontSize
    · rw [loadFont_of_eq hsize] at hload
      cases hload
    · rw [loadFont_of_ne hsize] at hload
      cases hload
      rfl
  | _ => cases h

end Machine

/-! ## Faults that are raised -/

/-- The fault that an event reports, if it reports one. -/
def Event.fault? : Event → Option Failure
  | halted fault => some fault
  | _ => none

namespace Machine

/-- What reports a fault is a signal. -/
theorem filterMap_fault?_filter (events : List Event) :
    (events.filter Event.isSignal).filterMap Event.fault? = events.filterMap Event.fault? := by
  rw [List.filterMap_filter]
  congr 1
  funext event
  cases event <;> rfl

/-- The end of a frame reports no fault. -/
theorem filterMap_fault?_frameSignals (m : Machine) :
    m.frameSignals.filterMap Event.fault? = [] := by
  unfold frameSignals
  rcases m.toneCall_cases with hcall | hcall
  · rw [hcall]
    rfl
  · rw [hcall]
    rfl

/-- Every action reports the fault that it raises, and reports it once. -/
theorem faults_perform (m : Machine) (a : Action) :
    (m.perform a).events.filterMap Event.fault? = m.raised (m.perform a).machine := by
  have hframe : (if m.endsFrame a then (m.perform a).machine.frameSignals else []).filterMap
      Event.fault? = [] := by
    split
    · exact filterMap_fault?_frameSignals _
    · rfl
  have hfault : ∀ faults : List Failure,
      (faults.flatMap Failure.signals).filterMap Event.fault? = faults := by
    intro faults
    rw [List.filterMap_flatMap]
    exact List.flatMap_singleton' faults
  rw [← filterMap_fault?_filter, signals_perform, List.filterMap_append, hframe, hfault,
    List.append_nil]

end Machine

/-! ## Runs of a machine and its buzzer -/

namespace Headless

/-- The report of an action that was refused: nothing changed, and nothing happened. -/
def refusal (h : Headless) (failure : Failure) : Report :=
  { result := .error failure, after := h, events := [], log := [] }

/-- The machine and its buzzer after a run. -/
def after (h : Headless) : List Action → Headless
  | [] => h
  | a :: actions => (h.perform a).after.after actions

/-- The log of a run. -/
def log (h : Headless) : List Action → List Log.Entry
  | [] => []
  | a :: actions => (h.perform a).log ++ (h.perform a).after.log actions

/-- The faults that halt the machine during a run. -/
def faults (h : Headless) : List Action → List Failure
  | [] => []
  | a :: actions =>
    h.machine.raised (h.perform a).after.machine ++ (h.perform a).after.faults actions

/-- The entry that tells about a fault. -/
def haltedEntry (fault : Failure) : Log.Entry := ⟨.error, "halted: " ++ fault.message⟩

variable {h : Headless} {a : Action} {fault : Failure}

/-- The machine does not depend on its buzzer. -/
theorem machine_after (h : Headless) (actions : List Action) :
    (h.after actions).machine = h.machine.after actions := by
  induction actions generalizing h with
  | nil => rfl
  | cons a actions ih => exact ih (h.perform a).after

/-- If the machine reacts with a failure and nothing else, the action is refused. -/
theorem perform_eq_refusal
    (hr : h.machine.perform a = { result := .error fault, machine := h.machine }) :
    h.perform a = h.refusal fault := by
  rw [perform, hr]
  rfl

/-- An event is logged as an error if it reports a fault. -/
theorem atLeast_error_hear (b : Buzzer) (event : Event) :
    Log.atLeast .error (ToneDevice.hear b event).2 = event.fault?.toList.map haltedEntry := by
  cases event with
  | startTone hertz =>
    show Log.atLeast .error (b.start hertz).2 = []
    unfold Buzzer.start
    split <;> rfl
  | stopTone =>
    show Log.atLeast .error b.stop.2 = []
    unfold Buzzer.stop
    split <;> rfl
  | _ => rfl

/-- The errors in a log are the faults that its events report. -/
theorem atLeast_error_hearAll (b : Buzzer) (events : List Event) :
    Log.atLeast .error (ToneDevice.hearAll b events).2 =
      (events.filterMap Event.fault?).map haltedEntry := by
  induction events generalizing b with
  | nil => rfl
  | cons event events ih =>
    have hfirst := atLeast_error_hear b event
    have hrest := ih (ToneDevice.hear b event).1
    rw [ToneDevice.hearAll_cons, Log.atLeast, List.filter_append, ← Log.atLeast, ← Log.atLeast,
      hfirst, hrest, List.filterMap_cons]
    cases event.fault? <;> rfl

/-- The errors in the log of an action are the faults that it raises. -/
theorem atLeast_error_perform (h : Headless) (a : Action) :
    Log.atLeast .error (h.perform a).log =
      (h.machine.raised (h.perform a).after.machine).map haltedEntry := by
  have hevents := h.machine.faults_perform a
  show Log.atLeast .error (ToneDevice.hearAll h.buzzer (h.machine.perform a).events).2 =
    (h.machine.raised (h.machine.perform a).machine).map haltedEntry
  rw [atLeast_error_hearAll, hevents]

/-- The errors in the log of a run are the faults that it raises, in order. -/
theorem atLeast_error_log (h : Headless) (actions : List Action) :
    Log.atLeast .error (h.log actions) = (h.faults actions).map haltedEntry := by
  induction actions generalizing h with
  | nil => rfl
  | cons a actions ih =>
    have hfirst := atLeast_error_perform h a
    have hrest := ih (h.perform a).after
    rw [log, faults, Log.atLeast, List.filter_append, ← Log.atLeast, ← Log.atLeast, hfirst, hrest,
      List.map_append]

/-- Until a program is loaded, a halted machine keeps its fault, and no fault is raised. -/
theorem after_of_halted (hf : h.machine.fault = some fault) {later : List Action}
    (hlater : ∀ a ∈ later, ¬ a.replaces) :
    (h.after later).machine.fault = some fault ∧ h.faults later = [] := by
  induction later generalizing h with
  | nil => exact ⟨hf, rfl⟩
  | cons a later ih =>
    have hnext := Machine.fault_perform_of_halted hf (hlater a List.mem_cons_self)
    obtain ⟨hfault, hfaults⟩ :=
      ih (h := (h.perform a).after) hnext fun b hb => hlater b (List.mem_cons_of_mem a hb)
    refine ⟨hfault, ?_⟩
    rw [faults, Machine.raised_of_halted hf, hfaults, List.nil_append]

/-! ## Halted until a program is loaded -/

/-- After any run, a machine and its buzzer treat faults and refusals as follows.

* A halted machine refuses every step and every frame with its fault, during any further run that
  loads no program that fits into memory; and during that run no error is logged.
* A program that fits is loaded, and any other is refused with its size; a font of the right size is
  loaded, and any other is refused with its size.
* What steps and frames fail with is a fault, and what loading fails with is none.
* A fault is cleared by the loading of a program that fits, and by nothing else.
* The errors in the log, from when the machine was switched on, are its faults, each one once. -/
theorem halted_until_loaded (config : Config) (generator : Random.Generator)
    (before : List Action) :
    let h := (new config generator).after before
    (∀ fault, h.machine.fault = some fault →
      ∀ later : List Action, (∀ a ∈ later, ¬ a.replaces) →
        (h.after later).machine.fault = some fault ∧
        Log.atLeast .error (h.log later) = [] ∧
        ∀ a : Action, a.runs → (h.after later).perform a = (h.after later).refusal fault) ∧
    (∀ program : List UInt8,
      (program.length ≤ maxProgramSize → (h.perform (.load program)).result = .ok .done) ∧
      (maxProgramSize < program.length →
        h.perform (.load program) = h.refusal (.programTooLarge program.length))) ∧
    (∀ font : List UInt8,
      (font.length = fontSize → (h.perform (.loadFont font)).result = .ok .done) ∧
      (font.length ≠ fontSize →
        h.perform (.loadFont font) = h.refusal (.wrongFontSize font.length))) ∧
    (∀ (a : Action) failure, (h.perform a).result = .error failure → failure.isFault = a.runs) ∧
    (∀ fault, h.machine.fault = some fault →
      ∀ a : Action, (h.perform a).after.machine.fault =
        if a.replaces then none else some fault) ∧
    Log.atLeast .error ((new config generator).log before) =
      ((new config generator).faults before).map haltedEntry := by
  intro h
  have hsound : h.machine.Sound config := by
    rw [machine_after]
    exact Machine.sound_after config generator before
  refine ⟨?_, ?_, ?_, ?_, ?_, atLeast_error_log (new config generator) before⟩
  · intro fault hf later hlater
    obtain ⟨hfault, hfaults⟩ := after_of_halted hf hlater
    refine ⟨hfault, ?_, ?_⟩
    · rw [atLeast_error_log, hfaults, List.map_nil]
    · intro a ha
      exact perform_eq_refusal (Machine.perform_of_halted hfault ha)
  · intro program
    constructor
    · intro hsize
      exact congrArg (Except.map _) (Machine.load_of_le hsize).1
    · intro hsize
      apply perform_eq_refusal
      rw [Machine.perform, Machine.load_of_gt hsize]
      rfl
  · intro font
    constructor
    · intro hsize
      exact congrArg (Except.map _) (Machine.loadFont_of_eq hsize)
    · intro hsize
      apply perform_eq_refusal
      rw [Machine.perform, Machine.loadFont_of_ne hsize]
      rfl
  · intro a failure hr
    exact hsound.isFault_of_error hr
  · intro fault hf a
    split
    next ha =>
      cases a with
      | load program => exact (Machine.load_of_le (Action.replaces_load.1 ha)).2
      | _ => cases ha
    next ha => exact Machine.fault_perform_of_halted hf ha

/-- A program returns from no subroutine. Neither a program that is one byte too large nor a new
font revives the machine, a program that fits does, and the return was logged once. -/
theorem halted_until_loaded_underflow :
    let before := [Action.load [0x00, 0xEE], .cycle]
    let later := [Action.step, .load (List.replicate 3585 0), .loadFont (List.replicate 80 0xFF),
      .pressKey 5, .runSteps 3]
    let h := (new {} (.ofSeed 0)).after before
    (h.machine.fault = some (.stackUnderflow 0x200) ∧ ∀ a ∈ later, ¬ a.replaces) ∧
    (h.after later).perform .cycle = (h.after later).refusal (.stackUnderflow 0x200) ∧
    h.perform (.load (List.replicate 3585 0)) = h.refusal (.programTooLarge 3585) ∧
    (h.perform (.load [0x60, 0x01])).after.machine.fault = none ∧
    Log.atLeast .error ((new {} (.ofSeed 0)).log before) =
      [⟨.error, "halted: call stack underflow at address 200"⟩] := by
  intro before later
  dsimp only
  have hf : ((new {} (.ofSeed 0)).after before).machine.fault = some (.stackUnderflow 0x200) := by
    decide +kernel
  have hsize : maxProgramSize < (List.replicate 3585 (0 : UInt8)).length := by
    rw [List.length_replicate]
    decide
  have hlarge : ¬ (Action.load (List.replicate 3585 0)).replaces :=
    mt Action.replaces_load.1 (Nat.not_le_of_lt hsize)
  have hlater : ∀ a ∈ later, ¬ a.replaces := by
    rw [List.forall_mem_cons, List.forall_mem_cons]
    exact ⟨by decide, hlarge, by decide⟩
  have hfaults : (new {} (.ofSeed 0)).faults before = [.stackUnderflow 0x200] := by decide +kernel
  have hentry : haltedEntry (.stackUnderflow 0x200) =
      ⟨.error, "halted: call stack underflow at address 200"⟩ := by
    decide +kernel
  obtain ⟨hhalted, hload, -, -, hclear, hlog⟩ := halted_until_loaded {} (.ofSeed 0) before
  have hrefused := (hload (List.replicate 3585 0)).2 hsize
  rw [List.length_replicate] at hrefused
  have hcleared := hclear _ hf (.load [0x60, 0x01])
  rw [if_pos (show (Action.load [0x60, 0x01]).replaces by decide)] at hcleared
  refine ⟨⟨hf, hlater⟩, ?_, hrefused, hcleared, ?_⟩
  · exact (hhalted _ hf later hlater).2.2 .cycle rfl
  · rw [hlog, hfaults, List.map_singleton, hentry]

end Headless

end ChipEight
