/-
# Signals

Most of what happens inside a machine belongs to one instruction. Four events do not: a fault, the
two calls on the tone, and the presenting of the screen. They are the signals of a machine, and an
action gives few of them (`Machine.signals_perform`). One that raises a fault reports it and stops
the tone, a frame that ends calls the tone and presents the screen, and there are no others.
-/
import ChipEight.Proofs.Fault
import ChipEight.Proofs.Loading

namespace ChipEight

/-- An event that concerns the machine as a whole, and not one of its instructions. -/
def Event.isSignal : Event → Bool
  | halted _ | startTone _ | stopTone | render => true
  | _ => false

/-- The signals of a fault. -/
def Failure.signals (fault : Failure) : List Event := [.halted fault, .stopTone]

namespace Machine

variable {m : Machine} {events : List Event}

/-- The fault that halted a machine in the meantime, if one did. -/
def raised (before after : Machine) : List Failure :=
  match before.fault with
  | none => after.fault.toList
  | some _ => []

/-- A halted machine is not halted again. -/
theorem raised_of_halted {m' : Machine} {fault : Failure} (hf : m.fault = some fault) :
    m.raised m' = [] := by
  rw [raised, hf]

/-- A fault that was not there before was raised in the meantime. -/
theorem raised_of_running {m' : Machine} (hf : m.fault = none) :
    m.raised m' = m'.fault.toList := by
  rw [raised, hf]

/-- Where the fault stays as it is, none was raised. -/
theorem raised_of_eq {m' : Machine} (h : m'.fault = m.fault) : m.raised m' = [] := by
  cases hf : m.fault with
  | none => rw [raised_of_running hf, h, hf, Option.toList_none]
  | some fault => exact raised_of_halted hf

/-- Where no fault is left behind, none was raised. -/
theorem raised_of_fault_eq_none {m' : Machine} (h : m'.fault = none) : m.raised m' = [] := by
  cases hf : m.fault with
  | none => exact raised_of_eq (h.trans hf.symm)
  | some fault => exact raised_of_halted hf

/-! ## Signals of steps -/

/-- No event that an instruction causes by itself is a signal. -/
theorem signals_of_isInner (h : ∀ event ∈ events, event.isInner) :
    events.filter Event.isSignal = [] := by
  rw [List.filter_eq_nil_iff]
  intro event hevent
  have hinner := h event hevent
  cases event with
  | halted _ | startTone _ | stopTone | render => cases hinner
  | _ => exact Bool.false_ne_true

/-- Fetching, decoding and executing give the signals of the fault that they raise. -/
theorem signals_fetchExecute (hf : m.fault = none) :
    m.fetchExecute.events.filter Event.isSignal =
      (m.raised m.fetchExecute.machine).flatMap Failure.signals := by
  cases m.fetched with
  | outside hpc hr | unknown hpc hd hr | refused i failure hi hrefused hr =>
    rw [hr, raised_of_running hf]
    rfl
  | executed i e hi he hr =>
    have hs := steered_of_effect he
    have hfault : e.machine.fault = m.fault := hs.fault
    rw [hr, raised_of_eq hfault]
    show e.events.filter Event.isSignal = []
    exact signals_of_isInner hs.events

/-- A step gives the signals of the fault that it raises. -/
theorem signals_step (m : Machine) :
    m.step.events.filter Event.isSignal = (m.raised m.step.machine).flatMap Failure.signals := by
  cases m.stepped with
  | halted fault hf hr =>
    rw [hr, raised_of_eq rfl]
    rfl
  | waiting register hf hk hs hr =>
    rw [hr, raised_of_eq rfl]
    rfl
  | resumed register key hf hk hs hr =>
    rw [hr]
    exact signals_fetchExecute (m := m.resume register key) hf
  | running hf hk hr =>
    rw [hr]
    exact signals_fetchExecute hf

/-- A chain of steps gives no signal. -/
theorem Steps.signals {m' : Machine} {count : Nat} (h : Steps m count events m') :
    events.filter Event.isSignal = [] := by
  induction h with
  | refl m => rfl
  | head hr hflow h ih =>
    rw [List.filter_append, signals_step, raised_of_fault_eq_none (fault_of_step hr), ih]
    rfl

/-- A chain of steps raises no fault, so what is raised by its end is raised after it. -/
theorem Steps.raised {m' m'' : Machine} {count : Nat} (h : Steps m count events m') :
    m.raised m'' = m'.raised m'' := by
  cases h with
  | refl => rfl
  | head hr hflow h =>
    have hf' := h.fault_eq_none (fault_of_step hr)
    cases hf : m.fault with
    | none => rw [raised_of_running hf, raised_of_running hf']
    | some fault =>
      rw [step_of_fault hf] at hr
      cases hr

/-- A batch of steps gives the signals of the fault that it raises. -/
theorem signals_runSteps (m : Machine) (count : Nat) :
    (m.runSteps count).events.filter Event.isSignal =
      (m.raised (m.runSteps count).machine).flatMap Failure.signals := by
  cases count with
  | zero =>
    rw [runSteps_zero, raised_of_eq rfl]
    rfl
  | succ count =>
    obtain ⟨j, events, m', -, hsteps, hrun, -⟩ := runSteps_succ m count
    rw [hrun]
    show (events ++ m'.step.events).filter Event.isSignal =
      (m.raised m'.step.machine).flatMap Failure.signals
    rw [List.filter_append, hsteps.signals, signals_step, hsteps.raised, List.nil_append]

/-- A batch of steps that succeeds leaves no fault behind that was not there before. -/
theorem fault_of_runSteps (hf : m.fault = none) {count : Nat} {flow : Flow}
    (h : (m.runSteps count).result = .ok flow) : (m.runSteps count).machine.fault = none := by
  cases count with
  | zero => exact hf
  | succ count =>
    obtain ⟨j, events, m', -, -, hrun, -⟩ := runSteps_succ m count
    rw [hrun] at h ⊢
    exact fault_of_step h

/-! ## Signals of actions -/

/-- Whether an action is a frame that ends. -/
def endsFrame (m : Machine) : Action → Bool
  | .cycle => m.cycle.result.isOk
  | _ => false

/-- The signals of the end of a frame. -/
def frameSignals (m : Machine) : List Event := [m.toneCall, .render]

/-- At the end of a frame, the calls follow the machine as it is then. -/
theorem endFrame_snd (m : Machine) : m.endFrame.2 = m.endFrame.1.frameSignals := by
  unfold endFrame
  cases m.isPaused <;> rfl

/-- The end of a frame calls the tone and the screen, and does nothing else. -/
theorem signals_endFrame (m : Machine) :
    m.endFrame.2.filter Event.isSignal = m.endFrame.1.frameSignals := by
  rw [endFrame_snd, List.filter_eq_self]
  intro event hevent
  rw [← endFrame_snd] at hevent
  rcases mem_endFrame hevent with ⟨hertz, rfl⟩ | rfl | rfl
  all_goals rfl

/-- A frame that ends consists of its steps and its end, and leaves no fault behind. -/
theorem cycle_of_isOk (h : m.cycle.result.isOk) :
    m.cycle.machine.fault = none ∧
      m.cycle.machine = (m.runSteps m.config.speed).machine.endFrame.1 ∧
      m.cycle.events = (m.runSteps m.config.speed).events ++ m.cycle.machine.frameSignals ∧
      (m.runSteps m.config.speed).events.filter Event.isSignal = [] := by
  cases hf : m.fault with
  | some fault =>
    rw [cycle_of_fault hf] at h
    cases h
  | none =>
    cases hr : (m.runSteps m.config.speed).result with
    | error failure =>
      rw [cycle_of_error hf hr] at h
      cases h
    | ok flow =>
      have hf' := fault_of_runSteps hf hr
      have hquiet := signals_runSteps m m.config.speed
      rw [raised_of_fault_eq_none hf'] at hquiet
      rw [cycle_of_ok hf hr, endFrame_snd]
      exact ⟨(endFrame_frame _).2.2.trans hf', rfl, rfl, hquiet⟩

/-- A frame that does not end is refused, or it consists of its steps. -/
theorem cycle_of_not_isOk (h : ¬ m.cycle.result.isOk) :
    (∃ fault, m.fault = some fault ∧ m.cycle = { result := .error fault, machine := m }) ∨
      (m.fault = none ∧ m.cycle.machine = (m.runSteps m.config.speed).machine ∧
        m.cycle.events = (m.runSteps m.config.speed).events) := by
  cases hf : m.fault with
  | some fault => exact Or.inl ⟨fault, rfl, cycle_of_fault hf⟩
  | none =>
    obtain ⟨failure, hr⟩ := Reaction.exists_error h
    exact Or.inr ⟨rfl, (cycle_eq_of_error hf hr).2⟩

/-- A frame gives the signals of the fault that it raises, or of its end. -/
theorem signals_cycle (m : Machine) :
    m.cycle.events.filter Event.isSignal =
      (m.raised m.cycle.machine).flatMap Failure.signals ++
        if m.endsFrame .cycle then m.cycle.machine.frameSignals else [] := by
  by_cases hok : m.cycle.result.isOk
  · obtain ⟨hf', hm, hevents, hquiet⟩ := cycle_of_isOk hok
    rw [endsFrame, if_pos hok, raised_of_fault_eq_none hf', hevents, List.filter_append, hquiet, hm,
      ← signals_endFrame, List.filter_filter]
    simp
  · rw [endsFrame, if_neg hok, List.append_nil]
    rcases cycle_of_not_isOk hok with ⟨fault, hf, hcycle⟩ | ⟨-, hm, hevents⟩
    · rw [hcycle, raised_of_halted hf]
      rfl
    · rw [hm, hevents]
      exact signals_runSteps m m.config.speed

/-- An action that does not run the machine gives no signal. -/
theorem signals_of_not_runs {a : Action} (ha : ¬ a.runs) :
    (m.perform a).events.filter Event.isSignal = [] := by
  cases a with
  | step | cycle => exact absurd rfl ha
  | runSteps count =>
    cases count with
    | zero => rfl
    | succ count => exact absurd rfl ha
  | load program =>
    show (m.load program).events.filter Event.isSignal = []
    unfold load
    split <;> rfl
  | loadFont font =>
    show (m.loadFont font).events.filter Event.isSignal = []
    rw [(loadFont_frame m font).2]
    rfl
  | pressKey k =>
    show (if m.keypad.isAwaiting then [Event.delivered k] else []).filter Event.isSignal = []
    split <;> rfl
  | _ => rfl

/-- An action that does not run the machine raises no fault. -/
theorem raised_of_not_runs {a : Action} (ha : ¬ a.runs) : m.raised (m.perform a).machine = [] := by
  by_cases hreplaces : a.replaces
  · cases a with
    | load program =>
      exact raised_of_fault_eq_none (load_of_le (Action.replaces_load.1 hreplaces)).2
    | _ => cases hreplaces
  · obtain ⟨memory, screen, keypad, hm⟩ := perform_frame (m := m) hreplaces ha
    apply raised_of_eq
    rw [hm]

/-- The signals of an action are those of the fault that it raises and of the frame that it ends. -/
theorem signals_perform (m : Machine) (a : Action) :
    (m.perform a).events.filter Event.isSignal =
      (m.raised (m.perform a).machine).flatMap Failure.signals ++
        if m.endsFrame a then (m.perform a).machine.frameSignals else [] := by
  by_cases hruns : a.runs
  · cases a with
    | step => exact m.signals_step.trans (List.append_nil _).symm
    | runSteps count => exact (m.signals_runSteps count).trans (List.append_nil _).symm
    | cycle => exact m.signals_cycle
    | _ => cases hruns
  · have hends : m.endsFrame a = false := by
      cases a with
      | cycle => exact absurd rfl hruns
      | _ => rfl
    rw [signals_of_not_runs hruns, raised_of_not_runs hruns, hends]
    rfl

end Machine

end ChipEight
