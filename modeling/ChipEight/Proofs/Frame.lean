/-
# The device calls of a frame

A frame that ends calls the tone and then the screen, once each and after all that its instructions
did. A frame that fails calls neither: its fault stops the tone, and a frame of a halted machine
calls no device at all. No other action of a host makes the machine present its screen or start the
tone, so the machine presents the screen once for every frame that ends (`Machine.count_render`),
and the screen counts these frames (`Machine.frames_after`).
-/
import ChipEight.Proofs.Gate

namespace ChipEight

namespace Machine

variable {m : Machine} {a : Action}

/-! ## Counting the actions of a run -/

/-- The number of actions of a run that have a property, given the machine that performs them. -/
def tally (p : Machine → Action → Bool) (m : Machine) : List Action → Nat
  | [] => 0
  | a :: actions => (if p m a then 1 else 0) + (m.perform a).machine.tally p actions

/-! ## Calls on the screen and the tone -/

/-- Only a frame can be a frame that ends. -/
theorem endsFrame_of_ne_cycle (ha : a ≠ .cycle) : m.endsFrame a = false := by
  cases a with
  | cycle => exact absurd rfl ha
  | _ => rfl

/-- The signals of faults are no calls on the screen, and none that starts the tone. -/
theorem mem_faultSignals {faults : List Failure} {event : Event}
    (h : event ∈ faults.flatMap Failure.signals) :
    (∃ fault, event = .halted fault) ∨ event = .stopTone := by
  obtain ⟨fault, -, hevent⟩ := List.mem_flatMap.1 h
  rcases List.mem_cons.1 hevent with rfl | hevent
  · exact Or.inl ⟨fault, rfl⟩
  · exact Or.inr (List.mem_singleton.1 hevent)

/-- An action that is no frame gives no signals but those of faults. -/
theorem mem_perform_of_ne_cycle (ha : a ≠ .cycle) {event : Event} (hsignal : event.isSignal)
    (h : event ∈ (m.perform a).events) :
    (∃ fault, event = .halted fault) ∨ event = .stopTone := by
  have hmem : event ∈ (m.perform a).events.filter Event.isSignal :=
    List.mem_filter.2 ⟨h, hsignal⟩
  rw [signals_perform, endsFrame_of_ne_cycle ha, if_neg Bool.false_ne_true, List.append_nil] at hmem
  exact mem_faultSignals hmem

/-- An action that is no frame neither presents the screen nor starts the tone. -/
theorem not_mem_perform_of_ne_cycle (ha : a ≠ .cycle) :
    .render ∉ (m.perform a).events ∧ ∀ hertz, .startTone hertz ∉ (m.perform a).events := by
  constructor
  · intro h
    rcases mem_perform_of_ne_cycle ha rfl h with ⟨fault, h⟩ | h <;> cases h
  · intro hertz h
    rcases mem_perform_of_ne_cycle ha rfl h with ⟨fault, h⟩ | h <;> cases h

/-- The end of a frame presents the screen once. -/
theorem count_frameSignals (m : Machine) : m.frameSignals.count .render = 1 := by
  rcases toneCall_cases m with h | h <;> rw [frameSignals, h] <;> rfl

/-- A frame that ends presents the screen once, and no other action makes the machine do so. -/
theorem count_render_perform (m : Machine) (a : Action) :
    (m.perform a).events.count .render = if m.endsFrame a then 1 else 0 := by
  have hfault : ((m.raised (m.perform a).machine).flatMap Failure.signals).count .render = 0 := by
    rw [List.count_eq_zero]
    intro h
    rcases mem_faultSignals h with ⟨fault, h⟩ | h <;> cases h
  have hsignal : Event.render.isSignal := rfl
  rw [← List.count_filter hsignal, signals_perform, List.count_append, hfault, Nat.zero_add]
  split
  · exact count_frameSignals _
  · rfl

/-- During a run, the machine presents its screen once for every frame that ends. -/
theorem count_render (m : Machine) (actions : List Action) :
    (m.trace actions).count .render = m.tally endsFrame actions := by
  induction actions generalizing m with
  | nil => rfl
  | cons a actions ih => rw [trace, tally, List.count_append, count_render_perform, ih]

/-! ## Screens that are presented -/

/-- The end of a frame counts as one. -/
theorem frames_endFrame (m : Machine) : m.endFrame.1.screen.frames = m.screen.frames + 1 := by
  unfold endFrame
  cases m.isPaused <;> rfl

/-- A frame counts as one if it ends, and not at all otherwise. -/
theorem frames_cycle (m : Machine) :
    m.cycle.machine.screen.frames =
      m.screen.frames + if m.endsFrame .cycle then 1 else 0 := by
  have hbatch := m.frames_runSteps m.config.speed
  unfold endsFrame
  rcases hf : m.fault with _ | fault
  · rcases hr : (m.runSteps m.config.speed).result with failure | flow
    · rw [cycle_of_error hf hr]
      exact hbatch
    · rw [cycle_of_ok hf hr]
      exact (frames_endFrame _).trans (congrArg (· + 1) hbatch)
  · rw [cycle_of_fault hf]
    rfl

/-- The screen is presented whenever the machine or the host does so. -/
theorem frames_perform (m : Machine) (a : Action) :
    (m.perform a).machine.screen.frames =
      m.screen.frames + (m.perform a).events.count .render + [a].count .renderScreen := by
  rw [count_render_perform]
  cases a with
  | load program =>
    show (m.load program).machine.screen.frames = _
    unfold load
    split <;> rfl
  | loadFont font =>
    obtain ⟨⟨memory, hm⟩, -⟩ := loadFont_frame m font
    show (m.loadFont font).machine.screen.frames = _
    rw [hm]
    rfl
  | step => exact frames_step m
  | runSteps count => exact m.frames_runSteps count
  | cycle => exact frames_cycle m
  | _ => rfl

/-- The frames of a screen count how often the machine and the host presented it. -/
theorem frames_after (m : Machine) (actions : List Action) :
    (m.after actions).screen.frames =
      m.screen.frames + (m.trace actions).count .render + actions.count .renderScreen := by
  induction actions generalizing m with
  | nil => rfl
  | cons a actions ih =>
    rw [after, ih, frames_perform, trace, List.count_append, List.count_cons, List.count_cons,
      List.count_nil]
    omega

/-! ## Frames that end and frames that fail -/

/-- A frame that ends makes the calls of its instructions, and then those of its end. -/
theorem events_of_cycle_ok (h : m.cycle.result.isOk) :
    (m.runSteps m.config.speed).events.filter Event.isSignal = [] ∧
      m.cycle.events = (m.runSteps m.config.speed).events ++
        [if 0 < m.cycle.machine.sound then .startTone m.cycle.machine.config.toneFrequency
          else .stopTone, .render] := by
  obtain ⟨-, -, hevents, hquiet⟩ := cycle_of_isOk h
  exact ⟨hquiet, hevents⟩

/-- A frame of a halted machine calls no device. -/
theorem events_of_cycle_halted (h : m.isHalted) : m.cycle.events = [] := by
  obtain ⟨fault, hf⟩ := Option.isSome_iff_exists.1 h
  rw [cycle_of_fault hf]

/-- A frame that fails in a machine that was not halted reports its fault and stops the tone. -/
theorem signals_of_cycle_error (hf : ¬ m.isHalted) {fault : Failure}
    (h : m.cycle.result = .error fault) :
    m.cycle.events.filter Event.isSignal = [.halted fault, .stopTone] := by
  have hnone : m.fault = none := Option.not_isSome_iff_eq_none.1 hf
  have hends : ¬ m.endsFrame .cycle := by
    rw [endsFrame, h]
    exact Bool.false_ne_true
  rw [signals_cycle, raised_of_running hnone, fault_of_cycle_error h, if_neg hends]
  rfl

end Machine

namespace Headless

/-- The device calls of a frame, after any run.

* A frame that succeeds makes the calls of its instructions, none of which concerns the tone or
  presents the screen. Then it starts the tone of the parameters if the sound timer still runs, and
  stops the tone otherwise, and at last it presents the screen.
* A frame that fails neither starts the tone nor presents the screen. It reports its fault and stops
  the tone once, unless the machine was halted before: then nothing happens at all.
* No other action presents the screen or starts the tone.
* During any further run, the machine presents the screen once for every frame that succeeds. The
  frames of its screen count this, together with the times that the host presents it.
* The tone of a halted machine is silent. -/
theorem frame_calls (config : Config) (generator : Random.Generator) (before : List Action) :
    let h := (new config generator).after before
    let frame := h.perform .cycle
    (∀ answer, frame.result = .ok answer →
      let batch := h.perform (.runSteps config.speed)
      batch.events.filter Event.isSignal = [] ∧
        frame.events = batch.events ++
          [if 0 < frame.after.machine.sound then .startTone config.toneFrequency else .stopTone,
            .render]) ∧
    (∀ fault, frame.result = .error fault →
      (h.machine.isHalted → frame.events = []) ∧
      (¬ h.machine.isHalted →
        frame.events.filter Event.isSignal = [.halted fault, .stopTone])) ∧
    (∀ a : Action, a ≠ .cycle →
      .render ∉ (h.perform a).events ∧ ∀ hertz, .startTone hertz ∉ (h.perform a).events) ∧
    (∀ later, (h.machine.trace later).count .render =
        h.machine.tally Machine.endsFrame later ∧
      (h.machine.after later).screen.frames = h.machine.screen.frames +
        (h.machine.trace later).count .render + later.count .renderScreen) ∧
    (h.machine.isHalted → h.buzzer.playing = none) := by
  intro h frame
  obtain ⟨hsound, htuned⟩ := tuned_after config generator before
  have hconfig : h.machine.config = config := hsound.config_eq
  have hconfig' : h.machine.cycle.machine.config = config := (hsound.perform .cycle).config_eq
  refine ⟨?_, ?_, ?_, ?_, ?_⟩
  · intro answer hresult
    have hok : h.machine.cycle.result.isOk := by
      by_contra hnot
      obtain ⟨fault, hr⟩ := Reaction.exists_error hnot
      have herror : frame.result = .error fault := Reaction.map_eq_error.2 hr
      rw [hresult] at herror
      cases herror
    have hevents := Machine.events_of_cycle_ok hok
    rw [hconfig, hconfig'] at hevents
    exact hevents
  · intro fault hresult
    have hr : h.machine.cycle.result = .error fault := Reaction.map_eq_error.1 hresult
    exact ⟨Machine.events_of_cycle_halted, fun hf => Machine.signals_of_cycle_error hf hr⟩
  · exact fun a ha => Machine.not_mem_perform_of_ne_cycle ha
  · exact fun later => ⟨h.machine.count_render later, h.machine.frames_after later⟩
  · intro hhalted
    obtain ⟨fault, hf⟩ := Option.isSome_iff_exists.1 hhalted
    exact htuned.silent fault hf

/-- At two instructions in a frame, a program sets its sound timer to 2 in the first frame and
returns from no subroutine in the second. The first frame starts the tone, the second one stops it,
and the third one does nothing, so of three frames one is presented. -/
theorem frame_calls_underflow :
    let config : Config := { speed := 2 }
    let before := fun frames =>
      Action.load [0x60, 0x02, 0xF0, 0x18, 0x00, 0xEE] :: List.replicate frames .cycle
    let h := fun frames => (new config (.ofSeed 0)).after (before frames)
    ((h 0).perform .cycle).result = .ok .done ∧
      ((h 0).perform .cycle).events =
        ((h 0).perform (.runSteps 2)).events ++ [.startTone 440, .render] ∧
      ((h 1).perform .cycle).result = .error (.stackUnderflow 0x204) ∧
      ((h 1).perform .cycle).events.filter Event.isSignal =
        [.halted (.stackUnderflow 0x204), .stopTone] ∧
      ((h 2).perform .cycle).result = .error (.stackUnderflow 0x204) ∧
      ((h 2).perform .cycle).events = [] ∧ (h 2).buzzer.playing = none ∧
      ((h 0).machine.trace [.cycle, .cycle, .cycle]).count .render = 1 ∧
      ((h 0).machine.after [.cycle, .cycle, .cycle]).screen.frames = 1 := by
  intro config before h
  have hresult : ((h 0).perform .cycle).result = .ok .done := by decide +kernel
  have hsound : 0 < ((h 0).perform .cycle).after.machine.sound := by decide +kernel
  have hfails : ((h 1).perform .cycle).result = .error (.stackUnderflow 0x204) := by
    decide +kernel
  have hrefused : ((h 2).perform .cycle).result = .error (.stackUnderflow 0x204) := by
    decide +kernel
  have hrunning : ¬ (h 1).machine.isHalted := by decide +kernel
  have hhalted : (h 2).machine.isHalted := by decide +kernel
  have htally : (h 0).machine.tally Machine.endsFrame [.cycle, .cycle, .cycle] = 1 := by
    decide +kernel
  obtain ⟨hends, -, -, hrender, -⟩ := frame_calls config (.ofSeed 0) (before 0)
  obtain ⟨-, hfault, -⟩ := frame_calls config (.ofSeed 0) (before 1)
  obtain ⟨-, hagain, -, -, hsilent⟩ := frame_calls config (.ofSeed 0) (before 2)
  have hcalls := (hends _ hresult).2
  rw [if_pos hsound] at hcalls
  obtain ⟨hcount, hframes⟩ := hrender [.cycle, .cycle, .cycle]
  rw [htally] at hcount
  rw [hcount] at hframes
  exact ⟨hresult, hcalls, hfails, (hfault _ hfails).2 hrunning, hrefused,
    (hagain _ hrefused).1 hhalted, hsilent hhalted, hcount, hframes⟩

end Headless

end ChipEight
