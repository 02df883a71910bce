/-
# Batches

Steps may be batched at will. A step that fails or waits for a key ends its batch, and the next step
comes to the same end without doing anything (`Machine.step_of_stops`). So two batches in a row, the
second of which is not empty, leave behind what a single one does (`Machine.runSteps_add`). A frame
runs its steps in a loop of its own, and yet it is a batch and then an end of its own
(`Headless.cycle_eq`).
-/
import ChipEight.Proofs.Control
import ChipEight.Proofs.Stall

namespace ChipEight

/-! ## Devices that hear two batches -/

namespace ToneDevice

variable {δ : Type} [ToneDevice δ]

/-- What is logged about events is logged about one after the other. -/
theorem log_hearAll_append (device : δ) (first second : List Event) :
    (hearAll device (first ++ second)).2 =
      (hearAll device first).2 ++ (hearAll (hearAll device first).1 second).2 := by
  induction first generalizing device with
  | nil => rfl
  | cons event first ih =>
    rw [List.cons_append, hearAll_cons, hearAll_cons, ih, List.append_assoc]

/-- Nobody hears that a key was asked for in vain. -/
theorem hearAll_append_takeKey (device : δ) (events : List Event) :
    hearAll device (events ++ [.takeKey none]) = hearAll device events := by
  apply Prod.ext
  · rw [hearAll_append]
    rfl
  · rw [log_hearAll_append]
    exact List.append_nil _

end ToneDevice

namespace Machine

variable {m : Machine}

/-! ## Steps behind the end of a batch -/

/-- An instruction that ends its step with a wait leaves a machine behind that stalls. -/
theorem stalls_of_fetchExecute (hf : m.fault = none)
    (h : m.fetchExecute.result = .ok .keyWait) : m.fetchExecute.machine.Stalls := by
  cases m.fetched with
  | outside hpc hr | unknown hpc hd hr | refused i failure hi hrefused hr =>
    rw [hr] at h
    cases h
  | executed i e hi he hr =>
    rw [hr] at h ⊢
    have hflow : i.flow = .keyWait := (flow_of_effect he).symm.trans (Except.ok.inj h)
    cases i with
    | awaitKey register =>
      cases he
      exact ⟨hf, rfl, nofun⟩
    | _ => cases hflow

/-- A step that ends with a wait leaves a machine behind that stalls. -/
theorem stalls_of_step (h : m.step.result = .ok .keyWait) : m.step.machine.Stalls := by
  cases m.stepped with
  | halted fault hf hr =>
    rw [hr] at h
    cases h
  | waiting register hf hk hs hr =>
    rw [hr]
    exact ⟨hf, Option.isSome_iff_exists.2 ⟨register, hk⟩, hs⟩
  | resumed register key hf hk hs hr =>
    rw [hr] at h ⊢
    exact stalls_of_fetchExecute (m := m.resume register key) hf h
  | running hf hk hr =>
    rw [hr] at h ⊢
    exact stalls_of_fetchExecute hf h

/-- Behind a step that ends its batch, the next step comes to the same end. It asks for a key at
most, and in vain. -/
theorem step_of_stops (h : m.step.Stops) :
    ∃ events, (events = [] ∨ events = [.takeKey none]) ∧
      m.step.machine.step =
        { result := m.step.result, machine := m.step.machine, events := events } := by
  rcases h with h | ⟨fault, h⟩
  · have hstalls := stalls_of_step h
    obtain ⟨register, hk⟩ := Option.isSome_iff_exists.1 hstalls.paused
    refine ⟨[.takeKey none], Or.inr rfl, ?_⟩
    rw [h]
    exact step_of_waiting hstalls.fault hk hstalls.slot
  · refine ⟨[], Or.inl rfl, ?_⟩
    rw [h]
    exact step_of_fault (fault_of_step_error h)

/-! ## Two batches in a row -/

/-- A batch that its first step ends is that step. -/
theorem runSteps_of_stops (h : m.step.Stops) {count : Nat} (hcount : 0 < count) :
    m.runSteps count = m.step := by
  obtain ⟨count, rfl⟩ := Nat.exists_eq_add_of_lt hcount
  rw [Nat.zero_add]
  exact runFrom_of_stops h .ok count

/-- Behind a step that does not end its batch comes the rest of the batch. -/
theorem runSteps_of_ok {next : Flow} (h : m.step.result = .ok next) (hnext : next ≠ .keyWait)
    {count : Nat} (hcount : 0 < count) :
    m.runSteps (count + 1) = (m.step.machine.runSteps count).behind m.step.events := by
  obtain ⟨count, rfl⟩ := Nat.exists_eq_add_of_lt hcount
  -- the flow so far does not count, since the rest of the batch is not empty
  exact runFrom_of_ok h hnext .ok _

/-- The same for the machine and the events, whether there is a rest or not. -/
theorem machine_runSteps_of_ok {next : Flow} (h : m.step.result = .ok next)
    (hnext : next ≠ .keyWait) (count : Nat) :
    (m.runSteps (count + 1)).machine = (m.step.machine.runSteps count).machine ∧
      (m.runSteps (count + 1)).events =
        m.step.events ++ (m.step.machine.runSteps count).events := by
  cases count with
  | zero =>
    rw [runSteps, runFrom_of_ok h hnext]
    exact ⟨rfl, rfl⟩
  | succ count =>
    rw [runSteps_of_ok h hnext count.succ_pos]
    exact ⟨rfl, rfl⟩

/-- Two batches in a row, the second of which is not empty, come to the same as a single one, but
that the second one may ask for a key in vain. -/
theorem runSteps_add (m : Machine) (a : Nat) {b : Nat} (hb : 0 < b) :
    ((m.runSteps a).machine.runSteps b).result = (m.runSteps (a + b)).result ∧
    ((m.runSteps a).machine.runSteps b).machine = (m.runSteps (a + b)).machine ∧
    ((m.runSteps a).events ++ ((m.runSteps a).machine.runSteps b).events =
        (m.runSteps (a + b)).events ∨
      (m.runSteps a).events ++ ((m.runSteps a).machine.runSteps b).events =
        (m.runSteps (a + b)).events ++ [.takeKey none]) := by
  induction a generalizing m with
  | zero =>
    rw [Nat.zero_add]
    exact ⟨rfl, rfl, Or.inl rfl⟩
  | succ a ih =>
    rcases stops_or_ok m.step with h | ⟨next, h, hnext⟩
    · -- the first batch ends with its first step, and so does the single one
      obtain ⟨events, hevents, hagain⟩ := step_of_stops h
      have hagain' : m.step.machine.step.Stops := by
        rw [hagain]
        exact h
      have hpos : 0 < a + 1 + b := Nat.add_pos_left a.succ_pos b
      rw [runSteps_of_stops h a.succ_pos, runSteps_of_stops h hpos, runSteps_of_stops hagain' hb,
        hagain]
      refine ⟨rfl, rfl, ?_⟩
      rcases hevents with rfl | rfl
      · exact Or.inl (List.append_nil _)
      · exact Or.inr rfl
    · have hpos : 0 < a + b := Nat.add_pos_right a hb
      have hsum : a + 1 + b = a + b + 1 := Nat.add_right_comm a 1 b
      obtain ⟨hmachine, hevents⟩ := machine_runSteps_of_ok h hnext a
      obtain ⟨hresult, hmachine', hevents'⟩ := ih m.step.machine
      rw [hsum, runSteps_of_ok h hnext hpos, hmachine, hevents]
      refine ⟨hresult, hmachine', ?_⟩
      rcases hevents' with hevents' | hevents'
      · left
        rw [List.append_assoc, hevents']
        rfl
      · right
        rw [List.append_assoc, hevents', ← List.append_assoc]
        rfl

/-! ## Frames -/

/-- A timer at the end of a frame: it counts down, stopping at zero, unless the machine waits for a
key. -/
def counted (m : Machine) (timer : UInt8) : UInt8 :=
  if m.isPaused ∨ timer = 0 then timer else timer - 1

/-- The machine after the end of a frame. -/
def framed (m : Machine) : Machine :=
  { m with
    delay := m.counted m.delay
    sound := m.counted m.sound
    screen := m.screen.render }

/-- The end of a frame concerns the timers and the screen. -/
theorem endFrame_fst (m : Machine) : m.endFrame.1 = m.framed := by
  unfold endFrame framed counted
  cases m.isPaused with
  | true =>
    simp only [true_or, if_true]
  | false =>
    have hzero : ∀ timer : UInt8, (if timer = 0 then 0 else timer - 1) =
        if timer = 0 then timer else timer - 1 := by
      intro timer
      split
      next h => exact h.symm
      next => rfl
    simp only [Bool.false_eq_true, false_or, if_false, tickTimers, hzero]

end Machine

/-! ## Batches of a machine and its buzzer -/

namespace Headless

/-- The end of a frame behind a batch of steps: both timers count down unless the machine waits for
a key, the buzzer is started or stopped as the sound timer then says, and the screen is shown. -/
def Report.endFrame (batch : Report) : Report :=
  let m := batch.after.machine.framed
  let heard :=
    if 0 < m.sound then
      batch.after.buzzer.start m.config.toneFrequency
    else
      batch.after.buzzer.stop
  { result := .ok .done
    after := { machine := m, buzzer := heard.1 }
    events := batch.events ++
      [if 0 < m.sound then .startTone m.config.toneFrequency else .stopTone, .render]
    log := batch.log ++ heard.2 }

variable {h : Headless}

/-- Two batches in a row, the second of which is not empty, leave behind what a single one does, are
answered in the end as it is, and log the same. Nothing more happens but that the second one may ask
for a key in vain. -/
theorem perform_runSteps_add (h : Headless) (a : Nat) {b : Nat} (hb : 0 < b) :
    let first := h.perform (.runSteps a)
    let second := first.after.perform (.runSteps b)
    let whole := h.perform (.runSteps (a + b))
    second.result = whole.result ∧ second.after = whole.after ∧
      first.log ++ second.log = whole.log ∧
      (first.events ++ second.events = whole.events ∨
        first.events ++ second.events = whole.events ++ [.takeKey none]) := by
  intro first second whole
  obtain ⟨hresult, hmachine, hevents⟩ := h.machine.runSteps_add a hb
  -- the buzzer hears the events of both batches as it hears those of the single one
  have hheard : ToneDevice.hearAll h.buzzer
      ((h.machine.runSteps a).events ++
        ((h.machine.runSteps a).machine.runSteps b).events) =
      ToneDevice.hearAll h.buzzer (h.machine.runSteps (a + b)).events := by
    rcases hevents with hevents | hevents
    · rw [hevents]
    · rw [hevents, ToneDevice.hearAll_append_takeKey]
  refine ⟨?_, ?_, ?_, hevents⟩
  · show ((h.machine.runSteps a).machine.runSteps b).result.map Answer.flow = _
    rw [hresult]
    rfl
  · show Headless.mk ((h.machine.runSteps a).machine.runSteps b).machine
      (ToneDevice.hearAll (ToneDevice.hearAll h.buzzer (h.machine.runSteps a).events).1
        ((h.machine.runSteps a).machine.runSteps b).events).1 = _
    rw [← ToneDevice.hearAll_append, hheard, hmachine]
    rfl
  · show (ToneDevice.hearAll h.buzzer (h.machine.runSteps a).events).2 ++
      (ToneDevice.hearAll (ToneDevice.hearAll h.buzzer (h.machine.runSteps a).events).1
        ((h.machine.runSteps a).machine.runSteps b).events).2 = _
    rw [← ToneDevice.log_hearAll_append, hheard]
    rfl

/-- A frame of a machine that is not halted is a batch of steps, and then the end of the frame
unless the batch failed. -/
theorem cycle_eq (hf : h.machine.fault = none) :
    let batch := h.perform (.runSteps h.machine.config.speed)
    h.perform .cycle = if batch.result.isOk then batch.endFrame else batch := by
  intro batch
  cases hr : (h.machine.runSteps h.machine.config.speed).result with
  | error fault =>
    have hbatch : batch.result = .error fault := Reaction.map_eq_error.2 hr
    have hperform : h.machine.perform .cycle =
        h.machine.perform (.runSteps h.machine.config.speed) := by
      show h.machine.cycle.map _ = (h.machine.runSteps _).map _
      rw [Machine.cycle_of_error hf hr, Reaction.map, Reaction.map, hr]
      rfl
    rw [hbatch]
    show h.perform .cycle = h.perform (.runSteps h.machine.config.speed)
    rw [perform, perform, hperform]
  | ok flow =>
    have hbatch : batch.result = .ok (.flow flow) := by
      show (h.machine.runSteps h.machine.config.speed).result.map Answer.flow = _
      rw [hr]
      rfl
    have hperform : h.machine.perform .cycle =
        { result := .ok .done
          machine := batch.after.machine.endFrame.1
          events := batch.events ++ batch.after.machine.endFrame.2 } := by
      show h.machine.cycle.map _ = _
      rw [Machine.cycle_of_ok hf hr]
      rfl
    rw [hbatch]
    show h.perform .cycle = batch.endFrame
    rw [perform, hperform]
    show Report.mk _ (Headless.mk _ (ToneDevice.hearAll _ _).1) _ (ToneDevice.hearAll _ _).2 = _
    rw [ToneDevice.hearAll_append, ToneDevice.log_hearAll_append, Machine.endFrame_snd,
      Machine.endFrame_fst, ToneDevice.hearAll_frameSignals]
    rfl

/-- Batching does not matter. After any run, two batches of steps in a row, the second of which is
not empty, reach the state that a single one reaches, are answered in the end as it is, and log the
same; nothing more happens but that the second one may ask for a key in vain. A frame of a machine
that is not halted is a batch of steps, and then the end of the frame unless the batch failed: the
loop of the frame leaves behind what the batch does. -/
theorem batching (config : Config) (generator : Random.Generator) (before : List Action) :
    let h := (new config generator).after before
    (∀ a b, 0 < b →
      let first := h.perform (.runSteps a)
      let second := first.after.perform (.runSteps b)
      let whole := h.perform (.runSteps (a + b))
      second.result = whole.result ∧ second.after = whole.after ∧
        first.log ++ second.log = whole.log ∧
        (first.events ++ second.events = whole.events ∨
          first.events ++ second.events = whole.events ++ [.takeKey none])) ∧
    (h.machine.fault = none →
      let batch := h.perform (.runSteps config.speed)
      h.perform .cycle = (if batch.result.isOk then batch.endFrame else batch) ∧
        h.machine.frameLoop config.speed =
          (h.machine.runSteps config.speed).map fun _ => ()) := by
  intro h
  have hsound : h.machine.Sound config := by
    show ((new config generator).after before).machine.Sound config
    rw [machine_after]
    exact Machine.sound_after config generator before
  refine ⟨fun a b hb => perform_runSteps_add h a hb, ?_⟩
  intro hf
  have hcycle := cycle_eq hf
  rw [hsound.config_eq] at hcycle
  exact ⟨hcycle, h.machine.frameLoop_eq config.speed⟩

/-- A program waits for a key and then returns from no subroutine. The second of two batches finds
the wait that the first one began, and later, when the key was pressed, the fault that the first one
raised; a frame instead of the batches ends in the one case and fails in the other. -/
theorem batching_wait :
    let program := Action.load [0x60, 0x05, 0xF1, 0x0A, 0x00, 0xEE]
    let h := (new {} (.ofSeed 0)).after [program]
    let h' := (new {} (.ofSeed 0)).after [program, .runSteps 2, .pressKey 7]
    let split (k : Headless) := ((k.perform (.runSteps 2)).after.perform (.runSteps 3)).after
    ((h.perform (.runSteps 2)).result = .ok (.flow .keyWait) ∧
      split h = (h.perform (.runSteps 5)).after ∧
      (h.perform .cycle).after.machine.screen.frames = 1 ∧
      h.perform .cycle = (h.perform (.runSteps 10)).endFrame) ∧
    ((h'.perform (.runSteps 2)).result = .error (.stackUnderflow 0x204) ∧
      split h' = (h'.perform (.runSteps 5)).after ∧
      h'.perform .cycle = h'.perform (.runSteps 10)) := by
  intro program
  dsimp only
  have hwait : (((new {} (.ofSeed 0)).after [program]).perform (.runSteps 2)).result =
      .ok (.flow .keyWait) := by
    decide +kernel
  have hframes :
      (((new {} (.ofSeed 0)).after [program]).perform .cycle).after.machine.screen.frames = 1 := by
    decide +kernel
  have hok : (((new {} (.ofSeed 0)).after [program]).perform
      (.runSteps 10)).result.isOk = true := by
    decide +kernel
  have hfault : (((new {} (.ofSeed 0)).after [program, .runSteps 2, .pressKey 7]).perform
      (.runSteps 2)).result = .error (.stackUnderflow 0x204) := by
    decide +kernel
  have herror : (((new {} (.ofSeed 0)).after [program, .runSteps 2, .pressKey 7]).perform
      (.runSteps 10)).result.isOk = false := by
    decide +kernel
  obtain ⟨hsplit, hcycle⟩ := batching {} (.ofSeed 0) [program]
  obtain ⟨hsplit', hcycle'⟩ := batching {} (.ofSeed 0) [program, .runSteps 2, .pressKey 7]
  have hframe := (hcycle (by decide +kernel)).1
  have hframe' := (hcycle' (by decide +kernel)).1
  have hafter := (hsplit 2 3 (by decide)).2.1
  have hafter' := (hsplit' 2 3 (by decide)).2.1
  dsimp only at hframe hframe'
  rw [hok, if_pos rfl] at hframe
  rw [herror, if_neg nofun] at hframe'
  exact ⟨⟨hwait, hafter, hframes, hframe⟩, hfault, hafter', hframe'⟩

end Headless

end ChipEight
