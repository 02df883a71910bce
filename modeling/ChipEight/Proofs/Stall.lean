/-
# Machines that stall

A machine that waits for a key that was not pressed yet stalls: whatever the host has it run, it
asks for the key and does nothing else. Frames still end, but their timers stand still, so all that
such a run leaves behind are the frames that it counts and the keys that the host releases
(`Machine.Stalls.perform`).
-/
import ChipEight.Proofs.Gate
import ChipEight.Proofs.KeyWait
import ChipEight.Proofs.Reload

namespace ChipEight

/-! ## What the host does meanwhile -/

namespace Action

/-- The host runs the machine or releases keys. -/
def isIdle : Action → Bool
  | step | runSteps _ | cycle | releaseKey _ | releaseKeys => true
  | _ => false

/-- The answer of a machine that stalls. -/
def idleAnswer : Action → Answer
  | step => .flow .keyWait
  | runSteps count => .flow (if count = 0 then .ok else .keyWait)
  | _ => .done

end Action

/-- The keypad after an action that may release keys. -/
def Keypad.letGo (p : Keypad) : Action → Keypad
  | .releaseKey k => p.release k
  | .releaseKeys => p.releaseAll
  | _ => p

/-- Releasing keys leaves the slot as it is. -/
theorem Keypad.slot_foldl_letGo (p : Keypad) (actions : List Action) :
    (actions.foldl letGo p).slot = p.slot := by
  induction actions generalizing p with
  | nil => rfl
  | cons a actions ih =>
    rw [List.foldl_cons, ih]
    cases a <;> rfl

namespace Machine

variable {m : Machine} {a : Action}

/-- The same machine with the keys released that a run releases, and its frames counted. -/
def idled (m : Machine) (actions : List Action) : Machine :=
  { m with
    keypad := actions.foldl Keypad.letGo m.keypad
    screen := { m.screen with frames := m.screen.frames + actions.count .cycle } }

/-- What happens during an action of a machine that stalls: it asks for the key if it is to run at
all, and a frame ends. -/
def idleEvents (m : Machine) (a : Action) : List Event :=
  (if a.attempts m.config then [.takeKey none] else []) ++
    if a = .cycle then m.frameSignals else []

/-- The machine waits for a key that was not pressed yet. -/
structure Stalls (m : Machine) : Prop where
  /-- The machine is not halted. -/
  fault : m.fault = none
  /-- A register waits. -/
  paused : m.isPaused
  /-- No key was delivered. -/
  slot : ∀ key, m.keypad.slot ≠ .delivered key

/-! ## Stalled machines do nothing -/

/-- Frames and releases may be split. -/
theorem idled_cons (m : Machine) (a : Action) (actions : List Action) :
    (m.idled [a]).idled actions = m.idled (a :: actions) := by
  have hcount : m.screen.frames + [a].count .cycle + actions.count .cycle =
      m.screen.frames + (a :: actions).count .cycle := by
    rw [List.count_cons (l := actions), List.count_cons (l := []), List.count_nil]
    omega
  show { m with
    keypad := _
    screen := { m.screen with
      frames := m.screen.frames + [a].count .cycle + actions.count .cycle } } =
    m.idled (a :: actions)
  rw [hcount]
  rfl

/-- A stalled machine stalls on while keys are released and frames are counted. -/
theorem Stalls.idled (h : m.Stalls) (actions : List Action) : (m.idled actions).Stalls := by
  refine ⟨h.fault, h.paused, ?_⟩
  intro key hslot
  rw [Machine.idled, Keypad.slot_foldl_letGo] at hslot
  exact h.slot key hslot

/-- A batch of steps of a stalled machine asks for the key once. -/
theorem Stalls.runSteps (h : m.Stalls) (count : Nat) :
    m.runSteps count =
      { result := .ok (if count = 0 then .ok else .keyWait)
        machine := m
        events := if count = 0 then [] else [.takeKey none] } := by
  obtain ⟨register, hk⟩ := Option.isSome_iff_exists.1 h.paused
  exact runSteps_of_waiting h.fault hk h.slot count

/-- A frame of a stalled machine ends, and its timers stand still. -/
theorem Stalls.cycle (h : m.Stalls) :
    m.cycle =
      { result := .ok ()
        machine := { m with screen := m.screen.render }
        events := (if m.config.speed = 0 then [] else [.takeKey none]) ++ m.frameSignals } := by
  have hbatch := h.runSteps m.config.speed
  have hresult : (m.runSteps m.config.speed).result =
      .ok (if m.config.speed = 0 then .ok else .keyWait) := by rw [hbatch]
  have hframe : m.endFrame = ({ m with screen := m.screen.render }, m.frameSignals) := by
    rw [endFrame, if_pos h.paused]
    rfl
  rw [cycle_of_ok h.fault hresult, hbatch, hframe]

/-- A stalled machine counts its frames and lets go of keys, and does nothing else. -/
theorem Stalls.perform (h : m.Stalls) (ha : a.isIdle) :
    m.perform a =
      { result := .ok a.idleAnswer, machine := m.idled [a], events := m.idleEvents a } := by
  cases a with
  | step =>
    obtain ⟨register, hk⟩ := Option.isSome_iff_exists.1 h.paused
    show m.step.map Answer.flow = _
    rw [step_of_waiting h.fault hk h.slot]
    rfl
  | runSteps count =>
    show (m.runSteps count).map Answer.flow = _
    rw [h.runSteps]
    cases count <;> rfl
  | cycle =>
    show m.cycle.map (fun _ => Answer.done) = _
    rw [h.cycle, idleEvents, Action.attempts, if_pos rfl]
    cases m.config.speed <;> rfl
  | releaseKey k | releaseKeys => rfl
  | _ => cases ha

end Machine

namespace Headless

variable {h : Headless} {actions : List Action}

/-- A stalled machine counts its frames, lets go of keys and stalls on. -/
theorem stalls_perform (hm : h.machine.Stalls) {a : Action} (ha : a.isIdle) :
    (h.perform a).after.machine = h.machine.idled [a] ∧ (h.perform a).after.machine.Stalls := by
  have hafter : (h.perform a).after.machine = h.machine.idled [a] :=
    congrArg (·.machine) (hm.perform ha)
  refine ⟨hafter, ?_⟩
  rw [hafter]
  exact hm.idled [a]

/-- What a run leaves behind in a stalled machine, what it is answered, and what happens. -/
theorem stalled_after (hm : h.machine.Stalls) (hidle : ∀ a ∈ actions, a.isIdle) :
    (h.after actions).machine = h.machine.idled actions ∧
      h.answers actions = actions.map (fun a => .ok a.idleAnswer) ∧
      h.machine.trace actions = actions.flatMap h.machine.idleEvents := by
  induction actions generalizing h with
  | nil => exact ⟨rfl, rfl, rfl⟩
  | cons a actions ih =>
    have ha := hm.perform (hidle a List.mem_cons_self)
    obtain ⟨hafter, hm'⟩ := stalls_perform hm (hidle a List.mem_cons_self)
    obtain ⟨hmachine, hanswers, htrace⟩ := ih hm' fun b hb => hidle b (List.mem_cons_of_mem a hb)
    refine ⟨?_, ?_, ?_⟩
    · show ((h.perform a).after.after actions).machine = _
      rw [hmachine, hafter, Machine.idled_cons]
    · have hresult : (h.perform a).result = .ok a.idleAnswer := congrArg (·.result) ha
      rw [answers, hresult, hanswers, List.map_cons]
    · have hevents : (h.machine.perform a).events = h.machine.idleEvents a :=
        congrArg (·.events) ha
      -- what happens does not depend on the keys released and the frames counted so far
      have hsame : (h.perform a).after.machine.idleEvents = h.machine.idleEvents := by
        rw [hafter]
        rfl
      rw [hsame] at htrace
      rw [Machine.trace, hevents, List.flatMap_cons, ← htrace]
      rfl

variable {config : Config}

/-- The tone of a stalled machine follows the sound timer from the first frame on. -/
theorem playing_of_stalls (hs : h.machine.Sound config) (ht : h.Tuned config)
    (hm : h.machine.Stalls) (hidle : ∀ a ∈ actions, a.isIdle) :
    (h.after actions).buzzer.playing =
      if .cycle ∈ actions then h.machine.tone else h.buzzer.playing := by
  induction actions generalizing h with
  | nil => rfl
  | cons a actions ih =>
    have ha := hm.perform (hidle a List.mem_cons_self)
    obtain ⟨hafter, hm'⟩ := stalls_perform hm (hidle a List.mem_cons_self)
    have htone : (h.perform a).after.machine.tone = h.machine.tone := by
      rw [hafter]
      rfl
    have hrest := ih (hs.perform a) (ht.perform hs a) hm'
      fun b hb => hidle b (List.mem_cons_of_mem a hb)
    rw [htone] at hrest
    show ((h.perform a).after.after actions).buzzer.playing = _
    rw [hrest]
    by_cases hcycle : a = .cycle
    · subst hcycle
      have hfollows := (ht.follows_cycle hs).trans htone
      rw [hfollows, ite_self, if_pos List.mem_cons_self]
    · have hquiet : (h.perform a).after.buzzer.playing = h.buzzer.playing := by
        show (ToneDevice.hearAll h.buzzer (h.machine.perform a).events).1.playing = _
        rw [ha, Machine.idleEvents, if_neg hcycle]
        split <;> rfl
      rw [hquiet]
      simp [Ne.symm hcycle]

/-- A machine that waits for a key is inert. After any run that leaves it waiting for a key that was
not pressed yet, the host may have it run as long as it likes, and release keys: the machine stays
as it is, except that it counts its frames and that the released keys are up. Its slot stays as it
is, every step and every batch that is not empty is answered that the machine waits, and all frames
succeed. All that happens are requests for the key, and the calls that end a frame; the tone follows
the sound timer, which stands still. -/
theorem stall_inert (config : Config) (generator : Random.Generator) (before : List Action)
    {actions : List Action} (hidle : ∀ a ∈ actions, a.isIdle) :
    let h := (new config generator).after before
    h.machine.isPaused → (∀ key, h.machine.keypad.slot ≠ .delivered key) →
    h.machine.fault = none ∧
    (h.after actions).machine =
      { h.machine with
        keypad := actions.foldl Keypad.letGo h.machine.keypad
        screen := { h.machine.screen with
          frames := h.machine.screen.frames + actions.count .cycle } } ∧
    (h.after actions).machine.keypad.slot = h.machine.keypad.slot ∧
    h.answers actions = actions.map (fun a => .ok a.idleAnswer) ∧
    h.machine.trace actions = actions.flatMap h.machine.idleEvents ∧
    (h.after actions).buzzer.playing =
      if .cycle ∈ actions then h.machine.tone else h.buzzer.playing := by
  intro h hpaused hslot
  obtain ⟨hsound, htuned⟩ := tuned_after config generator before
  have hfault : h.machine.fault = none := by
    refine hsound.halted_not_paused.resolve_right ?_
    exact Option.isSome_iff_ne_none.1 hpaused
  have hm : h.machine.Stalls := ⟨hfault, hpaused, hslot⟩
  obtain ⟨hafter, hanswers, htrace⟩ := stalled_after hm hidle
  have hkeypad : (h.after actions).machine.keypad.slot = h.machine.keypad.slot := by
    rw [hafter]
    exact h.machine.keypad.slot_foldl_letGo actions
  exact ⟨hfault, hafter, hkeypad, hanswers, htrace, playing_of_stalls hsound htuned hm hidle⟩

/-- A program sets both timers and waits for a key, at three instructions in a frame. Frames, steps
and releases leave both timers and the wait alone, the held key is up, and the tone goes on. -/
theorem stall_inert_held :
    let before := [Action.load [0x60, 0x09, 0xF0, 0x15, 0xF0, 0x18, 0xF1, 0x0A], .pressKey 5,
      .runSteps 4]
    let actions := [Action.cycle, .step, .releaseKey 5, .runSteps 0, .releaseKeys, .runSteps 7,
      .cycle]
    let h := (new { speed := 3 } (.ofSeed 0)).after before
    (h.machine.isPaused ∧ (∀ key, h.machine.keypad.slot ≠ .delivered key) ∧
      ∀ a ∈ actions, a.isIdle) ∧
    (h.after actions).machine.pc = 0x208 ∧ (h.after actions).machine.delay = 9 ∧
    (h.after actions).machine.sound = 9 ∧ (h.after actions).machine.keyWait = some 1 ∧
    h.machine.keypad.isDown 5 ∧ ¬ (h.after actions).machine.keypad.isDown 5 ∧
    (h.after actions).machine.keypad.slot = .awaiting ∧
    (h.after actions).machine.screen.frames = h.machine.screen.frames + 2 ∧
    h.answers actions =
      [.ok .done, .ok (.flow .keyWait), .ok .done, .ok (.flow .ok), .ok .done,
        .ok (.flow .keyWait), .ok .done] ∧
    h.buzzer.playing = none ∧ (h.after actions).buzzer.playing = some 440 := by
  intro before actions
  dsimp only
  have hpaused : ((new { speed := 3 } (.ofSeed 0)).after before).machine.isPaused := by
    decide +kernel
  have harmed : ((new { speed := 3 } (.ofSeed 0)).after before).machine.keypad.slot =
      .awaiting := by
    decide +kernel
  have hslot : ∀ key,
      ((new { speed := 3 } (.ofSeed 0)).after before).machine.keypad.slot ≠ .delivered key := by
    rw [harmed]
    exact nofun
  have hidle : ∀ a ∈ actions, a.isIdle := by decide
  have hstate : ((new { speed := 3 } (.ofSeed 0)).after before).machine.pc = 0x208 ∧
      ((new { speed := 3 } (.ofSeed 0)).after before).machine.delay = 9 ∧
      ((new { speed := 3 } (.ofSeed 0)).after before).machine.sound = 9 ∧
      ((new { speed := 3 } (.ofSeed 0)).after before).machine.keyWait = some 1 := by
    decide +kernel
  have hdown : ((new { speed := 3 } (.ofSeed 0)).after before).machine.keypad.isDown 5 ∧
      ((new { speed := 3 } (.ofSeed 0)).after before).buzzer.playing = none ∧
      ((new { speed := 3 } (.ofSeed 0)).after before).machine.tone = some 440 := by
    decide +kernel
  obtain ⟨hpc, hdelay, hsound, hwait⟩ := hstate
  obtain ⟨hheld, hsilent, htone⟩ := hdown
  obtain ⟨-, hafter, hkeep, hanswers, -, hplaying⟩ :=
    stall_inert { speed := 3 } (.ofSeed 0) before hidle hpaused hslot
  rw [if_pos (show Action.cycle ∈ actions from List.mem_cons_self)] at hplaying
  rw [hkeep, hafter, hplaying, hanswers]
  dsimp only
  refine ⟨⟨hpaused, hslot, hidle⟩, hpc, hdelay, hsound, hwait, hheld, ?_, harmed, rfl, rfl, hsilent,
    htone⟩
  decide +kernel

end Headless

end ChipEight
