/-
# The gate of the tone

The tone of a machine is on while its sound timer runs and no fault halted it. Two places see to
that: the end of a frame, which calls the tone as the sound timer says, and a fault, which stops it.
The loading of a program clears the sound timer and the fault but does not call the tone. So in a
machine that is run by frames the tone follows the sound timer, unless a program was loaded while
the tone was playing and no frame has been run since (`Headless.follows_iff`).
-/
import ChipEight.Proofs.Halted
import Mathlib.Data.List.Induction

namespace ChipEight

/-- A tone device listens to signals only. -/
theorem ToneDevice.hearAll_filter {δ : Type} [ToneDevice δ] (device : δ) (events : List Event) :
    (hearAll device (events.filter Event.isSignal)).1 = (hearAll device events).1 := by
  induction events generalizing device with
  | nil => rfl
  | cons event events ih =>
    rw [hearAll_cons]
    by_cases h : event.isSignal
    · rw [List.filter_cons_of_pos h, hearAll_cons]
      exact ih _
    · rw [List.filter_cons_of_neg h, ih]
      cases event with
      | halted _ | startTone _ | stopTone | render => exact absurd rfl h
      | _ => rfl

/-- At the end of a frame, a tone device is started or stopped as the sound timer says. -/
theorem ToneDevice.hearAll_frameSignals {δ : Type} [ToneDevice δ] (device : δ) (m : Machine) :
    hearAll device m.frameSignals =
      if 0 < m.sound then start device m.config.toneFrequency else stop device := by
  rw [Machine.frameSignals, hearAll_cons, Machine.toneCall]
  split
  · exact Prod.ext rfl (List.append_nil _)
  · exact Prod.ext rfl (List.append_nil _)

/-! ## What an action does to the tone -/

namespace Headless

variable {h : Headless} {a : Action}

/-- What an action does to the tone of a machine and its buzzer. -/
inductive Sounds (h : Headless) (a : Action) : Prop
  /-- A frame ends, and the buzzer is started or stopped as the sound timer says. -/
  | gated (ha : h.machine.endsFrame a) (hf : (h.perform a).after.machine.fault = none)
      (hb : (h.perform a).after.buzzer.playing =
        if 0 < (h.perform a).after.machine.sound then
          some (h.buzzer.playing.getD (h.perform a).after.machine.config.toneFrequency)
        else
          none)
  /-- A fault halts the machine, and the buzzer is stopped. -/
  | silenced (fault : Failure) (hf : (h.perform a).after.machine.fault = some fault)
      (hb : (h.perform a).after.buzzer.playing = none)
  /-- The buzzer goes on as it is. -/
  | unchanged (ha : ¬ h.machine.endsFrame a)
      (hf : h.machine.raised (h.perform a).after.machine = [])
      (hb : (h.perform a).after.buzzer = h.buzzer)

/-- The buzzer hears the signals of an action. -/
theorem buzzer_perform (h : Headless) (a : Action) :
    (h.perform a).after.buzzer =
      (ToneDevice.hearAll h.buzzer
        ((h.machine.raised (h.perform a).after.machine).flatMap Failure.signals ++
          if h.machine.endsFrame a then (h.perform a).after.machine.frameSignals else [])).1 := by
  show (ToneDevice.hearAll h.buzzer (h.machine.perform a).events).1 = _
  rw [← ToneDevice.hearAll_filter, Machine.signals_perform]
  rfl

/-- At the end of a frame, the buzzer plays if the sound timer runs. -/
theorem playing_frameSignals (b : Buzzer) (m : Machine) :
    (ToneDevice.hearAll b m.frameSignals).1.playing =
      if 0 < m.sound then some (b.playing.getD m.config.toneFrequency) else none := by
  rw [ToneDevice.hearAll_frameSignals]
  split
  · exact b.playing_start _
  · exact b.playing_stop

/-- A frame that ends leaves no fault behind. -/
theorem fault_of_endsFrame {m : Machine} (ha : m.endsFrame a) :
    (m.perform a).machine.fault = none := by
  cases a with
  | cycle => exact (Machine.cycle_of_isOk ha).1
  | _ => cases ha

/-- An action does one of the listed things to the tone. -/
theorem sounds (h : Headless) (a : Action) : h.Sounds a := by
  have hb := h.buzzer_perform a
  by_cases ha : h.machine.endsFrame a
  · have hf : (h.perform a).after.machine.fault = none := fault_of_endsFrame ha
    rw [Machine.raised_of_fault_eq_none hf, if_pos ha, List.flatMap_nil, List.nil_append] at hb
    refine .gated ha hf ?_
    rw [hb]
    exact playing_frameSignals _ _
  · rw [if_neg ha, List.append_nil] at hb
    cases hraised : h.machine.raised (h.perform a).after.machine with
    | nil =>
      rw [hraised] at hb
      exact .unchanged ha hraised hb
    | cons fault faults =>
      have hf : h.machine.fault = none := by
        cases hf : h.machine.fault with
        | none => rfl
        | some _ =>
          rw [Machine.raised_of_halted hf] at hraised
          cases hraised
      rw [Machine.raised_of_running hf] at hraised hb
      cases hf' : (h.perform a).after.machine.fault with
      | none =>
        rw [hf'] at hraised
        cases hraised
      | some failure =>
        rw [hf'] at hb
        refine .silenced failure hf' ?_
        rw [hb]
        exact h.buzzer.playing_of_stopTone [.halted failure]

/-! ## One pitch, and silence after a fault -/

/-- What is true of the buzzer of a machine with some parameters, however the machine is run. -/
structure Tuned (h : Headless) (config : Config) : Prop where
  /-- The buzzer plays at the frequency of the parameters, if it plays. -/
  pitch : ∀ hertz, h.buzzer.playing = some hertz → hertz = config.toneFrequency
  /-- The buzzer of a halted machine is silent. -/
  silent : ∀ fault, h.machine.fault = some fault → h.buzzer.playing = none

variable {config : Config}

/-- A buzzer that is started plays at the frequency of the parameters. -/
theorem Tuned.getD_playing (ht : h.Tuned config) :
    h.buzzer.playing.getD config.toneFrequency = config.toneFrequency := by
  cases hb : h.buzzer.playing with
  | none => rfl
  | some hertz => exact ht.pitch hertz hb

/-- Every action keeps the pitch, and leaves the buzzer of a halted machine silent. -/
theorem Tuned.perform (ht : h.Tuned config) (hs : h.machine.Sound config) (a : Action) :
    (h.perform a).after.Tuned config := by
  have hconfig : (h.perform a).after.machine.config = config := (hs.perform a).config_eq
  cases h.sounds a with
  | gated ha hf hb =>
    rw [hconfig, ht.getD_playing] at hb
    constructor
    · intro hertz hplaying
      rw [hb] at hplaying
      split at hplaying
      · exact (Option.some.inj hplaying).symm
      · cases hplaying
    · intro fault hfault
      rw [hf] at hfault
      cases hfault
  | silenced fault hf hb =>
    constructor
    · intro hertz hplaying
      rw [hb] at hplaying
      cases hplaying
    · exact fun _ _ => hb
  | unchanged ha hf hb =>
    constructor
    · intro hertz hplaying
      rw [hb] at hplaying
      exact ht.pitch hertz hplaying
    · intro fault hfault
      rw [hb]
      cases hf' : h.machine.fault with
      | some failure => exact ht.silent failure hf'
      | none =>
        -- the fault would have been raised in the meantime
        rw [Machine.raised_of_running hf', hfault] at hf
        cases hf

/-- What every action preserves, a run preserves. -/
theorem after_preserves {P : Headless → Prop} {Q : Action → Prop}
    (hperform : ∀ h a, P h → Q a → P (h.perform a).after) (hh : P h) {actions : List Action}
    (ha : ∀ a ∈ actions, Q a) : P (h.after actions) := by
  induction actions generalizing h with
  | nil => exact hh
  | cons a actions ih =>
    refine ih (hperform h a hh (ha a List.mem_cons_self)) fun b hb => ha b ?_
    exact List.mem_cons_of_mem a hb

/-- A run that is interrupted. -/
theorem after_append (h : Headless) (first second : List Action) :
    h.after (first ++ second) = (h.after first).after second := by
  induction first generalizing h with
  | nil => rfl
  | cons a first ih => exact ih (h.perform a).after

/-- After every run, the machine respects its bounds, and its buzzer is tuned. -/
theorem tuned_after (config : Config) (generator : Random.Generator) (actions : List Action) :
    ((new config generator).after actions).machine.Sound config ∧
      ((new config generator).after actions).Tuned config := by
  refine after_preserves (P := fun h => h.machine.Sound config ∧ h.Tuned config)
    (Q := fun _ => True) ?_ ?_ fun _ _ => trivial
  · intro h a hh _
    exact ⟨hh.1.perform a, hh.2.perform hh.1 a⟩
  · exact ⟨Machine.sound_new config generator, nofun, nofun⟩

end Headless

/-! ## The tone follows the sound timer -/

/-- The tone that belongs to a machine: that of its parameters, as long as no fault halted it and
its sound timer runs. -/
def Machine.tone (m : Machine) : Option Nat :=
  if m.fault = none ∧ 0 < m.sound then some m.config.toneFrequency else none

/-- The host runs the machine by whole frames only. -/
def Action.isFramed : Action → Bool
  | step | runSteps _ => false
  | _ => true

namespace Headless

variable {h : Headless} {a : Action} {config : Config}

/-- The buzzer plays the tone that belongs to the machine, and is silent if none does. -/
def Follows (h : Headless) : Prop := h.buzzer.playing = h.machine.tone

/-- During a run, a program was loaded while the tone was playing, and no frame came after it. -/
def Lingers (h : Headless) (actions : List Action) : Prop :=
  ∃ first program rest, actions = first ++ .load program :: rest ∧
    program.length ≤ maxProgramSize ∧ (h.after first).buzzer.playing ≠ none ∧
    ∀ b ∈ rest, b ≠ .cycle

/-- The only framed action that runs the machine is a frame. -/
theorem not_runs_of_isFramed (ha : a.isFramed) (hcycle : a ≠ .cycle) : ¬ a.runs := by
  cases a with
  | step | runSteps count => cases ha
  | cycle => exact absurd rfl hcycle
  | _ => exact Bool.false_ne_true

/-- After a frame, the tone follows the sound timer. -/
theorem Tuned.follows_cycle (ht : h.Tuned config) (hs : h.machine.Sound config) :
    (h.perform .cycle).after.Follows := by
  have hconfig : (h.perform .cycle).after.machine.config = config := (hs.perform .cycle).config_eq
  have ht' := ht.perform hs .cycle
  unfold Follows Machine.tone
  cases h.sounds .cycle with
  | gated ha hf hb => rw [hb, hf, hconfig, ht.getD_playing]; simp
  | silenced fault hf hb => rw [hb, hf]; rfl
  | unchanged ha hf hb =>
    -- a frame that does not end leaves a fault behind
    obtain ⟨fault, hr⟩ := Reaction.exists_error ha
    have hfault : (h.perform .cycle).after.machine.fault = some fault :=
      Machine.fault_of_cycle_error hr
    rw [ht'.silent fault hfault, hfault]
    rfl

/-- An action that does not run the machine leaves the buzzer alone. -/
theorem buzzer_of_not_runs (ha : ¬ a.runs) : (h.perform a).after.buzzer = h.buzzer := by
  show (ToneDevice.hearAll h.buzzer (h.machine.perform a).events).1 = h.buzzer
  rw [← ToneDevice.hearAll_filter, Machine.signals_of_not_runs ha]
  rfl

/-- An action that neither loads a program nor runs the machine leaves the tone alone that belongs
to it. -/
theorem tone_of_not_replaces {m : Machine} (ha : ¬ a.runs) (hreplaces : ¬ a.replaces) :
    (m.perform a).machine.tone = m.tone := by
  obtain ⟨memory, screen, keypad, hm⟩ := Machine.perform_frame (m := m) hreplaces ha
  rw [hm]
  rfl

/-- A machine that has just loaded a program is not halted, and its sound timer is zero. -/
theorem sound_of_replaces {m : Machine} (ha : a.replaces) :
    (m.perform a).machine.fault = none ∧ (m.perform a).machine.sound = 0 := by
  cases a with
  | load program =>
    have hsize := Nat.not_lt_of_le (Action.replaces_load.1 ha)
    show (m.load program).machine.fault = none ∧ (m.load program).machine.sound = 0
    rw [Machine.load, if_neg hsize]
    exact ⟨rfl, rfl⟩
  | _ => cases ha

/-- To a machine whose sound timer is zero no tone belongs. -/
theorem tone_of_sound_eq_zero {m : Machine} (hsound : m.sound = 0) : m.tone = none := by
  rw [Machine.tone, hsound]
  exact if_neg fun hand => absurd hand.2 (by decide)

/-- Without a frame, the buzzer goes on as it is, and a machine that is not halted and has a sound
timer of zero stays so. -/
theorem after_of_not_runs {actions : List Action} (ha : ∀ a ∈ actions, ¬ a.runs)
    (hm : h.machine.fault = none ∧ h.machine.sound = 0) :
    (h.after actions).buzzer = h.buzzer ∧
      (h.after actions).machine.fault = none ∧ (h.after actions).machine.sound = 0 := by
  refine after_preserves
    (P := fun k => k.buzzer = h.buzzer ∧ k.machine.fault = none ∧ k.machine.sound = 0)
    (Q := fun a => ¬ a.runs) ?_ ⟨rfl, hm⟩ ha
  rintro k a ⟨hbuzzer, hk⟩ hruns
  refine ⟨(buzzer_of_not_runs hruns).trans hbuzzer, ?_⟩
  show (k.machine.perform a).machine.fault = none ∧ (k.machine.perform a).machine.sound = 0
  by_cases hreplaces : a.replaces
  · exact sound_of_replaces hreplaces
  · obtain ⟨memory, screen, keypad, hm⟩ := Machine.perform_frame (m := k.machine) hreplaces hruns
    rw [hm]
    exact hk

/-- A tone that lingers plays in a machine that is not halted and has a sound timer of zero. -/
theorem Lingers.playing {actions : List Action} (hl : h.Lingers actions)
    (hframed : ∀ a ∈ actions, a.isFramed) :
    (h.after actions).buzzer.playing ≠ none ∧
      (h.after actions).machine.fault = none ∧ (h.after actions).machine.sound = 0 := by
  obtain ⟨first, program, rest, rfl, hsize, hplaying, hrest⟩ := hl
  have hquiet : ∀ b ∈ rest, ¬ b.runs := by
    intro b hb
    refine not_runs_of_isFramed (hframed b ?_) (hrest b hb)
    exact List.mem_append_right first (List.mem_cons_of_mem _ hb)
  have hload : ¬ (Action.load program).runs := Bool.false_ne_true
  have hloaded := sound_of_replaces (m := (h.after first).machine) (Action.replaces_load.2 hsize)
  obtain ⟨hbuzzer, hmachine⟩ :=
    after_of_not_runs (h := ((h.after first).perform (.load program)).after) hquiet hloaded
  rw [buzzer_of_not_runs hload] at hbuzzer
  rw [after_append]
  refine ⟨?_, hmachine⟩
  show (((h.after first).perform (.load program)).after.after rest).buzzer.playing ≠ none
  rw [hbuzzer]
  exact hplaying

/-- In a run by frames, the tone follows the sound timer or lingers. -/
theorem follows_or_lingers (config : Config) (generator : Random.Generator) {actions : List Action}
    (hframed : ∀ a ∈ actions, a.isFramed) :
    ((new config generator).after actions).Follows ∨ (new config generator).Lingers actions := by
  -- the last action decides, so the induction is from the end
  induction actions using List.reverseRecOn with
  | nil => exact Or.inl rfl
  | append_singleton actions a ih =>
    rw [List.forall_mem_append, List.forall_mem_singleton] at hframed
    obtain ⟨hs, ht⟩ := tuned_after config generator actions
    rw [after_append]
    by_cases hcycle : a = .cycle
    · rw [hcycle]
      exact Or.inl (ht.follows_cycle hs)
    · have hruns := not_runs_of_isFramed hframed.2 hcycle
      rcases ih hframed.1 with hfollows | ⟨first, program, rest, rfl, hsize, hplaying, hrest⟩
      · by_cases hreplaces : a.replaces
        · cases a with
          | load program =>
            cases hplaying : ((new config generator).after actions).buzzer.playing with
            | none =>
              refine Or.inl ?_
              show (((new config generator).after actions).perform (.load program)).after.Follows
              rw [Follows, buzzer_of_not_runs hruns, hplaying]
              exact (tone_of_sound_eq_zero (sound_of_replaces hreplaces).2).symm
            | some hertz =>
              refine Or.inr ⟨actions, program, [], rfl, Action.replaces_load.1 hreplaces, ?_,
                List.forall_mem_nil _⟩
              rw [hplaying]
              exact Option.some_ne_none hertz
          | _ => cases hreplaces
        · refine Or.inl ?_
          show (((new config generator).after actions).perform a).after.Follows
          rw [Follows, buzzer_of_not_runs hruns]
          exact hfollows.trans (tone_of_not_replaces hruns hreplaces).symm
      · refine Or.inr ⟨first, program, rest ++ [a], ?_, hsize, hplaying, ?_⟩
        · rw [List.append_assoc, List.cons_append]
        · rw [List.forall_mem_append, List.forall_mem_singleton]
          exact ⟨hrest, hcycle⟩

/-- In a machine that is run by frames, the buzzer plays at the frequency of the parameters if it
plays. It plays just while the machine is not halted and its sound timer runs, unless a program was
loaded while the tone was playing and no frame has been run since. Then the tone goes on, although
the machine has a sound timer of zero. -/
theorem follows_iff (config : Config) (generator : Random.Generator) {actions : List Action}
    (hframed : ∀ a ∈ actions, a.isFramed) :
    let h := (new config generator).after actions
    (∀ hertz, h.buzzer.playing = some hertz → hertz = config.toneFrequency) ∧
    (h.Follows ↔ ¬ (new config generator).Lingers actions) ∧
    ((new config generator).Lingers actions →
      h.buzzer.playing ≠ none ∧ h.machine.fault = none ∧ h.machine.sound = 0) := by
  refine ⟨(tuned_after config generator actions).2.pitch, ?_, fun hl => hl.playing hframed⟩
  constructor
  · intro hfollows hl
    obtain ⟨hplaying, -, hsound⟩ := hl.playing hframed
    exact hplaying (hfollows.trans (tone_of_sound_eq_zero hsound))
  · exact fun hnot => (follows_or_lingers config generator hframed).resolve_right hnot

/-- A program sets its sound timer to 32 and jumps on the spot. While the tone plays another program
is loaded and a key is pressed: the tone lingers, and it does not follow the sound timer. -/
theorem follows_iff_reloaded :
    let actions := [Action.load [0x60, 0x20, 0xF0, 0x18, 0x12, 0x04], .cycle,
      .load [0x12, 0x00], .pressKey 3]
    let h := (new {} (.ofSeed 0)).after actions
    (∀ a ∈ actions, a.isFramed) ∧ (new {} (.ofSeed 0)).Lingers actions ∧
      ¬ h.Follows ∧ h.buzzer.playing = some 440 ∧ h.machine.sound = 0 := by
  intro actions
  dsimp only
  have hframed : ∀ a ∈ actions, a.isFramed := by decide
  have hplaying : ((new {} (.ofSeed 0)).after (actions.take 2)).buzzer.playing = some 440 := by
    decide +kernel
  have hl : (new {} (.ofSeed 0)).Lingers actions := by
    refine ⟨actions.take 2, [0x12, 0x00], [.pressKey 3], rfl, by decide, ?_, by decide⟩
    rw [hplaying]
    exact Option.some_ne_none 440
  obtain ⟨hpitch, hfollows, hlingers⟩ := follows_iff {} (.ofSeed 0) hframed
  obtain ⟨hsome, -, hsound⟩ := hlingers hl
  obtain ⟨hertz, hhertz⟩ := Option.ne_none_iff_exists'.1 hsome
  refine ⟨hframed, hl, fun hf => hfollows.1 hf hl, ?_, hsound⟩
  rw [hhertz, hpitch hertz hhertz]

/-- A tone that plays when a program is loaded outlasts the sound timer. -/
theorem playing_after_load :
    let h := (new {} (.ofSeed 0)).after
      [.load [0x60, 0x20, 0xF0, 0x18, 0x12, 0x04], .cycle, .load [0x12, 0x00]]
    h.buzzer.playing = some 440 ∧
      ¬ (h.buzzer.playing.isSome ↔ h.machine.fault = none ∧ 0 < h.machine.sound) := by
  decide +kernel

end Headless

end ChipEight
