/-
# Loading

An action of a host loads a program, runs the machine, or does neither; then it concerns memory and
the devices alone (`Machine.perform_frame`). Loading is refused to programs that do not fit into
memory and to fonts of a wrong size, and succeeds otherwise. Before all that a machine is switched
on, which succeeds if there is memory for its call stack (`Machine.switchOn_eq_ok_iff`).
-/
import ChipEight.Proofs.Invariant

namespace ChipEight

/-! ## Memory of the system -/

namespace System

variable {system : System} {bytes : Nat}

/-- More memory than can be had is not asked for. -/
theorem allocate_of_gt (h : maxAllocation < bytes) : system.allocate bytes = .error .capacity :=
  if_pos h

/-- Memory that is not granted is refused. -/
theorem allocate_of_not_grants (h : bytes ≤ maxAllocation)
    (hgrants : ¬ (bytes = 0 ∨ system.grants bytes)) : system.allocate bytes = .error .refused := by
  rw [allocate, if_neg (Nat.not_lt_of_le h), if_neg hgrants]

/-- Memory that is granted can be used. -/
theorem allocate_of_grants (h : bytes ≤ maxAllocation)
    (hgrants : bytes = 0 ∨ system.grants bytes) : system.allocate bytes = .ok () := by
  rw [allocate, if_neg (Nat.not_lt_of_le h), if_pos hgrants]

end System

/-! ## Kinds of actions -/

namespace Action

/-- Whether a program is loaded that fits into memory. -/
def replaces : Action → Bool
  | load program => decide (program.length ≤ maxProgramSize)
  | _ => false

/-- A program is loaded if it fits into memory. -/
theorem replaces_load {program : List UInt8} :
    (load program).replaces ↔ program.length ≤ maxProgramSize :=
  decide_eq_true_iff

/-- Whether a step or a frame is asked for. -/
def runs : Action → Bool
  | step | cycle => true
  | runSteps count => count != 0
  | _ => false

end Action

namespace Machine

variable {m : Machine} {a : Action}

/-! ## Switching on -/

/-- A machine is switched on unless the memory of its call stack is short, and then it is new. -/
theorem switchOn_eq (system : System) (config : Config) :
    switchOn system config =
      (system.allocate (stackBytes config)).map fun _ =>
        new config (source config system.entropy) := by
  unfold switchOn
  cases system.allocate (stackBytes config) <;> rfl

/-- A machine is switched on exactly if the memory of its call stack can be asked for and is
granted. -/
theorem switchOn_eq_ok_iff {system : System} {config : Config} :
    switchOn system config = .ok m ↔
      (stackBytes config ≤ System.maxAllocation ∧
        (stackBytes config = 0 ∨ system.grants (stackBytes config))) ∧
      m = new config (source config system.entropy) := by
  rw [switchOn_eq]
  constructor
  · intro h
    by_cases hsize : stackBytes config ≤ System.maxAllocation
    · by_cases hgrants : stackBytes config = 0 ∨ system.grants (stackBytes config)
      · rw [System.allocate_of_grants hsize hgrants] at h
        exact ⟨⟨hsize, hgrants⟩, (Except.ok.inj h).symm⟩
      · rw [System.allocate_of_not_grants hsize hgrants] at h
        cases h
    · rw [System.allocate_of_gt (Nat.lt_of_not_le hsize)] at h
      cases h
  · rintro ⟨⟨hsize, hgrants⟩, rfl⟩
    rw [System.allocate_of_grants hsize hgrants]
    rfl

/-- A machine whose parameters name a seed draws from the stream of that seed. -/
theorem eq_new_of_switchOn {system : System} {config : Config} {seed : UInt64}
    (hseed : config.seed = some seed) (h : switchOn system config = .ok m) :
    m = new config (.ofSeed seed) := by
  rw [(switchOn_eq_ok_iff.1 h).2, source, hseed]

/-! ## Loading -/

/-- A program that does not fit into memory is refused. -/
theorem load_of_gt {program : List UInt8} (h : maxProgramSize < program.length) :
    m.load program = { result := .error (.programTooLarge program.length), machine := m } := by
  rw [load, if_pos h]

/-- A program that fits into memory is loaded, and no fault remains. -/
theorem load_of_le {program : List UInt8} (h : program.length ≤ maxProgramSize) :
    (m.load program).result = .ok () ∧ (m.load program).machine.fault = none := by
  rw [load, if_neg (Nat.not_lt_of_le h)]
  exact ⟨rfl, rfl⟩

/-- A font of another size is refused. -/
theorem loadFont_of_ne {font : List UInt8} (h : font.length ≠ fontSize) :
    m.loadFont font = { result := .error (.wrongFontSize font.length), machine := m } := by
  rw [loadFont, if_pos h]

/-- A font of the right size is loaded. -/
theorem loadFont_of_eq {font : List UInt8} (h : font.length = fontSize) :
    (m.loadFont font).result = .ok () := by
  have hfit : Font.start + font.length ≤ memorySize := by
    rw [h]
    decide
  rw [loadFont, if_neg (not_not_intro h), Operation.writeMemory_of_le hfit m]

/-! ## Actions that neither load a program nor run the machine -/

/-- An action that neither loads a program nor runs the machine concerns memory and devices. -/
theorem perform_frame (ha : ¬ a.replaces) (hruns : ¬ a.runs) :
    ∃ memory screen keypad, (m.perform a).machine = { m with memory, screen, keypad } := by
  cases a with
  | load program =>
    rw [perform, load_of_gt (Nat.lt_of_not_le (mt Action.replaces_load.2 ha))]
    exact ⟨m.memory, m.screen, m.keypad, rfl⟩
  | loadFont font =>
    obtain ⟨⟨memory, hm⟩, -⟩ := loadFont_frame m font
    exact ⟨memory, m.screen, m.keypad, hm⟩
  | builtinFont =>
    refine ⟨m.memory.overwrite Font.start Font.builtin, m.screen, m.keypad, ?_⟩
    show m.withBuiltinFont = _
    rw [withBuiltinFont]
  | step | cycle => exact absurd rfl hruns
  | runSteps count =>
    cases count with
    | zero => exact ⟨m.memory, m.screen, m.keypad, rfl⟩
    | succ count => exact absurd rfl hruns
  | _ => exact ⟨m.memory, _, _, rfl⟩

/-! ## Random words -/

/-- The loading of a program leaves the source alone, whether the program is refused or not. -/
theorem generator_load (m : Machine) (program : List UInt8) :
    (m.load program).machine.generator = m.generator := by
  unfold load
  split <;> rfl

/-- The end of a frame leaves the source alone. -/
theorem generator_endFrame (m : Machine) : m.endFrame.1.generator = m.generator := by
  unfold endFrame
  cases m.isPaused <;> rfl

/-- A step changes the stream of random words in nothing. -/
theorem stream_step (m : Machine) : m.step.machine.generator.stream = m.generator.stream := by
  refine step_preserves (P := fun n => n.generator.stream = m.generator.stream)
    (fun _ _ _ h _ _ _ => h) ?_ rfl
  intro n h _ _
  rw [← h]
  cases n.fetched with
  | outside hpc hr | unknown hpc hd hr | refused i failure hi hf hr =>
    rw [hr]
    rfl
  | executed i e hi he hr =>
    rw [hr]
    exact (steered_of_effect he).stream

/-- No action changes the stream of random words. -/
theorem stream_perform (m : Machine) (a : Action) :
    (m.perform a).machine.generator.stream = m.generator.stream := by
  have hstep : ∀ n : Machine, n.generator.stream = m.generator.stream →
      n.step.machine.generator.stream = m.generator.stream := fun n h => (stream_step n).trans h
  cases a with
  | load program =>
    show (m.load program).machine.generator.stream = _
    rw [generator_load]
  | loadFont font =>
    obtain ⟨⟨memory, hm⟩, -⟩ := loadFont_frame m font
    show (m.loadFont font).machine.generator.stream = _
    rw [hm]
  | step => exact stream_step m
  | runSteps count => exact runSteps_preserves hstep rfl count
  | cycle =>
    refine cycle_preserves (P := fun n => n.generator.stream = m.generator.stream) hstep ?_ rfl
    intro n h
    rw [generator_endFrame]
    exact h
  | _ => rfl

/-- No run changes the stream of random words. -/
theorem stream_after (m : Machine) (actions : List Action) :
    (m.after actions).generator.stream = m.generator.stream :=
  after_preserves (P := fun n => n.generator.stream = m.generator.stream) (Q := fun _ => True)
    (fun n a h _ => (stream_perform n a).trans h) rfl fun _ _ => trivial

end Machine

end ChipEight
