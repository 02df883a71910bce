/-
# Machines never break their bounds

A machine that respects its bounds does the same on words of bounded size as on unbounded numbers:
nothing overflows, no access is outside of its table, and no instruction lands in the wrong family.
Since every run of a machine respects its bounds, no run breaks off (`Bounded.run_eq_after`). The
host keeps its part of the bargain if it toggles no pixel whose cell has no number of 64 bits.
-/
import ChipEight.Proofs.Bounded
import ChipEight.Proofs.Invariant

namespace ChipEight

/-- The host names no pixel whose cell lies beyond the numbers of 64 bits. -/
def Action.InRange : Action → Prop
  | togglePixel x y => x + 64 * y < 2 ^ 64
  | _ => True

namespace Bounded

variable {m : Machine} {config : Config}

/-! ## Steps -/

/-- Fetching a word breaks off nowhere. -/
theorem fetch_eq (h : m.Sound config) : Attempt.fetch m = .ok (Operation.fetch m) := by
  have hpc := h.pc_le
  have hmem : memorySize = 4096 := rfl
  have hread : Attempt.readMemory m.pc 2 m = _ := Attempt.readMemory_of_lt (by omega) m
  rw [Attempt.fetch, Attempt.view_bind]
  rcases Nat.lt_or_ge memorySize (m.pc + 2) with hlen | hlen
  · rw [Operation.readMemory_of_gt hlen] at hread
    rw [Attempt.bind_of_error hread, Machine.fetch_of_gt hlen]
  · rw [Operation.readMemory_of_le hlen] at hread
    rw [Attempt.bind_of_view hread, Machine.fetch_of_le hlen]
    rfl

/-- Decoding and executing what was fetched break off nowhere. -/
theorem operation_fetchExecute_eq (h : m.Sound config) :
    Attempt.fetchExecute m.pc m = .ok (Operation.fetchExecute m.pc m) := by
  rcases Nat.lt_or_ge memorySize (m.pc + 2) with hlen | hlen
  · have hfetch := fetch_eq h
    rw [Machine.fetch_of_gt hlen] at hfetch
    rw [Attempt.fetchExecute, Attempt.bind_of_error hfetch, Operation.fetchExecute,
      Operation.bind_of_error (Machine.fetch_of_gt hlen)]
  · refine Attempt.bind_eq (fetch_eq h) fun opcode => ?_
    rw [Machine.fetch_of_le hlen]
    cases hd : Instruction.decode? opcode with
    | none => rfl
    | some i =>
      have hfit : m.pc + 2 < 2 ^ 16 := Nat.lt_of_le_of_lt hlen (by decide)
      refine Attempt.bind_eq rfl fun _ => ?_
      refine (Attempt.checked_bind (fit_of_lt hfit) _ m).trans ?_
      refine Attempt.bind_eq rfl fun _ => ?_
      exact Attempt.execute_of_fits m.pc (Instruction.fits_of_decode? hd) hlen

/-- Fetching, decoding and executing break off nowhere. -/
theorem fetchExecute_eq (h : m.Sound config) : fetchExecute m = .ok m.fetchExecute := by
  rw [fetchExecute, Machine.fetchExecute, operation_fetchExecute_eq h]
  rcases Operation.fetchExecute m.pc m with ⟨_ | _, machine, events⟩ <;> rfl

/-- A step breaks off nowhere. -/
theorem step_eq (h : m.Sound config) : step m = .ok m.step := by
  rw [step]
  cases m.stepped with
  | halted fault hf hr =>
    rw [hr]
    simp only [hf, pure_eq_ok]
  | waiting register hf hk hs hr =>
    rw [hr]
    simp only [hf, hk, Keypad.take_of_not_delivered hs, pure_eq_ok]
  | resumed register key hf hk hs hr =>
    have hset := Attempt.setReg_of_lt (Key.toByte key) (h.keyWait_lt register hk) m
    have hfetch := fetchExecute_eq (h.resume register key)
    rw [hr]
    simp only [hf, hk, Keypad.take_of_delivered hs, hset, ok_bind]
    show (fetchExecute (m.resume register key) >>= _) = _
    rw [hfetch]
    rfl
  | running hf hk hr =>
    rw [hr]
    simp only [hf, hk]
    exact fetchExecute_eq h

/-- A batch of steps breaks off nowhere. -/
theorem runFrom_eq (h : m.Sound config) (flow : Flow) (seen : Array Event) (count : Nat) :
    runFrom flow seen count m = .ok (Machine.runFrom flow seen count m) := by
  -- the bounds travel with the machine: what is left of the batch starts from the next one
  induction count generalizing m flow seen with
  | zero => rfl
  | succ count ih =>
    rw [runFrom, Machine.runFrom, step_eq h, ok_bind]
    cases m.step.result with
    | error failure => rfl
    | ok next =>
      cases next with
      | keyWait => rfl
      | _ => exact ih h.step _ _

/-- The loop of a frame breaks off nowhere. -/
theorem loopFrom_eq (h : m.Sound config) (seen : Array Event) (count : Nat) :
    loopFrom seen count m = .ok (Machine.loopFrom seen count m) := by
  induction count generalizing m seen with
  | zero => rfl
  | succ count ih =>
    rw [loopFrom, Machine.loopFrom, step_eq h, ok_bind]
    cases m.step.result with
    | error failure => rfl
    | ok next =>
      cases next with
      | keyWait => rfl
      | _ => exact ih h.step _

/-- A frame breaks off nowhere. -/
theorem cycle_eq (h : m.Sound config) : cycle m = .ok m.cycle := by
  rw [cycle, Machine.cycle]
  cases m.fault with
  | some fault => rfl
  | none =>
    simp only [loopFrom_eq h, ok_bind]
    rw [← Machine.frameLoop]
    rcases m.frameLoop m.config.speed with ⟨_ | _, machine, events⟩ <;> rfl

/-! ## Loading -/

/-- The built-in font is put into memory. -/
theorem withBuiltinFont_eq (m : Machine) : withBuiltinFont m = .ok m.withBuiltinFont := by
  rw [withBuiltinFont, splice_of_le m.memory (by rw [Font.length_builtin]; rfl) (by decide)]
  rfl

/-- Loading a font breaks off nowhere. -/
theorem loadFont_eq (m : Machine) (font : List UInt8) :
    loadFont m font = .ok (m.loadFont font) := by
  rw [loadFont, Machine.loadFont]
  by_cases hsize : font.length = fontSize
  · have hlt : Font.start + font.length < 2 ^ 64 := by
      rw [hsize]
      decide
    rw [if_neg (not_not_intro hsize), if_neg (not_not_intro hsize),
      Attempt.writeMemory_of_lt hlt]
  · rw [if_pos hsize, if_pos hsize]
    rfl

/-- Loading a program breaks off nowhere. -/
theorem load_eq (m : Machine) (program : List UInt8) : load m program = .ok (m.load program) := by
  have hmax : maxProgramSize = 3584 := rfl
  have hstart : programStart = 512 := rfl
  have hmem : memorySize = 4096 := rfl
  rw [load, Machine.load]
  by_cases hsize : program.length > maxProgramSize
  · rw [if_pos hsize, if_pos hsize]
    rfl
  · have hreset : (blank m).withBuiltinFont = m.reset := rfl
    have hstop : programStart + program.length ≤ memorySize := by omega
    rw [if_neg hsize, if_neg hsize, withBuiltinFont_eq, ok_bind, fit_of_lt (by omega), ok_bind,
      splice_of_le _ rfl hstop, ok_bind, hreset]
    rfl

/-! ## Actions -/

/-- Actions in range break off nowhere. -/
theorem perform_eq (h : m.Sound config) {a : Action} (ha : a.InRange) :
    perform m a = .ok (m.perform a) := by
  cases a with
  | load program =>
    rw [perform, load_eq]
    rfl
  | loadFont font =>
    rw [perform, loadFont_eq]
    rfl
  | builtinFont =>
    rw [perform, withBuiltinFont_eq]
    rfl
  | step =>
    rw [perform, step_eq h]
    rfl
  | runSteps count =>
    rw [perform, runFrom_eq h]
    rfl
  | cycle =>
    rw [perform, cycle_eq h]
    rfl
  | togglePixel x y =>
    rw [perform, toggle_of_lt m.screen ha]
    rfl
  | _ => rfl

/-! ## Runs -/

/-- A machine that was just switched on. -/
def new (config : Config) (generator : Random.Generator) : Checked Machine :=
  withBuiltinFont { generator, config }

/-- The machine after a run. -/
def after (m : Machine) : List Action → Checked Machine
  | [] => .ok m
  | a :: actions => do after (← perform m a).machine actions

/-- A run whose actions are in range breaks off nowhere. -/
theorem after_eq (h : m.Sound config) {actions : List Action} (ha : ∀ a ∈ actions, a.InRange) :
    after m actions = .ok (m.after actions) := by
  induction actions generalizing m with
  | nil => rfl
  | cons a actions ih =>
    rw [after, perform_eq h (ha a List.mem_cons_self), ok_bind]
    exact ih (h.perform a) fun b hb => ha b (List.mem_cons_of_mem a hb)

/-- The run of a machine from when it was switched on. -/
def run (config : Config) (generator : Random.Generator) (actions : List Action) :
    Checked Machine := do
  after (← new config generator) actions

/-- Every run of actions in range breaks off nowhere on words of bounded size, leads to a machine
that respects its bounds, and can be continued by every action in range. -/
theorem run_eq_after (config : Config) (generator : Random.Generator) (actions : List Action)
    (ha : ∀ a ∈ actions, a.InRange) :
    ∃ m, run config generator actions = .ok m ∧
      m = (Machine.new config generator).after actions ∧ m.Sound config ∧
      ∀ a, a.InRange → perform m a = .ok (m.perform a) := by
  have hsound := Machine.sound_after config generator actions
  refine ⟨(Machine.new config generator).after actions, ?_, rfl, hsound,
    fun a ha => perform_eq hsound ha⟩
  rw [run, new, withBuiltinFont_eq, ok_bind]
  exact after_eq (Machine.sound_new config generator) ha

/-- A jump with an offset leaves memory as far as it can, and a pixel is toggled off the screen: the
run does not break off, nor does the fault that follows. -/
theorem run_far_jump :
    (∀ a ∈ [Action.load [0x60, 0xFF, 0xBF, 0xFF], .runSteps 2, .togglePixel 198 237], a.InRange) ∧
      ∃ m, run {} (.ofSeed 0)
          [.load [0x60, 0xFF, 0xBF, 0xFF], .runSteps 2, .togglePixel 198 237] = .ok m ∧
        m.pc = 4350 ∧ m.Sound {} ∧ perform m .step = .ok (m.perform .step) ∧
        (m.perform .step).result = .error (.memoryOutOfBounds 4350) := by
  have hrange : ∀ a ∈ [Action.load [0x60, 0xFF, 0xBF, 0xFF], .runSteps 2, .togglePixel 198 237],
      a.InRange := by
    simp [Action.InRange]
  obtain ⟨m, hrun, hm, hsound, hnext⟩ := run_eq_after {} (.ofSeed 0) _ hrange
  refine ⟨hrange, m, hrun, ?_, hsound, hnext .step trivial, ?_⟩
  · rw [hm]
    decide +kernel
  · rw [hm]
    decide +kernel

end Bounded

end ChipEight
