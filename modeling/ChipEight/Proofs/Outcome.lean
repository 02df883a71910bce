/-
# Outcomes of the command line

A run of the command line shows what a machine without a host would show that is driven in the same
way: a frame is run after the strokes before it, until one fails or all have been run. The bell in
place of the buzzer makes no difference, and neither does the source of the random bytes as long as
none is drawn (`Machine.Mirrors`). The exit code tells whether a frame failed, and the screen is
shown in either case (`Outcome.outcome_of_arguments`).
-/
import ChipEight.CommandLine.Documents
import ChipEight.Proofs.Halted
import ChipEight.Proofs.Source
import ChipEight.Proofs.Strokes
import Mathlib.Algebra.Group.Nat.Defs

namespace ChipEight

namespace CommandLine

/-- The frames and strokes up to a frame come before those up to a later one. -/
theorem exists_playing_append (ks : List Key) {i j : Nat} (h : i ≤ j) :
    ∃ rest, playing ks j = playing ks i ++ rest := by
  induction h with
  | refl => exact ⟨[], (List.append_nil _).symm⟩
  | @step j _ ih =>
    obtain ⟨rest, hrest⟩ := ih
    exact ⟨rest ++ (strokes ks j ++ [.cycle]), by rw [playing_succ, hrest, List.append_assoc]⟩

end CommandLine

namespace Machine

open CommandLine

variable {m : Machine} {ks : List Key} {i count : Nat}

/-- Two machines give the same results frame by frame and show the same screens. -/
structure Mirrors (m n : Machine) (ks : List Key) (count : Nat) : Prop where
  /-- Every frame has the same result and shows the same screen. -/
  frame : ∀ i < count, (m.atFrame ks i).cycle.result = (n.atFrame ks i).cycle.result ∧
    (m.atFrame ks i).cycle.machine.screen = (n.atFrame ks i).cycle.machine.screen
  /-- In the end they show the same screen. -/
  last : (m.after (playing ks count)).screen = (n.after (playing ks count)).screen

/-- A machine with another source goes on like before, if it draws no random byte. -/
theorem mirrors_withSource (r : Random.Generator) (h : Drawless (m.trace (playing ks count))) :
    (m.withSource r).Mirrors m ks count := by
  have hprefix : ∀ {i}, i ≤ count → Drawless (m.trace (playing ks i)) := by
    intro i hi
    obtain ⟨rest, hrest⟩ := exists_playing_append ks hi
    rw [hrest, trace_append] at h
    exact (drawless_append.1 h).1
  constructor
  · intro i hi
    have hframe := hprefix (Nat.succ_le_of_lt hi)
    rw [playing_succ, ← List.append_assoc, trace_append] at hframe
    obtain ⟨hbefore, hcycle⟩ := drawless_append.1 hframe
    have hsame : (m.withSource r).atFrame ks i = (m.atFrame ks i).withSource r :=
      after_withSource r hbefore
    have hrun : ((m.atFrame ks i).withSource r).cycle = (m.atFrame ks i).cycle.withSource r :=
      cycle_withSource r (drawless_append.1 hcycle).1
    rw [hsame, hrun]
    exact ⟨rfl, rfl⟩
  · rw [after_withSource r h]
    rfl

end Machine

namespace CommandLine

namespace Setting

open Session

variable (g : Setting) (entropy key : Random.Key)

/-- With other random bits from outside, a session begins with the same machine up to its source. -/
theorem machine_eq_withSource :
    g.machine entropy = (g.machine key).withSource (Machine.source g.config entropy) := by
  have hnew : Machine.new g.config (Machine.source g.config entropy) =
      (Machine.new g.config (Machine.source g.config key)).withSource
        (Machine.source g.config entropy) := rfl
  rw [machine, hnew, Machine.load_withSource]
  rfl

/-- A session runs like every machine with the same seed, and if no random byte is drawn, like every
machine at all. -/
theorem mirrors {ks : List Key} {count : Nat}
    (h : g.config.seed.isSome ∨ key = entropy ∨
      Drawless ((g.machine key).trace (playing ks count))) :
    (g.machine entropy).Mirrors (g.machine key) ks count := by
  have hsame : g.machine entropy = g.machine key →
      (g.machine entropy).Mirrors (g.machine key) ks count := by
    intro h
    rw [h]
    exact ⟨fun i _ => ⟨rfl, rfl⟩, rfl⟩
  rcases h with hseed | rfl | hdraws
  · apply hsame
    obtain ⟨own, hown⟩ := Option.isSome_iff_exists.1 hseed
    rw [machine, machine, Machine.source, Machine.source, hown]
  · exact hsame rfl
  · rw [g.machine_eq_withSource entropy key]
    exact Machine.mirrors_withSource _ hdraws

/-- The machine without a host that is loaded with the program of a setting. -/
def headless : Headless :=
  ((Headless.new g.config (Machine.source g.config entropy)).perform (.load g.program)).after

/-- A frame of a session succeeds or fails as the one of the machine without a host does. -/
theorem failure_before {ks : List Key} {text : String} {count i : Nat} (hks : g.keysOf text = ks)
    (h : (g.machine entropy).Mirrors (g.machine key) ks count) (hi : i < count) :
    let report := ((g.headless key).after (playing ks i ++ strokes ks i)).perform .cycle
    let s := (g.session entropy text).before i
    (s.frame.failure = none ↔ report.result.isOk) ∧
      (∀ failure, s.frame.failure = some failure ↔ report.result = .error failure) ∧
      s.frame.session.machine.screen = report.after.machine.screen := by
  intro report s
  have hready : s.ready = (g.machine entropy).atFrame ks i := by
    rw [← hks]
    exact g.ready_before entropy text i
  obtain ⟨hresult, hscreen⟩ := h.frame i hi
  have hmachine : ((g.headless key).after (playing ks i ++ strokes ks i)).machine =
      (g.machine key).atFrame ks i := Headless.machine_after _ _
  have hreport : report.result =
      ((g.machine key).atFrame ks i).cycle.result.map fun _ => Answer.done := by
    show (((g.headless key).after _).machine.perform .cycle).result = _
    rw [hmachine]
    rfl
  refine ⟨?_, ?_, ?_⟩
  · rw [failure_eq_none_iff, hready, hresult, hreport]
    rcases ((g.machine key).atFrame ks i).cycle.result with failure | done
    · exact ⟨nofun, nofun⟩
    · exact ⟨fun _ => rfl, fun _ => rfl⟩
  · intro failure
    rw [failure_eq_some_iff, hready, hresult, hreport]
    rcases ((g.machine key).atFrame ks i).cycle.result with other | done
    · simp [Except.map]
    · exact ⟨nofun, nofun⟩
  · rw [frame_session]
    show s.ready.cycle.machine.screen =
      (((g.headless key).after _).machine.perform .cycle).machine.screen
    rw [hready, hmachine, hscreen]
    rfl

end Setting

namespace Outcome

open Session

variable {parsers : Parsers} {system : System} {arguments : List String} {options : Options}
  {g : Setting}

/-! ## Runs without a frame -/

/-- A run that ends with an error before its first frame shows nothing. -/
theorem of_error {error : RunError} (hparse : Options.parse arguments = .ok options)
    (hstart : (start parsers system options).Gives (.error (.error error))) :
    let outcome := ofArguments parsers system arguments
    outcome.code = 1 ∧ outcome.output = "" ∧ (framesRun parsers system arguments).length = 0 ∧
      outcome.log.getLast? = some ⟨.error, error.message⟩ := by
  obtain ⟨told, houtcome, hframes, -⟩ := of_breakdown hparse hstart
  rw [houtcome, hframes]
  exact ⟨rfl, rfl, rfl, List.getLast?_concat ..⟩

/-- A run for which there is no memory shows nothing, and there is none for a machine without a host
either. -/
theorem of_shortage {shortage : Shortage} (hparse : Options.parse arguments = .ok options)
    (hread : Setting.read parsers system.files options = .ok g)
    (h : system.allocate (Machine.stackBytes g.config) = .error shortage) :
    let outcome := ofArguments parsers system arguments
    outcome.code = starved shortage ∧ outcome.output = "" ∧
      (framesRun parsers system arguments).length = 0 ∧
      ∀ entropy, Headless.switchOn { system with entropy } g.config = .error shortage := by
  have hswitch : ∀ entropy,
      Machine.switchOn { system with entropy } g.config = .error shortage := by
    intro entropy
    rw [Machine.switchOn_eq]
    show (system.allocate _).map _ = _
    rw [h]
    rfl
  have hstart := start_of_setting hread
  rw [Setting.begin_of_shortage (hswitch system.entropy)] at hstart
  obtain ⟨told, houtcome, hframes, -⟩ := of_breakdown hparse hstart
  rw [houtcome, hframes]
  refine ⟨rfl, rfl, rfl, ?_⟩
  intro entropy
  rw [Headless.switchOn, hswitch]
  rfl

/-! ## Runs with frames -/

/-- The frames of a session show what those of the machine without a host do. -/
theorem ofFrames_of_mirrors {entropy key : Random.Key} {keys : String} {count : Nat}
    (hmirrors : (g.machine entropy).Mirrors (g.machine key) (g.keysOf keys) count)
    (log : Array Log.Entry) :
    let ks := g.keysOf keys
    let h := g.headless key
    let s := g.session entropy keys
    let outcome := ofFrames count count s log
    let report := fun i => (h.after (playing ks i ++ strokes ks i)).perform .cycle
    (∀ f failure, f < count → (∀ i < f, (report i).result.isOk) →
      (report f).result = .error failure →
      outcome.code = 1 ∧ outcome.output = (report f).after.machine.screen.dump ++ "\n" ∧
        (s.frames count).length = f + 1) ∧
    ((∀ i < count, (report i).result.isOk) →
      outcome.code = 0 ∧
        outcome.output = (h.after (playing ks count)).machine.screen.dump ++ "\n" ∧
        (s.frames count).length = count) := by
  intro ks h s outcome report
  have hframe : ∀ i < count,
      ((s.before i).frame.failure = none ↔ (report i).result.isOk) ∧
        (∀ failure, (s.before i).frame.failure = some failure ↔
          (report i).result = .error failure) ∧
        (s.before i).frame.session.machine.screen = (report i).after.machine.screen :=
    fun i hi => g.failure_before entropy key rfl hmirrors hi
  constructor
  · intro f failure hf hbefore hreport
    have hok : ∀ i < f, (s.before i).frame.failure = none :=
      fun i hi => (hframe i (Nat.lt_trans hi hf)).1.2 (hbefore i hi)
    obtain ⟨-, hfailure, hscreen⟩ := hframe f hf
    have hfails := (hfailure failure).2 hreport
    -- a screen is shown for faults only, but cycles fail in no other way
    have hfault : failure.isFault := by
      have hsound := (g.sound_machine key).after (playing ks f ++ strokes ks f)
      have hmachine := Headless.machine_after (g.headless key) (playing ks f ++ strokes ks f)
      exact hsound.isFault_of_error (a := .cycle) (hmachine ▸ hreport)
    have hlast : outcome = _ := ofFrames_of_failure hf hok hfails count log
    rw [if_pos hfault] at hlast
    rw [hlast]
    refine ⟨rfl, ?_, length_frames_of_failure hf hok hfails⟩
    show (s.before f).frame.session.machine.screen.dump ++ "\n" = _
    rw [hscreen]
  · intro hall
    have hok : ∀ i < count, (s.before i).frame.failure = none :=
      fun i hi => (hframe i hi).1.2 (hall i hi)
    have hlast : outcome = _ := ofFrames_of_ok hok count log
    rw [hlast]
    refine ⟨rfl, ?_, length_frames_of_ok hok⟩
    show (s.before count).machine.screen.dump ++ "\n" = _
    have hmachine : (h.after (playing ks count)).machine =
        (g.machine key).after (playing ks count) := Headless.machine_after _ _
    rw [g.machine_before, hmachine, ← hmirrors.last]

end Outcome

end CommandLine

end ChipEight
