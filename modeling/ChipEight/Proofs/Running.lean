/-
# Runs

`Machine.runSteps` executes a chain of steps that neither fail nor wait for a key, and then a last
step, whose reaction is its own (`runSteps_succ`). The loop of a frame does the same
(`frameLoop_eq`). So what a step preserves, a batch of steps preserves, and with it a frame and
every action of a host. A run of a machine is a list of actions; `Machine.after` is the machine that
it leads to.
-/
import ChipEight.Proofs.Stepping

namespace ChipEight

/-! ## Reactions after other events -/

namespace Reaction

variable {α : Type}

/-- Nothing happened before. -/
theorem behind_nil (r : Reaction α) : r.behind [] = r := rfl

/-- Events that happened before come in their order. -/
theorem behind_behind (first second : List Event) (r : Reaction α) :
    (r.behind second).behind first = r.behind (first ++ second) := by
  simp only [behind, List.append_assoc]

/-- A batch of steps ends here: with a failure, or with a program that waits for a key. -/
def Stops (r : Reaction Flow) : Prop :=
  r.result = .ok .keyWait ∨ ∃ failure, r.result = .error failure

end Reaction

namespace Machine

/-! ## Batches of steps -/

/-- A number of steps in a row that neither fail nor wait for a key, and their events. -/
inductive Steps : Machine → Nat → List Event → Machine → Prop
  /-- No step. -/
  | refl (m : Machine) : Steps m 0 [] m
  /-- A step before others. -/
  | head {m m' : Machine} {flow : Flow} {count : Nat} {events : List Event}
      (hr : m.step.result = .ok flow) (hflow : flow ≠ .keyWait)
      (h : Steps m.step.machine count events m') :
      Steps m (count + 1) (m.step.events ++ events) m'

/-- What a step preserves, a chain of steps preserves. -/
theorem Steps.preserves {P : Machine → Prop} (hstep : ∀ m, P m → P m.step.machine)
    {m m' : Machine} {count : Nat} {events : List Event} (h : Steps m count events m')
    (hm : P m) : P m' := by
  induction h with
  | refl m => exact hm
  | head hr hflow h ih => exact ih (hstep _ hm)

/-- The first events of a batch are all that was seen so far. -/
theorem toList_empty_append (events : List Event) :
    ((#[] : Array Event) ++ events).toList = events := by
  simp

/-- A step that fails or waits ends its batch. -/
theorem runFrom_of_stops {m : Machine} (h : m.step.Stops) (flow : Flow) (count : Nat) :
    runFrom flow #[] (count + 1) m = m.step := by
  rcases h with h | ⟨failure, h⟩
  all_goals
    rw [runFrom]
    simp only [h, toList_empty_append]
    rw [← h]

/-- A step that neither fails nor waits comes before the rest of its batch. -/
theorem runFrom_of_ok {m : Machine} {next : Flow} (h : m.step.result = .ok next)
    (hnext : next ≠ .keyWait) (flow : Flow) (count : Nat) :
    runFrom flow #[] (count + 1) m =
      (runFrom next #[] count m.step.machine).behind m.step.events := by
  rw [runFrom]
  simp only [h]
  rw [runFrom_seen, toList_empty_append]

/-- A step stops its batch or does not. -/
theorem stops_or_ok (r : Reaction Flow) :
    r.Stops ∨ ∃ flow, r.result = .ok flow ∧ flow ≠ .keyWait := by
  cases h : r.result with
  | error failure => exact Or.inl (Or.inr ⟨failure, h⟩)
  | ok flow =>
    by_cases hflow : flow = .keyWait
    · subst hflow
      exact Or.inl (Or.inl h)
    · exact Or.inr ⟨flow, rfl, hflow⟩

/-- A batch that is not empty is a chain of steps and a last step; the last step stops the batch
unless all steps were taken. -/
theorem runFrom_succ (flow : Flow) (count : Nat) (m : Machine) :
    ∃ j events m', j ≤ count ∧ Steps m j events m' ∧
      runFrom flow #[] (count + 1) m = m'.step.behind events ∧ (j < count → m'.step.Stops) := by
  -- the flow is generalized, since a batch hands the one of its last step on
  induction count generalizing flow m with
  | zero =>
    refine ⟨0, [], m, Nat.le_refl 0, .refl m, ?_, fun h => absurd h (Nat.not_lt_zero 0)⟩
    rcases stops_or_ok m.step with h | ⟨next, h, hnext⟩
    · rw [runFrom_of_stops h, Reaction.behind_nil]
    · rw [runFrom_of_ok h hnext, Reaction.behind_nil]
      simp [runFrom, Reaction.behind, ← h]
  | succ count ih =>
    rcases stops_or_ok m.step with h | ⟨next, h, hnext⟩
    · exact ⟨0, [], m, Nat.zero_le _, .refl m, runFrom_of_stops h flow _, fun _ => h⟩
    · obtain ⟨j, events, m', hj, hsteps, hrun, hstops⟩ := ih next m.step.machine
      refine ⟨j + 1, m.step.events ++ events, m', Nat.succ_le_succ hj, .head h hnext hsteps, ?_,
        fun hlt => hstops (Nat.lt_of_succ_lt_succ hlt)⟩
      rw [runFrom_of_ok h hnext, hrun, Reaction.behind_behind]

/-- A batch that is not empty, as `runSteps` runs it. -/
theorem runSteps_succ (m : Machine) (count : Nat) :
    ∃ j events m', j ≤ count ∧ Steps m j events m' ∧
      m.runSteps (count + 1) = m'.step.behind events ∧ (j < count → m'.step.Stops) :=
  runFrom_succ .ok count m

/-- A chain of steps is a batch that succeeds. -/
theorem runFrom_of_steps {m m' : Machine} {count : Nat} {events : List Event}
    (h : Steps m count events m') (flow : Flow) (hflow : flow ≠ .keyWait) :
    ∃ last, last ≠ .keyWait ∧
      runFrom flow #[] count m = { result := .ok last, machine := m', events } := by
  induction h generalizing flow with
  | refl m => exact ⟨flow, hflow, rfl⟩
  | head hr hnext h ih =>
    obtain ⟨last, hlast, hrun⟩ := ih _ hnext
    refine ⟨last, hlast, ?_⟩
    rw [runFrom_of_ok hr hnext, hrun]
    rfl

/-- A chain of steps is a batch that succeeds, as `runSteps` runs it. -/
theorem runSteps_of_steps {m m' : Machine} {count : Nat} {events : List Event}
    (h : Steps m count events m') :
    ∃ last, last ≠ .keyWait ∧
      m.runSteps count = { result := .ok last, machine := m', events } :=
  runFrom_of_steps h .ok (by decide)

/-- A batch of a machine that waits for a key that was not pressed yet asks for the key once, and
does nothing else. -/
theorem runSteps_of_waiting {m : Machine} {register : UInt8} (hf : m.fault = none)
    (hk : m.keyWait = some register) (hs : ∀ key, m.keypad.slot ≠ .delivered key) (count : Nat) :
    m.runSteps count =
      { result := .ok (if count = 0 then .ok else .keyWait)
        machine := m
        events := if count = 0 then [] else [.takeKey none] } := by
  cases count with
  | zero => rfl
  | succ count =>
    have hstep := step_of_waiting hf hk hs
    have hstops : m.step.Stops := by
      rw [hstep]
      exact Or.inl rfl
    rw [runSteps, runFrom_of_stops hstops, hstep, if_neg count.succ_ne_zero,
      if_neg count.succ_ne_zero]

/-- What a step preserves, a batch of steps preserves. -/
theorem runSteps_preserves {P : Machine → Prop} (hstep : ∀ m, P m → P m.step.machine)
    {m : Machine} (hm : P m) (count : Nat) : P (m.runSteps count).machine := by
  cases count with
  | zero => exact hm
  | succ count =>
    obtain ⟨j, events, m', -, hsteps, hrun, -⟩ := runSteps_succ m count
    rw [hrun]
    exact hstep m' (hsteps.preserves hstep hm)

/-- What holds of all events of a step, holds of all events of a batch. -/
theorem forall_mem_runSteps {P : Event → Prop} (hstep : ∀ m : Machine, ∀ e ∈ m.step.events, P e)
    (m : Machine) (count : Nat) : ∀ e ∈ (m.runSteps count).events, P e := by
  have hchain : ∀ {m m' : Machine} {count : Nat} {events : List Event},
      Steps m count events m' → ∀ e ∈ events, P e := by
    intro m m' count events h
    induction h with
    | refl m => exact List.forall_mem_nil _
    | @head m _ _ _ _ hr hflow h ih =>
      intro e he
      rcases List.mem_append.1 he with he | he
      · exact hstep m e he
      · exact ih e he
  cases count with
  | zero => exact List.forall_mem_nil _
  | succ count =>
    obtain ⟨j, events, m', -, hsteps, hrun, -⟩ := runSteps_succ m count
    intro e he
    rw [hrun] at he
    rcases List.mem_append.1 he with he | he
    · exact hchain hsteps e he
    · exact hstep m' e he

/-! ## Frames -/

/-- A frame of a halted machine. -/
theorem cycle_of_fault {m : Machine} {fault : Failure} (hf : m.fault = some fault) :
    m.cycle = { result := .error fault, machine := m } := by
  simp only [cycle, hf]

/-- The loop of a frame executes what a batch of steps executes, and in the same way, but for the
flow of the last step. -/
theorem loopFrom_eq (flow : Flow) (seen : Array Event) (count : Nat) (m : Machine) :
    loopFrom seen count m = (runFrom flow seen count m).map fun _ => () := by
  induction count generalizing flow seen m with
  | zero => rfl
  | succ count ih =>
    rw [loopFrom, runFrom]
    cases m.step.result with
    | error failure => rfl
    | ok next =>
      cases next with
      | keyWait => rfl
      | _ => exact ih _ _ _

/-- The loop of a frame is a batch of steps, but for the flow of the last one. -/
theorem frameLoop_eq (m : Machine) (count : Nat) :
    m.frameLoop count = (m.runSteps count).map fun _ => () :=
  loopFrom_eq .ok #[] count m

/-- A frame whose steps fail ends with the failing step. -/
theorem cycle_of_error {m : Machine} {failure : Failure} (hf : m.fault = none)
    (h : (m.runSteps m.config.speed).result = .error failure) :
    m.cycle =
      { result := .error failure
        machine := (m.runSteps m.config.speed).machine
        events := (m.runSteps m.config.speed).events } := by
  have hloop : m.frameLoop m.config.speed =
      { result := .error failure
        machine := (m.runSteps m.config.speed).machine
        events := (m.runSteps m.config.speed).events } := by
    rw [frameLoop_eq, Reaction.map, h]
    rfl
  simp only [cycle, hf, hloop]

/-- A frame whose steps succeed is finished. -/
theorem cycle_of_ok {m : Machine} {flow : Flow} (hf : m.fault = none)
    (h : (m.runSteps m.config.speed).result = .ok flow) :
    m.cycle =
      { result := .ok ()
        machine := (m.runSteps m.config.speed).machine.endFrame.1
        events :=
          (m.runSteps m.config.speed).events ++
            (m.runSteps m.config.speed).machine.endFrame.2 } := by
  have hloop : m.frameLoop m.config.speed =
      { result := .ok ()
        machine := (m.runSteps m.config.speed).machine
        events := (m.runSteps m.config.speed).events } := by
    rw [frameLoop_eq, Reaction.map, h]
    rfl
  simp only [cycle, hf, hloop]

/-- What steps and the ends of frames preserve, a frame preserves. -/
theorem cycle_preserves {P : Machine → Prop} (hstep : ∀ m, P m → P m.step.machine)
    (hframe : ∀ m, P m → P m.endFrame.1) {m : Machine} (hm : P m) : P m.cycle.machine := by
  have hbatch := runSteps_preserves hstep hm m.config.speed
  cases hf : m.fault with
  | some fault =>
    rw [cycle_of_fault hf]
    exact hm
  | none =>
    cases h : (m.runSteps m.config.speed).result with
    | error failure =>
      rw [cycle_of_error hf h]
      exact hbatch
    | ok flow =>
      rw [cycle_of_ok hf h]
      exact hframe _ hbatch

/-! ## Ends of frames -/

/-- The end of a frame leaves the keypad, the wait and the fault alone. -/
theorem endFrame_frame (m : Machine) :
    m.endFrame.1.keypad = m.keypad ∧ m.endFrame.1.keyWait = m.keyWait ∧
      m.endFrame.1.fault = m.fault := by
  unfold endFrame
  cases m.isPaused
  · exact ⟨rfl, rfl, rfl⟩
  · exact ⟨rfl, rfl, rfl⟩

/-- The tone is switched on or off. -/
theorem toneCall_cases (m : Machine) :
    m.toneCall = .startTone m.config.toneFrequency ∨ m.toneCall = .stopTone := by
  unfold toneCall
  split
  · exact Or.inl rfl
  · exact Or.inr rfl

/-- The end of a frame calls the tone and the screen only. -/
theorem mem_endFrame {m : Machine} {event : Event} (h : event ∈ m.endFrame.2) :
    (∃ hertz, event = .startTone hertz) ∨ event = .stopTone ∨ event = .render := by
  rcases List.mem_cons.1 h with rfl | h
  · rcases toneCall_cases (if m.isPaused then m else m.tickTimers) with hcall | hcall
    · exact Or.inl ⟨_, hcall⟩
    · exact Or.inr (Or.inl hcall)
  · exact Or.inr (Or.inr (List.mem_singleton.1 h))

/-! ## Runs of actions -/

/-- The machine after a run. -/
def after (m : Machine) : List Action → Machine
  | [] => m
  | a :: actions => (m.perform a).machine.after actions

/-- What happens during a run. -/
def trace (m : Machine) : List Action → List Event
  | [] => []
  | a :: actions => (m.perform a).events ++ (m.perform a).machine.trace actions

/-- A run that is interrupted goes on where it was. -/
theorem after_append (m : Machine) (first second : List Action) :
    m.after (first ++ second) = (m.after first).after second := by
  induction first generalizing m with
  | nil => rfl
  | cons a first ih => exact ih (m.perform a).machine

/-- What happens during a run that is interrupted. -/
theorem trace_append (m : Machine) (first second : List Action) :
    m.trace (first ++ second) = m.trace first ++ (m.after first).trace second := by
  induction first generalizing m with
  | nil => rfl
  | cons a first ih =>
    show (m.perform a).events ++ (m.perform a).machine.trace (first ++ second) = _
    rw [ih, ← List.append_assoc]
    rfl

/-- What each action of a run preserves, the run preserves. -/
theorem after_preserves {P : Machine → Prop} {Q : Action → Prop}
    (hperform : ∀ m a, P m → Q a → P (m.perform a).machine) {m : Machine} (hm : P m)
    {actions : List Action} (ha : ∀ a ∈ actions, Q a) : P (m.after actions) := by
  induction actions generalizing m with
  | nil => exact hm
  | cons a actions ih =>
    refine ih (hperform m a hm (ha a List.mem_cons_self)) fun b hb => ha b ?_
    exact List.mem_cons_of_mem a hb

end Machine

end ChipEight
