/-
# The ticks of a run

A run of a machine consists of ticks: single steps, ends of frames, and actions of the host that run
nothing. A batch of steps has a tick for every step that it comes to, and a frame has one more if it
ends. `Machine.Ticks` says that ticks lead from one machine to another and what happens meanwhile;
the ticks of a run lead to the machine after it and make up its trace (`Machine.ticks_after`). So
what holds of every tick holds at every moment of a run, also inside batches and frames.
-/
import ChipEight.Proofs.Loading

namespace ChipEight

/-! ## Ticks -/

/-- The smallest part of a run. -/
inductive Tick where
  /-- A machine takes a step. -/
  | step (m : Machine)
  /-- A machine ends a frame. -/
  | endFrame (m : Machine)
  /-- The host performs an action that runs nothing. -/
  | act (m : Machine) (a : Action)

namespace Tick

/-- The machine before a tick. -/
def before : Tick → Machine
  | step m | endFrame m | act m _ => m

/-- The machine after a tick. -/
def after : Tick → Machine
  | step m => m.step.machine
  | endFrame m => m.endFrame.1
  | act m a => (m.perform a).machine

/-- What happens during a tick. -/
def events : Tick → List Event
  | step m => m.step.events
  | endFrame m => m.endFrame.2
  | act m a => (m.perform a).events

end Tick

namespace Machine

/-- The ticks of up to `count` steps: one that fails or waits for a key is the last one. -/
def stepTicks (m : Machine) : Nat → List Tick
  | 0 => []
  | count + 1 =>
    match m.step.result with
    | .error _ | .ok .keyWait => [.step m]
    | .ok _ => .step m :: m.step.machine.stepTicks count

/-- The ticks of an action. -/
def actionTicks (m : Machine) : Action → List Tick
  | .step => [.step m]
  | .runSteps count => m.stepTicks count
  | .cycle =>
    match m.fault with
    | some _ => []
    | none =>
      let batch := m.runSteps m.config.speed
      match batch.result with
      | .error _ => m.stepTicks m.config.speed
      | .ok _ => m.stepTicks m.config.speed ++ [.endFrame batch.machine]
  | a => [.act m a]

/-- The ticks of a run. -/
def ticks (m : Machine) : List Action → List Tick
  | [] => []
  | a :: actions => m.actionTicks a ++ (m.perform a).machine.ticks actions

/-! ## Where ticks lead -/

/-- Ticks that follow on each other lead from a machine to another one, and the events meanwhile. -/
inductive Ticks : Machine → List Tick → List Event → Machine → Prop
  /-- No tick. -/
  | refl (m : Machine) : Ticks m [] [] m
  /-- A tick before others. -/
  | head (t : Tick) {ticks : List Tick} {events : List Event} {m' : Machine}
      (h : Ticks t.after ticks events m') : Ticks t.before (t :: ticks) (t.events ++ events) m'

namespace Ticks

variable {m m' m'' : Machine} {first second : List Tick} {events events' : List Event}

/-- A single tick. -/
theorem single (t : Tick) : Ticks t.before [t] t.events t.after := by
  have h := head t (refl t.after)
  rwa [List.append_nil] at h

/-- Without a tick, nothing changes. -/
theorem eq_of_nil (h : Ticks m [] events m') : m' = m := by
  cases h
  rfl

/-- Ticks that lead on. -/
theorem trans (h : Ticks m first events m') (h' : Ticks m' second events' m'') :
    Ticks m (first ++ second) (events ++ events') m'' := by
  induction h with
  | refl m => exact h'
  | head t h ih =>
    rw [List.append_assoc]
    exact head t (ih h')

/-- Ticks can be interrupted. -/
theorem split (h : Ticks m (first ++ second) events m'') :
    ∃ m' events₁ events₂, Ticks m first events₁ m' ∧ Ticks m' second events₂ m'' := by
  induction first generalizing m events with
  | nil => exact ⟨m, [], events, refl m, h⟩
  | cons t first ih =>
    cases h with
    | head _ h =>
      obtain ⟨m', events₁, events₂, hfirst, hsecond⟩ := ih h
      exact ⟨m', t.events ++ events₁, events₂, head t hfirst, hsecond⟩

/-- What every tick preserves holds at the end and after every tick. -/
theorem preserves {P : Machine → Prop} (h : Ticks m first events m')
    (htick : ∀ t ∈ first, P t.before → P t.after) (hm : P m) :
    P m' ∧ ∀ t ∈ first, P t.after := by
  induction h with
  | refl m => exact ⟨hm, List.forall_mem_nil _⟩
  | head t h ih =>
    have ht := htick t List.mem_cons_self hm
    obtain ⟨hend, hall⟩ := ih (fun u hu => htick u (List.mem_cons_of_mem t hu)) ht
    exact ⟨hend, List.forall_mem_cons.2 ⟨ht, hall⟩⟩

/-- Ticks up to a certain one lead to the machine after that one. -/
theorem upTo {t : Tick} (h : Ticks m second events m'') (hseen : first ++ [t] <+: second) :
    ∃ events', Ticks m (first ++ [t]) events' t.after := by
  obtain ⟨rest, rfl⟩ := hseen
  obtain ⟨m₁, events₁, _, hfirst, -⟩ := h.split
  obtain ⟨m₂, _, _, -, hlast⟩ := hfirst.split
  cases hlast with
  | head _ hnil =>
    rw [hnil.eq_of_nil] at hfirst
    exact ⟨events₁, hfirst⟩

/-- Ticks before a certain one lead to the machine before that one. -/
theorem upToBefore {t : Tick} (h : Ticks m second events m'') (hseen : first ++ [t] <+: second) :
    ∃ events', Ticks m first events' t.before := by
  obtain ⟨rest, rfl⟩ := hseen
  obtain ⟨m₁, _, _, hfirst, -⟩ := h.split
  obtain ⟨m₂, events₂, _, hbefore, hlast⟩ := hfirst.split
  cases hlast with
  | head _ _ => exact ⟨events₂, hbefore⟩

/-- Ticks go on from the machine after any of them. -/
theorem goesOn {t : Tick} {later : List Tick} (h : Ticks m second events m'')
    (hseen : first ++ t :: later <+: second) :
    ∃ events' m', Ticks t.after later events' m' := by
  obtain ⟨rest, rfl⟩ := hseen
  obtain ⟨m₁, _, _, hfirst, -⟩ := h.split
  obtain ⟨m₂, _, _, -, hlater⟩ := hfirst.split
  cases hlater with
  | head _ hlater => exact ⟨_, _, hlater⟩

end Ticks

/-! ## The ticks of a run lead to its end -/

variable {m : Machine}

/-- The ticks of a batch that goes on. -/
theorem stepTicks_of_ok {flow : Flow} (h : m.step.result = .ok flow) (hflow : flow ≠ .keyWait)
    (count : Nat) : m.stepTicks (count + 1) = .step m :: m.step.machine.stepTicks count := by
  rw [stepTicks, h]
  cases flow with
  | keyWait => exact absurd rfl hflow
  | _ => rfl

/-- The ticks of a batch that stops. -/
theorem stepTicks_of_stops (h : m.step.Stops) (count : Nat) :
    m.stepTicks (count + 1) = [.step m] := by
  rcases h with h | ⟨failure, h⟩
  · rw [stepTicks, h]
  · rw [stepTicks, h]

/-- A batch of steps consists of its ticks, whatever the flow so far. -/
theorem ticks_runFrom (m : Machine) (flow : Flow) (count : Nat) :
    Ticks m (m.stepTicks count) (runFrom flow #[] count m).events
      (runFrom flow #[] count m).machine := by
  induction count generalizing flow m with
  | zero => exact .refl m
  | succ count ih =>
    rcases stops_or_ok m.step with hstops | ⟨next, hok, hnext⟩
    · rw [stepTicks_of_stops hstops, runFrom_of_stops hstops]
      exact .single (.step m)
    · rw [stepTicks_of_ok hok hnext, runFrom_of_ok hok hnext]
      exact .head (.step m) (ih m.step.machine next)

/-- A frame consists of its ticks. -/
theorem ticks_cycle (m : Machine) :
    Ticks m (m.actionTicks .cycle) m.cycle.events m.cycle.machine := by
  have hbatch := m.ticks_runFrom .ok m.config.speed
  cases hf : m.fault with
  | some fault =>
    rw [cycle_of_fault hf, actionTicks, hf]
    exact .refl m
  | none =>
    cases hr : (m.runSteps m.config.speed).result with
    | error failure =>
      rw [cycle_of_error hf hr, actionTicks, hf]
      dsimp only
      rw [hr]
      exact hbatch
    | ok flow =>
      rw [cycle_of_ok hf hr, actionTicks, hf]
      dsimp only
      rw [hr]
      exact hbatch.trans (.single (.endFrame _))

/-- An action consists of its ticks. -/
theorem ticks_perform (m : Machine) (a : Action) :
    Ticks m (m.actionTicks a) (m.perform a).events (m.perform a).machine := by
  cases a with
  | step => exact .single (.step m)
  | runSteps count => exact m.ticks_runFrom .ok count
  | cycle => exact m.ticks_cycle
  | _ => exact .single (.act m _)

/-- A run consists of its ticks: they make up its trace and lead to the machine after it. -/
theorem ticks_after (m : Machine) (actions : List Action) :
    Ticks m (m.ticks actions) (m.trace actions) (m.after actions) := by
  induction actions generalizing m with
  | nil => exact .refl m
  | cons a actions ih => exact (m.ticks_perform a).trans (ih (m.perform a).machine)

/-- The ticks of a run that is interrupted. -/
theorem ticks_append (m : Machine) (first second : List Action) :
    m.ticks (first ++ second) = m.ticks first ++ (m.after first).ticks second := by
  induction first generalizing m with
  | nil => rfl
  | cons a first ih =>
    show m.actionTicks a ++ (m.perform a).machine.ticks (first ++ second) = _
    rw [ih, ← List.append_assoc]
    rfl

/-! ## Which ticks there are -/

/-- A batch has no other ticks than steps. -/
theorem mem_stepTicks {t : Tick} {count : Nat} (h : t ∈ m.stepTicks count) :
    ∃ m', t = .step m' := by
  induction count generalizing m with
  | zero => cases h
  | succ count ih =>
    rcases stops_or_ok m.step with hstops | ⟨next, hok, hnext⟩
    · rw [stepTicks_of_stops hstops] at h
      exact ⟨m, List.mem_singleton.1 h⟩
    · rw [stepTicks_of_ok hok hnext] at h
      rcases List.mem_cons.1 h with rfl | h
      · exact ⟨m, rfl⟩
      · exact ih h

/-- A tick is a step, the end of a frame, or an action that runs nothing. -/
theorem mem_actionTicks {t : Tick} {a : Action} (h : t ∈ m.actionTicks a) :
    (∃ m', t = .step m') ∨ (∃ m', t = .endFrame m') ∨ t = .act m a ∧ ¬ a.runs := by
  have hbatch : ∀ {count}, t ∈ m.stepTicks count →
      (∃ m', t = .step m') ∨ (∃ m', t = .endFrame m') ∨ t = .act m a ∧ ¬ a.runs :=
    fun h => Or.inl (mem_stepTicks h)
  cases a with
  | step => exact Or.inl ⟨m, List.mem_singleton.1 h⟩
  | runSteps count => exact hbatch h
  | cycle =>
    rw [actionTicks] at h
    split at h
    · cases h
    · dsimp only at h
      split at h
      · exact hbatch h
      · rcases List.mem_append.1 h with h | h
        · exact hbatch h
        · exact Or.inr (Or.inl ⟨_, List.mem_singleton.1 h⟩)
  | _ => exact Or.inr (Or.inr ⟨List.mem_singleton.1 h, Bool.false_ne_true⟩)

/-- What holds of the ticks of all actions holds of the ticks of a run. -/
theorem forall_mem_ticks {P : Tick → Prop} {Q : Action → Prop}
    (haction : ∀ m a, Q a → ∀ t ∈ actionTicks m a, P t) {actions : List Action}
    (ha : ∀ a ∈ actions, Q a) : ∀ t ∈ m.ticks actions, P t := by
  induction actions generalizing m with
  | nil => exact List.forall_mem_nil _
  | cons a actions ih =>
    rw [ticks, List.forall_mem_append]
    exact ⟨haction m a (ha a List.mem_cons_self), ih fun b hb => ha b (List.mem_cons_of_mem a hb)⟩

/-- Every tick preserves the bounds of a machine. -/
theorem Sound.tick {config : Config} {t : Tick} (h : t.before.Sound config) :
    t.after.Sound config := by
  cases t with
  | step m => exact Sound.step h
  | endFrame m => exact Sound.endFrame h
  | act m a => exact Sound.perform h a

end Machine

end ChipEight
