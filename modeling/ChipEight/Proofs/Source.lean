/-
# Sources of random bytes

A machine takes random bytes from the generator that it was switched on with. A run in which no
instruction draws a byte does not depend on it: with another generator the machine does the same,
and is told apart by nothing else (`Machine.after_withSource`).
-/
import ChipEight.Proofs.Generator

namespace ChipEight

/-- The same machine with another source of random bytes. -/
def Machine.withSource (m : Machine) (r : Random.Generator) : Machine := { m with generator := r }

/-- The same effect with another source on its machine. -/
def Effect.withSource (e : Effect) (r : Random.Generator) : Effect :=
  { e with machine := e.machine.withSource r }

/-- The same reaction with another source on its machine. -/
def Reaction.withSource {α : Type} (reaction : Reaction α) (r : Random.Generator) : Reaction α :=
  { reaction with machine := reaction.machine.withSource r }

/-- Whether a random byte is drawn. -/
def Event.draws : Event → Bool
  | executing _ _ i => i.draws
  | _ => false

/-- No random byte is drawn. -/
def Drawless (events : List Event) : Prop := ∀ event ∈ events, ¬ event.draws

instance (events : List Event) : Decidable (Drawless events) :=
  inferInstanceAs (Decidable (∀ event ∈ events, ¬ event.draws))

/-- Nothing is drawn in two stretches of time if nothing is drawn in either. -/
theorem drawless_append {first second : List Event} :
    Drawless (first ++ second) ↔ Drawless first ∧ Drawless second := List.forall_mem_append

namespace Machine

variable {m : Machine}

/-! ## Executing with another source -/

/-- A skip does not look at the source. -/
theorem skipIf_withSource (m : Machine) (r : Random.Generator) (condition : Bool)
    (calls : List Event) :
    { (m.withSource r).skipIf condition with events := calls } =
      Effect.withSource { m.skipIf condition with events := calls } r := by
  cases condition <;> rfl

/-- Instructions that draw no random byte do not look at the source. -/
theorem effect_withSource (m : Machine) (r : Random.Generator) (address : Nat) {i : Instruction}
    (hi : ¬ i.draws) :
    (m.withSource r).effect address i = (m.effect address i).map (·.withSource r) := by
  -- forms that test the machine are split by that test, the others read off
  cases i with
  | random x nn => exact absurd rfl hi
  | ret =>
    have hstack : (m.withSource r).stack = m.stack := rfl
    rw [effect, effect, hstack]
    cases m.stack <;> rfl
  | call target =>
    rw [effect, effect]
    show (if m.stack.length ≥ m.config.stackSize then _ else _) = _
    split <;> rfl
  | skipIfByte x nn | skipUnlessByte x nn | skipIfEqual x y | skipUnlessEqual x y =>
    exact congrArg Except.ok (skipIf_withSource m r _ [])
  | skipIfKey x | skipUnlessKey x =>
    exact congrArg Except.ok (skipIf_withSource m r _ (m.keyState (m.reg x)).2)
  | draw x y n | storeDecimal x | storeRegisters x | loadRegisters x =>
    rw [effect, effect, reaching, reaching]
    show (if memorySize < m.index.toNat + _ then _ else _) = _
    split <;> rfl
  | _ => rfl

/-! ## Running with another source -/

/-- A machine that draws no random byte fetches and executes whatever its source. -/
theorem fetchExecute_withSource (r : Random.Generator) (h : Drawless m.fetchExecute.events) :
    (m.withSource r).fetchExecute = m.fetchExecute.withSource r := by
  cases m.fetched with
  | outside hpc hr =>
    rw [hr, fetchExecute_of_outside (m := m.withSource r) hpc]
    rfl
  | unknown hpc hd hr =>
    rw [hr, fetchExecute_of_unknown (m := m.withSource r) hpc hd]
    rfl
  | refused i failure hi hf hr =>
    rw [hr] at h ⊢
    have hdraws : ¬ i.draws := h (m.traced i) (by simp [halt])
    have he : (m.advanced.withSource r).effect m.pc i = .error failure := by
      rw [effect_withSource _ _ _ hdraws, effect_of_refuses hf]
      rfl
    rw [fetchExecute_of_error (m := m.withSource r) hi he]
    rfl
  | executed i e hi he hr =>
    rw [hr] at h ⊢
    have hdraws : ¬ i.draws := h (m.traced i) List.mem_cons_self
    have he' : (m.advanced.withSource r).effect m.pc i = .ok (e.withSource r) := by
      rw [effect_withSource _ _ _ hdraws, he]
      rfl
    rw [fetchExecute_of_ok (m := m.withSource r) hi he']
    rfl

/-- A machine that draws no random byte steps whatever its source. -/
theorem step_withSource (r : Random.Generator) (h : Drawless m.step.events) :
    (m.withSource r).step = m.step.withSource r := by
  cases m.stepped with
  | halted fault hf hr =>
    rw [hr, step_of_fault (m := m.withSource r) hf]
    rfl
  | waiting register hf hk hs hr =>
    rw [hr, step_of_waiting (m := m.withSource r) hf hk hs]
    rfl
  | resumed register key hf hk hs hr =>
    rw [hr] at h ⊢
    rw [step_of_delivered (m := m.withSource r) hf hk hs]
    have hfetch := fetchExecute_withSource (m := m.resume register key) r (drawless_append.1 h).2
    exact congrArg (Reaction.behind (resumption register key)) hfetch
  | running hf hk hr =>
    rw [hr] at h ⊢
    rw [step_of_running (m := m.withSource r) hf hk]
    exact fetchExecute_withSource r h

/-- A batch of steps that draws no random byte is run whatever the source. -/
theorem runFrom_withSource (r : Random.Generator) (flow : Flow) (count : Nat)
    (h : Drawless (runFrom flow #[] count m).events) :
    runFrom flow #[] count (m.withSource r) = (runFrom flow #[] count m).withSource r := by
  induction count generalizing flow m with
  | zero => rfl
  | succ count ih =>
    rcases stops_or_ok m.step with hstops | ⟨next, hok, hnext⟩
    · rw [runFrom_of_stops hstops] at h ⊢
      have hstep := step_withSource r h
      have hstops' : (m.withSource r).step.Stops := by
        rw [hstep]
        exact hstops
      rw [runFrom_of_stops hstops', hstep]
    · rw [runFrom_of_ok hok hnext] at h ⊢
      obtain ⟨hfirst, hrest⟩ := drawless_append.1 h
      have hstep := step_withSource r hfirst
      have hok' : (m.withSource r).step.result = .ok next := by
        rw [hstep]
        exact hok
      rw [runFrom_of_ok hok' hnext, hstep]
      exact congrArg (Reaction.behind m.step.events) (ih next hrest)

/-- A frame ends whatever the source. -/
theorem endFrame_withSource (m : Machine) (r : Random.Generator) :
    (m.withSource r).endFrame = (m.endFrame.1.withSource r, m.endFrame.2) := by
  have hpaused : (m.withSource r).isPaused = m.isPaused := rfl
  unfold endFrame
  rw [hpaused]
  cases m.isPaused <;> rfl

/-- A frame that draws no random byte is run whatever the source. -/
theorem cycle_withSource (r : Random.Generator) (h : Drawless m.cycle.events) :
    (m.withSource r).cycle = m.cycle.withSource r := by
  rcases hf : m.fault with _ | fault
  · have hf' : (m.withSource r).fault = none := hf
    rcases hr : (m.runSteps m.config.speed).result with failure | flow
    · rw [cycle_of_error hf hr] at h ⊢
      have hbatch : (m.withSource r).runSteps (m.withSource r).config.speed =
        (m.runSteps m.config.speed).withSource r := runFrom_withSource r _ _ h
      have hr' : ((m.withSource r).runSteps (m.withSource r).config.speed).result =
          .error failure := by
        rw [hbatch]
        exact hr
      rw [cycle_of_error hf' hr', hbatch]
      rfl
    · rw [cycle_of_ok hf hr] at h ⊢
      have hbatch : (m.withSource r).runSteps (m.withSource r).config.speed =
        (m.runSteps m.config.speed).withSource r :=
          runFrom_withSource r _ _ (drawless_append.1 h).1
      have hr' : ((m.withSource r).runSteps (m.withSource r).config.speed).result = .ok flow := by
        rw [hbatch]
        exact hr
      rw [cycle_of_ok hf' hr', hbatch]
      show Reaction.mk (.ok ()) ((m.runSteps m.config.speed).machine.withSource r).endFrame.1 _ = _
      rw [endFrame_withSource]
      show Reaction.mk (.ok ()) _ ((m.runSteps m.config.speed).events ++
        ((m.runSteps m.config.speed).machine.withSource r).endFrame.2) = _
      rw [endFrame_withSource]
      rfl
  · rw [cycle_of_fault hf, cycle_of_fault (m := m.withSource r) hf]
    rfl

/-! ## Runs with another source -/

/-- A program is loaded whatever the source. -/
theorem load_withSource (m : Machine) (r : Random.Generator) (program : List UInt8) :
    (m.withSource r).load program = (m.load program).withSource r := by
  unfold load
  split <;> rfl

/-- An action that draws no random byte has the same result whatever the source. -/
theorem perform_withSource (r : Random.Generator) {a : Action}
    (h : Drawless (m.perform a).events) :
    (m.withSource r).perform a = (m.perform a).withSource r := by
  cases a with
  | load program => exact congrArg (Reaction.map fun _ => Answer.done) (load_withSource m r program)
  | loadFont font =>
    show ((m.withSource r).loadFont font).map _ = ((m.loadFont font).map _).withSource r
    unfold loadFont
    split
    · rfl
    · rcases Nat.lt_or_ge memorySize (Font.start + font.length) with hlen | hlen
      · rw [Operation.writeMemory_of_gt hlen, Operation.writeMemory_of_gt hlen]
        rfl
      · rw [Operation.writeMemory_of_le hlen, Operation.writeMemory_of_le hlen]
        rfl
  | step => exact congrArg (Reaction.map Answer.flow) (step_withSource r h)
  | runSteps count => exact congrArg (Reaction.map Answer.flow) (runFrom_withSource r .ok count h)
  | cycle => exact congrArg (Reaction.map fun _ => Answer.done) (cycle_withSource r h)
  | _ => rfl

/-- A run that draws no random byte leads to the same machine whatever the source. -/
theorem after_withSource (r : Random.Generator) {actions : List Action}
    (h : Drawless (m.trace actions)) :
    (m.withSource r).after actions = (m.after actions).withSource r := by
  induction actions generalizing m with
  | nil => rfl
  | cons a actions ih =>
    obtain ⟨hfirst, hrest⟩ := drawless_append.1 h
    rw [after, after, perform_withSource r hfirst]
    exact ih hrest

end Machine

end ChipEight
