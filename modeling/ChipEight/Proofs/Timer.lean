/-
# The timers

A machine has two timers. An instruction may set one of them, and the end of a frame counts both
down, unless the machine waits for a key; nothing else but the loading of a program touches them. So
a timer that no instruction sets counts the frames that end while the machine does not wait, and
stops at zero (`Machine.timer_after`).
-/
import ChipEight.Proofs.Frame
import ChipEight.Proofs.Stall

namespace ChipEight

/-- The timers of a machine. -/
inductive Timer where
  /-- The delay timer. -/
  | delay
  /-- The sound timer. -/
  | sound
  deriving DecidableEq, Repr

/-- The register from which an instruction sets a timer, if it does. -/
def Instruction.sets? : Instruction → Timer → Option UInt8
  | setDelay x, .delay | setSound x, .sound => some x
  | _, _ => none

/-- The register from which an instruction that is executed sets a timer, if it does. -/
def Event.sets? : Event → Timer → Option UInt8
  | executing _ _ i, t => i.sets? t
  | _, _ => none

/-- No instruction that is executed meanwhile sets the timer. -/
def Timer.Untouched (t : Timer) (events : List Event) : Prop :=
  ∀ event ∈ events, event.sets? t = none

instance (t : Timer) (events : List Event) : Decidable (t.Untouched events) :=
  inferInstanceAs (Decidable (∀ _ ∈ _, _))

namespace Machine

/-- The value of a timer. -/
def timer (m : Machine) : Timer → UInt8
  | .delay => m.delay
  | .sound => m.sound

/-- Whether an action is a frame that ends while the machine does not wait for a key. -/
def countsDown (m : Machine) (a : Action) : Bool :=
  m.endsFrame a && !(m.perform a).machine.isPaused

variable {m : Machine} {t : Timer}

/-! ## Steps -/

/-- A skip leaves the timers alone. -/
theorem timer_skipIf (m : Machine) (condition : Bool) (t : Timer) :
    (m.skipIf condition).machine.timer t = m.timer t := by
  cases condition <;> rfl

/-- An instruction sets a timer from a register, or leaves it alone. -/
theorem timer_of_effect {address : Nat} {i : Instruction} {e : Effect}
    (h : m.effect address i = .ok e) :
    e.machine.timer t = ((i.sets? t).map m.reg).getD (m.timer t) := by
  -- forms that can fail are opened first, those that skip share a lemma, the rest reads off
  cases i with
  | ret | call target =>
    rw [effect] at h
    split at h <;> cases h
    cases t <;> rfl
  | draw x y n | storeDecimal x | storeRegisters x | loadRegisters x =>
    rw [eq_of_reaching h]
    cases t <;> rfl
  | skipIfByte x nn | skipUnlessByte x nn | skipIfEqual x y | skipUnlessEqual x y | skipIfKey x
  | skipUnlessKey x =>
    cases h
    exact timer_skipIf m _ t
  | _ =>
    cases h
    cases t <;> rfl

/-- Fetching, decoding and executing leaves a timer alone that the instruction does not set. -/
theorem timer_fetchExecute (h : t.Untouched m.fetchExecute.events) :
    m.fetchExecute.machine.timer t = m.timer t := by
  cases m.fetched with
  | outside hpc hr | unknown hpc hd hr | refused i failure hi hf hr =>
    rw [hr]
    cases t <;> rfl
  | executed i e hi he hr =>
    rw [hr] at h ⊢
    have hset : i.sets? t = none := h (m.traced i) List.mem_cons_self
    show e.machine.timer t = m.timer t
    rw [timer_of_effect he, hset]
    cases t <;> rfl

/-- A step leaves a timer alone that its instruction does not set. -/
theorem timer_step (h : t.Untouched m.step.events) : m.step.machine.timer t = m.timer t := by
  cases m.stepped with
  | halted fault hf hr | waiting register hf hk hs hr => rw [hr]
  | resumed register key hf hk hs hr =>
    rw [hr] at h ⊢
    have hresume : (m.resume register key).timer t = m.timer t := by cases t <;> rfl
    exact (timer_fetchExecute (List.forall_mem_append.1 h).2).trans hresume
  | running hf hk hr =>
    rw [hr] at h ⊢
    exact timer_fetchExecute h

/-- A chain of steps leaves a timer alone that its instructions do not set. -/
theorem Steps.timer {m' : Machine} {count : Nat} {events : List Event}
    (hsteps : Steps m count events m') (h : t.Untouched events) : m'.timer t = m.timer t := by
  induction hsteps with
  | refl m => rfl
  | head hr hflow hsteps ih =>
    obtain ⟨hfirst, hrest⟩ := List.forall_mem_append.1 h
    exact (ih hrest).trans (timer_step hfirst)

/-- A batch of steps leaves a timer alone that its instructions do not set. -/
theorem timer_runSteps {count : Nat} (h : t.Untouched (m.runSteps count).events) :
    (m.runSteps count).machine.timer t = m.timer t := by
  cases count with
  | zero => rfl
  | succ count =>
    obtain ⟨j, events, m', -, hsteps, hrun, -⟩ := runSteps_succ m count
    rw [hrun] at h ⊢
    obtain ⟨hchain, hlast⟩ := List.forall_mem_append.1 h
    exact (timer_step hlast).trans (hsteps.timer hchain)

/-! ## Frames -/

/-- A byte that counts down stops at zero. -/
theorem toNat_countDown (b : UInt8) : (if b = 0 then 0 else b - 1).toNat = b.toNat - 1 := by
  split
  next hzero => rw [hzero]; rfl
  next hpos =>
    refine UInt8.toNat_sub_of_le b 1 ?_
    rw [UInt8.le_iff_toNat_le]
    exact Nat.one_le_iff_ne_zero.2 fun hzero => hpos (UInt8.toNat.inj hzero)

/-- The end of a frame leaves the timers alone while the machine waits. -/
theorem timer_endFrame_of_paused (h : m.isPaused) (t : Timer) :
    m.endFrame.1.timer t = m.timer t := by
  rw [endFrame, if_pos h]
  cases t <;> rfl

/-- The end of a frame counts both timers down otherwise. -/
theorem timer_endFrame (h : ¬ m.isPaused) (t : Timer) :
    (m.endFrame.1.timer t).toNat = (m.timer t).toNat - 1 := by
  rw [endFrame, if_neg h]
  cases t with
  | delay => exact toNat_countDown m.delay
  | sound => exact toNat_countDown m.sound

/-- The end of a frame neither begins nor ends a wait. -/
theorem isPaused_endFrame (m : Machine) : m.endFrame.1.isPaused = m.isPaused :=
  congrArg Option.isSome (endFrame_frame m).2.1

/-- A frame that ends while the machine waits leaves the timers as its instructions left them. -/
theorem timer_cycle_of_paused (hok : m.cycle.result.isOk) (hpaused : m.cycle.machine.isPaused)
    (t : Timer) : m.cycle.machine.timer t = (m.runSteps m.config.speed).machine.timer t := by
  obtain ⟨-, hm, -, -⟩ := cycle_of_isOk hok
  rw [hm] at hpaused ⊢
  rw [isPaused_endFrame] at hpaused
  exact timer_endFrame_of_paused hpaused t

/-- A frame counts a timer down that its instructions do not set, if it ends and the machine does
not wait then. -/
theorem timer_cycle (h : t.Untouched m.cycle.events) :
    (m.cycle.machine.timer t).toNat =
      (m.timer t).toNat - if m.countsDown .cycle then 1 else 0 := by
  by_cases hok : m.cycle.result.isOk
  · obtain ⟨-, hm, hevents, -⟩ := cycle_of_isOk hok
    have hcounts : m.countsDown .cycle = !m.cycle.machine.isPaused := by
      rw [countsDown, endsFrame, hok, Bool.true_and]
      rfl
    rw [hevents] at h
    have hbatch := timer_runSteps (List.forall_mem_append.1 h).1
    rw [hcounts]
    by_cases hpaused : m.cycle.machine.isPaused
    · rw [timer_cycle_of_paused hok hpaused, hbatch, hpaused]
      rfl
    · have hrunning : ¬ (m.runSteps m.config.speed).machine.isPaused := by
        rwa [hm, isPaused_endFrame] at hpaused
      rw [Bool.not_eq_true] at hpaused
      rw [hpaused, hm, timer_endFrame hrunning, hbatch]
      rfl
  · have hcounts : m.countsDown .cycle = false := by
      rw [Bool.not_eq_true] at hok
      rw [countsDown, endsFrame, hok, Bool.false_and]
    rw [hcounts]
    rcases cycle_of_not_isOk hok with ⟨fault, -, hcycle⟩ | ⟨-, hm, hevents⟩
    · rw [hcycle]
      rfl
    · rw [hevents] at h
      rw [hm, timer_runSteps h]
      rfl

/-! ## Runs -/

/-- An action that loads no program leaves a timer alone that its instructions do not set, unless it
is a frame that ends while the machine does not wait. -/
theorem timer_perform {a : Action} (ha : ¬ a.replaces) (h : t.Untouched (m.perform a).events) :
    ((m.perform a).machine.timer t).toNat =
      (m.timer t).toNat - if m.countsDown a then 1 else 0 := by
  by_cases hcycle : a = .cycle
  · rw [hcycle] at h ⊢
    exact timer_cycle h
  · have hcounts : m.countsDown a = false := by
      rw [countsDown, endsFrame_of_ne_cycle hcycle, Bool.false_and]
    have hsame : (m.perform a).machine.timer t = m.timer t := by
      by_cases hruns : a.runs
      · cases a with
        | step => exact timer_step h
        | runSteps count => exact timer_runSteps h
        | cycle => exact absurd rfl hcycle
        | _ => cases hruns
      · obtain ⟨memory, screen, keypad, hm⟩ := perform_frame (m := m) ha hruns
        rw [hm]
        cases t <;> rfl
    rw [hcounts, hsame]
    rfl

/-- During a run that loads no program, a timer that no instruction sets counts the frames that end
while the machine does not wait, and stops at zero. -/
theorem timer_after {actions : List Action} (ha : ∀ a ∈ actions, ¬ a.replaces)
    (h : t.Untouched (m.trace actions)) :
    ((m.after actions).timer t).toNat = (m.timer t).toNat - m.tally countsDown actions := by
  induction actions generalizing m with
  | nil => rfl
  | cons a actions ih =>
    obtain ⟨hfirst, hrest⟩ := List.forall_mem_append.1 h
    have hnext := ih (fun b hb => ha b (List.mem_cons_of_mem a hb)) hrest
    rw [timer_perform (ha a List.mem_cons_self) hfirst, Nat.sub_sub] at hnext
    exact hnext

/-! ## Frames with a wait -/

/-- The steps of a frame that a machine begins waiting and that does not resume it do nothing. -/
theorem runSteps_of_not_resumed (hf : m.fault = none) (hpaused : m.isPaused)
    (hno : m.cycle.events.countP Event.isResumed = 0) :
    (∃ flow, (m.runSteps m.config.speed).result = .ok flow) ∧
      (m.runSteps m.config.speed).machine = m := by
  by_cases hslot : ∀ key, m.keypad.slot ≠ .delivered key
  · have hm : m.Stalls := ⟨hf, hpaused, hslot⟩
    rw [hm.runSteps]
    exact ⟨⟨_, rfl⟩, rfl⟩
  · -- a key was delivered, so the frame would resume the machine if it took a step
    obtain ⟨key, hkey⟩ : ∃ key, m.keypad.slot = .delivered key := by
      simpa using hslot
    obtain ⟨register, hk⟩ := Option.isSome_iff_exists.1 hpaused
    have hw : m.Waits register (.delivered key) := ⟨hf, hk, hkey⟩
    have hspeed : m.config.speed = 0 := by
      by_contra hpos
      have hends : m.Ends .cycle register key := hw.ends (bne_iff_ne.2 hpos)
      have hevents : m.cycle.events =
          resumption register key ++ ((m.resume register key).perform .cycle).events :=
        congrArg (·.events) hends
      rw [hevents, List.countP_eq_zero] at hno
      exact hno (.resumed key register) (List.mem_append_left _ (by simp [resumption])) rfl
    rw [hspeed]
    exact ⟨⟨.ok, rfl⟩, rfl⟩

/-- A frame in which a wait begins ends while the machine waits. -/
theorem cycle_of_begins {address : Nat} {word : UInt16} {register : UInt8}
    (h : .executing address word (.awaitKey register) ∈ m.cycle.events) :
    m.cycle.result = .ok () ∧ m.cycle.machine.isPaused := by
  have hw := waits_of_cycle h
  constructor
  · cases hr : m.cycle.result with
    | ok done => rfl
    | error fault =>
      have hfault := fault_of_cycle_error hr
      rw [hw.fault] at hfault
      cases hfault
  · rw [isPaused, hw.keyWait]
    rfl

/-- A frame in which a wait is not resumed ends while the machine waits. -/
theorem cycle_of_not_resumed (hf : m.fault = none) (hpaused : m.isPaused)
    (hno : m.cycle.events.countP Event.isResumed = 0) :
    m.cycle.result = .ok () ∧ m.cycle.machine.isPaused := by
  obtain ⟨⟨flow, hresult⟩, hbatch⟩ := runSteps_of_not_resumed hf hpaused hno
  rw [cycle_of_ok hf hresult, hbatch]
  exact ⟨rfl, (isPaused_endFrame m).trans hpaused⟩

/-- The timers count frames.

* After any run, and during any further run that loads no program, a timer that no executed
  instruction sets is counted down once for every frame that succeeds and leaves the machine not
  waiting for a key, and stops at zero. Nothing else plays a part: neither the steps outside of
  frames, nor the program, nor the number of instructions in a frame.
* A frame in which a wait for a key begins, or one that does not resume a machine that waits,
  succeeds and leaves the machine waiting, and both timers are as its instructions left them. -/
theorem timers_count_frames (config : Config) (generator : Random.Generator) (before : List Action)
    {actions : List Action} (ha : ∀ a ∈ actions, ¬ a.replaces) :
    let m := (new config generator).after before
    (∀ t : Timer, t.Untouched (m.trace actions) →
      ((m.after actions).timer t).toNat = (m.timer t).toNat - m.tally countsDown actions) ∧
    ((∃ address word register,
        .executing address word (.awaitKey register) ∈ m.cycle.events) ∨
      (m.isPaused ∧ m.cycle.events.countP Event.isResumed = 0) →
      m.cycle.result = .ok () ∧ m.cycle.machine.isPaused ∧
        ∀ t, m.cycle.machine.timer t = (m.runSteps config.speed).machine.timer t) := by
  intro m
  have hsound : m.Sound config := sound_after config generator before
  refine ⟨fun t h => timer_after ha h, ?_⟩
  intro hwait
  obtain ⟨hok, hpaused⟩ : m.cycle.result = .ok () ∧ m.cycle.machine.isPaused := by
    rcases hwait with ⟨address, word, register, hbegins⟩ | ⟨hpaused, hno⟩
    · exact cycle_of_begins hbegins
    · have hf : m.fault = none :=
        hsound.halted_not_paused.resolve_right (Option.isSome_iff_ne_none.1 hpaused)
      exact cycle_of_not_resumed hf hpaused hno
  refine ⟨hok, hpaused, ?_⟩
  intro t
  have hisOk : m.cycle.result.isOk := by
    rw [hok]
    rfl
  have htimer := timer_cycle_of_paused hisOk hpaused t
  rw [hsound.config_eq] at htimer
  exact htimer

/-- At one instruction in a frame, a program has set its delay timer to 3 and is about to wait for a
key. Neither the frame that begins the wait nor the one after it counts. After the key press four
frames do, and the timer stops at zero. -/
theorem timers_count_frames_wait :
    let config : Config := { speed := 1 }
    let before := [Action.load [0x60, 0x03, 0xF0, 0x15, 0xF1, 0x0A, 0x12, 0x06], .runSteps 2]
    let actions := [Action.cycle, .cycle, .pressKey 5, .cycle, .runSteps 4, .releaseKey 5, .cycle,
      .step, .cycle, .cycle]
    let m := (new config (.ofSeed 0)).after before
    (∀ a ∈ actions, ¬ a.replaces) ∧ Timer.delay.Untouched (m.trace actions) ∧
      m.timer .delay = 3 ∧ m.tally countsDown actions = 4 ∧ (m.after actions).timer .delay = 0 ∧
      .executing 0x204 0xF10A (.awaitKey 1) ∈ m.cycle.events ∧
      m.cycle.machine.timer .delay = (m.runSteps 1).machine.timer .delay := by
  intro config before actions m
  have ha : ∀ a ∈ actions, ¬ a.replaces := by decide
  have huntouched : Timer.delay.Untouched (m.trace actions) := by decide +kernel
  have hstart : m.timer .delay = 3 ∧ m.tally countsDown actions = 4 := by decide +kernel
  have hbegins : .executing 0x204 0xF10A (.awaitKey 1) ∈ m.cycle.events := by decide +kernel
  obtain ⟨hcount, hwait⟩ := timers_count_frames config (.ofSeed 0) before ha
  have hend := hcount .delay huntouched
  obtain ⟨-, -, hleft⟩ := hwait (Or.inl ⟨_, _, _, hbegins⟩)
  refine ⟨ha, huntouched, hstart.1, hstart.2, ?_, hbegins, hleft .delay⟩
  apply UInt8.toNat.inj
  rw [hend, hstart.1, hstart.2]
  rfl

end Machine

end ChipEight
