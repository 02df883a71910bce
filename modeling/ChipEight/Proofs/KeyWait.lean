/-
# Waiting for a key

A program that waits for a key and the keypad that delivers one are two machines of their own: the
register that waits belongs to the program, the slot for the next press to the keypad. As long as
the host leaves the slot to the program, they stay in step.

* `Machine.Waits` : the wait of a register, together with the state of the slot. It begins with an
  armed slot, the first press fills the slot, and the first step after that press ends the wait.
* `Machine.pending` : a delivered key that was not taken yet. Every key that is taken was pending,
  and only a press makes a key pending (`perform_pending`).
-/
import ChipEight.Proofs.Invariant

namespace ChipEight

/-! ## What the host does -/

namespace Action

/-- The host leaves the slot for the next press to the program. -/
def leavesSlot : Action → Bool
  | awaitKey | takeKey => false
  | _ => true

/-- The host leaves a wait alone: it neither uses the slot nor loads a program. -/
def keepsWait : Action → Bool
  | awaitKey | takeKey | load _ => false
  | _ => true

/-- The key that is pressed, if one is. -/
def pressed? : Action → Option Key
  | pressKey k => some k
  | _ => none

/-- Whether a key is pressed. -/
def isPress (a : Action) : Bool := a.pressed?.isSome

/-- Whether a machine with some parameters attempts a step. -/
def attempts (config : Config) : Action → Bool
  | step => true
  | runSteps count => count != 0
  | cycle => config.speed != 0
  | _ => false

end Action

/-- Whether a register receives the key that it waited for. -/
def Event.isResumed : Event → Bool
  | resumed _ _ => true
  | _ => false

namespace Keypad

/-- The number of keys in the slot. -/
def Slot.pending : Slot → Nat
  | delivered _ => 1
  | _ => 0

/-- An armed slot receives the key that is pressed, if one is. -/
def Slot.receive (slot : Slot) : Option Key → Slot
  | none => slot
  | some k => if slot == awaiting then delivered k else slot

/-- Of two presses an armed slot receives the first. -/
theorem Slot.receive_receive (slot : Slot) (first second : Option Key) :
    (slot.receive first).receive second = slot.receive (first.or second) := by
  cases first with
  | none => rfl
  | some key => cases slot <;> cases second <;> rfl

/-- The slot holds one key at most. -/
theorem Slot.pending_le (slot : Slot) : slot.pending ≤ 1 := by
  cases slot with
  | delivered key => exact Nat.le_refl 1
  | idle | awaiting => exact Nat.zero_le 1

/-- After a key was taken the slot is empty. -/
theorem pending_take (p : Keypad) : p.take.2.slot.pending = 0 := by
  rcases p with ⟨held, slot⟩
  cases slot <;> rfl

end Keypad

namespace Machine

/-- An action ends the wait of a register: first of all the register receives the key, and then the
action goes on as if there had been no wait. -/
def Ends (m : Machine) (a : Action) (register : UInt8) (key : Key) : Prop :=
  m.perform a = ((m.resume register key).perform a).behind (resumption register key)

variable {m : Machine} {register : UInt8}

/-! ## Keys that were delivered -/

/-- The number of delivered keys that were not taken yet. -/
def pending (m : Machine) : Nat := m.keypad.slot.pending

/-- Nothing is resumed while an instruction is executed. -/
theorem countP_fetchExecute (m : Machine) : m.fetchExecute.events.countP Event.isResumed = 0 := by
  rw [List.countP_eq_zero]
  intro event hevent
  rcases mem_fetchExecute hevent with hinner | ⟨i, rfl⟩ | ⟨fault, rfl⟩ | rfl
  · cases event <;> first | exact Bool.false_ne_true | cases hinner
  all_goals exact Bool.false_ne_true

/-- An instruction leaves the slot as it is or arms it. -/
theorem slot_fetchExecute (m : Machine) :
    m.fetchExecute.machine.keypad.slot = m.keypad.slot ∨
      m.fetchExecute.machine.keypad.slot = .awaiting := by
  cases m.fetched with
  | outside h hr | unknown h hd hr | refused i failure hi hf hr =>
    rw [hr]
    exact Or.inl rfl
  | executed i e hi he hr =>
    rw [hr]
    show e.machine.keypad.slot = m.keypad.slot ∨ e.machine.keypad.slot = .awaiting
    rw [(steered_of_effect he).keypad]
    split
    · exact Or.inr rfl
    · exact Or.inl rfl

/-- No instruction makes a key pending. -/
theorem pending_fetchExecute (m : Machine) : m.fetchExecute.machine.pending ≤ m.pending := by
  unfold pending
  rcases slot_fetchExecute m with h | h
  · exact Nat.le_of_eq (congrArg _ h)
  · rw [h]
    exact Nat.zero_le _

/-- A step takes no key but a pending one. -/
theorem step_pending (m : Machine) :
    m.step.events.countP Event.isResumed + m.step.machine.pending ≤ m.pending := by
  cases m.stepped with
  | halted fault hf hr | waiting register hf hk hs hr =>
    rw [hr]
    exact Nat.le_of_eq (Nat.zero_add _)
  | resumed register key hf hk hs hr =>
    have hbefore : m.pending = 1 := by
      unfold pending
      rw [hs]
      rfl
    have hresume : (m.resume register key).pending = 0 := rfl
    -- the slot is emptied before the instruction that follows can arm it again
    have hafter := pending_fetchExecute (m.resume register key)
    have hcount := countP_fetchExecute (m.resume register key)
    rw [hr]
    show ((resumption register key) ++ (m.resume register key).fetchExecute.events).countP
      Event.isResumed + (m.resume register key).fetchExecute.machine.pending ≤ m.pending
    rw [List.countP_append, hcount, hbefore]
    have hone : (resumption register key).countP Event.isResumed = 1 := rfl
    omega
  | running hf hk hr =>
    have hafter := pending_fetchExecute m
    rw [hr, countP_fetchExecute]
    omega

/-- A chain of steps takes no key but a pending one. -/
theorem Steps.pending {m m' : Machine} {count : Nat} {events : List Event}
    (h : Steps m count events m') : events.countP Event.isResumed + m'.pending ≤ m.pending := by
  induction h with
  | refl m => exact Nat.le_of_eq (Nat.zero_add _)
  | @head m m' _ _ _ hr hflow h ih =>
    have hstep := step_pending m
    rw [List.countP_append]
    omega

/-- A batch of steps takes no key but a pending one. -/
theorem runSteps_pending (m : Machine) (count : Nat) :
    (m.runSteps count).events.countP Event.isResumed + (m.runSteps count).machine.pending ≤
      m.pending := by
  cases count with
  | zero => exact Nat.le_of_eq (Nat.zero_add _)
  | succ count =>
    obtain ⟨j, events, m', -, hsteps, hrun, -⟩ := runSteps_succ m count
    have hchain := hsteps.pending
    have hlast := step_pending m'
    rw [hrun]
    show (events ++ m'.step.events).countP Event.isResumed + m'.step.machine.pending ≤ m.pending
    rw [List.countP_append]
    omega

/-- Nothing is resumed at the end of a frame. -/
theorem countP_endFrame (m : Machine) : m.endFrame.2.countP Event.isResumed = 0 := by
  rw [List.countP_eq_zero]
  intro event hevent
  rcases mem_endFrame hevent with ⟨hertz, rfl⟩ | rfl | rfl
  all_goals exact Bool.false_ne_true

/-- A frame takes no key but a pending one. -/
theorem cycle_pending (m : Machine) :
    m.cycle.events.countP Event.isResumed + m.cycle.machine.pending ≤ m.pending := by
  have hbatch := runSteps_pending m m.config.speed
  cases hf : m.fault with
  | some fault =>
    rw [cycle_of_fault hf]
    exact Nat.le_of_eq (Nat.zero_add _)
  | none =>
    cases h : (m.runSteps m.config.speed).result with
    | error failure =>
      rw [cycle_of_error hf h]
      exact hbatch
    | ok flow =>
      have hframe : (m.runSteps m.config.speed).machine.endFrame.1.pending =
          (m.runSteps m.config.speed).machine.pending := by
        unfold pending
        rw [(endFrame_frame _).1]
      rw [cycle_of_ok hf h, List.countP_append, countP_endFrame, hframe]
      exact hbatch

/-- A press resumes no register. -/
theorem countP_pressKey (m : Machine) (k : Key) :
    (m.perform (.pressKey k)).events.countP Event.isResumed = 0 := by
  show (if m.keypad.isAwaiting then [Event.delivered k] else []).countP Event.isResumed = 0
  split
  · rfl
  · rfl

/-- An action takes no key but a pending one, and only a press makes a key pending. -/
theorem perform_pending (m : Machine) (a : Action) :
    (m.perform a).events.countP Event.isResumed + (m.perform a).machine.pending ≤
      m.pending + if a.isPress then 1 else 0 := by
  cases a with
  | step => exact step_pending m
  | runSteps count => exact runSteps_pending m count
  | cycle => exact cycle_pending m
  | load program =>
    show (m.load program).events.countP Event.isResumed + (m.load program).machine.pending ≤
      m.pending
    unfold load
    split
    · exact Nat.le_of_eq (Nat.zero_add _)
    · exact Nat.le_of_eq (Nat.zero_add _)
  | loadFont font =>
    obtain ⟨⟨memory, hm⟩, hevents⟩ := loadFont_frame m font
    show (m.loadFont font).events.countP Event.isResumed + (m.loadFont font).machine.pending ≤
      m.pending
    rw [hm, hevents]
    exact Nat.le_of_eq (Nat.zero_add _)
  | pressKey k =>
    have hpending := (m.perform (.pressKey k)).machine.keypad.slot.pending_le
    rw [countP_pressKey]
    show 0 + (m.perform (.pressKey k)).machine.keypad.slot.pending ≤ m.pending + 1
    omega
  | awaitKey => exact Nat.zero_le _
  | takeKey =>
    show 0 + m.keypad.take.2.slot.pending ≤ m.pending
    rw [Keypad.pending_take]
    exact Nat.zero_le _
  | _ => exact Nat.le_of_eq (Nat.zero_add _)

/-- No key is resumed but a pending one. -/
theorem countP_perform_le (m : Machine) (a : Action) :
    (m.perform a).events.countP Event.isResumed ≤ m.pending := by
  have hledger := perform_pending m a
  by_cases h : a.isPress
  · cases a with
    | pressKey k =>
      rw [countP_pressKey]
      exact Nat.zero_le _
    | _ => cases h
  · rw [if_neg h] at hledger
    omega

/-- A run takes no keys but those that are pressed, and one that was pending. -/
theorem trace_pending (m : Machine) (actions : List Action) :
    (m.trace actions).countP Event.isResumed + (m.after actions).pending ≤
      m.pending + actions.countP Action.isPress := by
  induction actions generalizing m with
  | nil => exact Nat.le_of_eq (Nat.zero_add _)
  | cons a actions ih =>
    have hfirst := perform_pending m a
    have hrest := ih (m.perform a).machine
    rw [trace, after, List.countP_append, List.countP_cons]
    omega

/-- After an action that ends a wait no key is pending. -/
theorem pending_of_resumed {a : Action}
    (h : 0 < (m.perform a).events.countP Event.isResumed) : (m.perform a).machine.pending = 0 := by
  have hledger := perform_pending m a
  have hpending : m.pending ≤ 1 := m.keypad.slot.pending_le
  have hpress : ¬ a.isPress := by
    intro hpress
    cases a with
    | pressKey k =>
      rw [countP_pressKey] at h
      exact Nat.lt_irrefl 0 h
    | _ => cases hpress
  rw [if_neg hpress] at hledger
  omega

/-! ## Waits that begin -/

/-- No fault halted the machine, a register waits for a key, and the slot is in some state. -/
structure Waits (m : Machine) (register : UInt8) (slot : Keypad.Slot) : Prop where
  /-- The machine is not halted. -/
  fault : m.fault = none
  /-- The register waits. -/
  keyWait : m.keyWait = some register
  /-- The slot is armed or filled. -/
  slot_eq : m.keypad.slot = slot

/-- The end of a frame leaves a wait as it is. -/
theorem Waits.endFrame {slot : Keypad.Slot} (h : m.Waits register slot) :
    m.endFrame.1.Waits register slot := by
  obtain ⟨hkeypad, hwait, hfault⟩ := endFrame_frame m
  refine ⟨hfault.trans h.fault, hwait.trans h.keyWait, ?_⟩
  rw [hkeypad]
  exact h.slot_eq

variable {address : Nat} {word : UInt16}

/-- An instruction that waits for a key arms the slot. -/
theorem waits_of_fetchExecute (hf : m.fault = none)
    (h : .executing address word (.awaitKey register) ∈ m.fetchExecute.events) :
    m.fetchExecute.machine.Waits register .awaiting ∧ m.fetchExecute.result = .ok .keyWait := by
  cases m.fetched with
  | outside hpc hr | unknown hpc hd hr =>
    rw [hr] at h
    simp [halt] at h
  | refused i failure hi hrefused hr =>
    rw [hr] at h
    rcases List.mem_cons.1 h with h | h
    · cases h
      cases hrefused with
      | outside hspan hend => cases hspan
    · simp at h
  | executed i e hi he hr =>
    rw [hr] at h ⊢
    rcases List.mem_cons.1 h with h | h
    · cases h
      cases he
      exact ⟨⟨hf, rfl, rfl⟩, rfl⟩
    · cases (steered_of_effect he).events _ h

/-- A step that executes such an instruction begins a wait. -/
theorem waits_of_step (h : .executing address word (.awaitKey register) ∈ m.step.events) :
    m.step.machine.Waits register .awaiting ∧ m.step.result = .ok .keyWait := by
  cases m.stepped with
  | halted fault hf hr =>
    rw [hr] at h
    cases h
  | waiting register' hf hk hs hr =>
    rw [hr] at h
    simp at h
  | resumed register' key hf hk hs hr =>
    rw [hr] at h ⊢
    rcases List.mem_append.1 h with h | h
    · simp [resumption] at h
    · exact waits_of_fetchExecute hf h
  | running hf hk hr =>
    rw [hr] at h ⊢
    exact waits_of_fetchExecute hf h

/-- Such an instruction is no step of a chain, since it ends its batch. -/
theorem Steps.not_begins {m m' : Machine} {count : Nat} {events : List Event}
    (hsteps : Steps m count events m') :
    .executing address word (.awaitKey register) ∉ events := by
  induction hsteps with
  | refl m => exact List.not_mem_nil
  | head hr hflow _ ih =>
    intro h
    rcases List.mem_append.1 h with h | h
    · have hkeyWait := (waits_of_step h).2
      rw [hr] at hkeyWait
      exact hflow (Except.ok.inj hkeyWait)
    · exact ih h

/-- A batch that executes such an instruction begins a wait. -/
theorem waits_of_runSteps {count : Nat}
    (h : .executing address word (.awaitKey register) ∈ (m.runSteps count).events) :
    (m.runSteps count).machine.Waits register .awaiting := by
  cases count with
  | zero => cases h
  | succ count =>
    obtain ⟨j, events, m', -, hsteps, hrun, -⟩ := runSteps_succ m count
    rw [hrun] at h ⊢
    rcases List.mem_append.1 h with h | h
    · exact absurd h hsteps.not_begins
    · exact (waits_of_step h).1

/-- A frame that executes such an instruction begins a wait. -/
theorem waits_of_cycle (h : .executing address word (.awaitKey register) ∈ m.cycle.events) :
    m.cycle.machine.Waits register .awaiting := by
  cases hf : m.fault with
  | some fault =>
    rw [cycle_of_fault hf] at h
    cases h
  | none =>
    cases hr : (m.runSteps m.config.speed).result with
    | error failure =>
      rw [cycle_of_error hf hr] at h ⊢
      exact waits_of_runSteps h
    | ok flow =>
      rw [cycle_of_ok hf hr] at h ⊢
      rcases List.mem_append.1 h with h | h
      · exact (waits_of_runSteps h).endFrame
      · rcases mem_endFrame h with ⟨hertz, h⟩ | h | h <;> cases h

/-- An action that executes such an instruction begins a wait. -/
theorem waits_of_perform {a : Action}
    (h : .executing address word (.awaitKey register) ∈ (m.perform a).events) :
    (m.perform a).machine.Waits register .awaiting := by
  cases a with
  | step => exact (waits_of_step h).1
  | runSteps count => exact waits_of_runSteps h
  | cycle => exact waits_of_cycle h
  | load program =>
    replace h : .executing address word (.awaitKey register) ∈ (m.load program).events := h
    unfold load at h
    split at h
    · cases h
    · simp at h
  | loadFont font =>
    replace h : .executing address word (.awaitKey register) ∈ (m.loadFont font).events := h
    rw [(loadFont_frame m font).2] at h
    cases h
  | pressKey k =>
    replace h : Event.executing address word (.awaitKey register) ∈
      (if m.keypad.isAwaiting then [Event.delivered k] else []) := h
    split at h
    · simp at h
    · cases h
  | _ => cases h

/-! ## Waits that go on -/

/-- An armed slot holds no key. -/
theorem Waits.slot_ne_delivered (h : m.Waits register .awaiting) (key : Key) :
    m.keypad.slot ≠ .delivered key := by
  rw [h.slot_eq]
  exact nofun

/-- A batch of steps of a machine whose slot is armed does nothing but ask for the key. -/
theorem Waits.runSteps_awaiting (h : m.Waits register .awaiting) (count : Nat) :
    (∃ flow, (m.runSteps count).result = .ok flow) ∧ (m.runSteps count).machine = m := by
  rw [runSteps_of_waiting h.fault h.keyWait h.slot_ne_delivered]
  exact ⟨⟨_, rfl⟩, rfl⟩

/-- An action that attempts no step delivers the key that it presses, if the slot is armed. -/
theorem Waits.perform_of_not_attempts {slot : Keypad.Slot} (h : m.Waits register slot) {a : Action}
    (hkeeps : a.keepsWait) (hattempts : ¬ a.attempts m.config) :
    (m.perform a).machine.Waits register (slot.receive a.pressed?) := by
  cases a with
  | load program | awaitKey | takeKey => cases hkeeps
  | step => exact absurd rfl hattempts
  | runSteps count =>
    cases count with
    | zero => exact h
    | succ count => exact absurd rfl hattempts
  | cycle =>
    have hspeed : m.config.speed = 0 := by simpa [Action.attempts] using hattempts
    have hbatch : m.runSteps m.config.speed = { result := .ok .ok, machine := m } := by
      rw [hspeed, runSteps_zero]
    have hresult : (m.runSteps m.config.speed).result = .ok .ok := by rw [hbatch]
    show m.cycle.machine.Waits register slot
    rw [cycle_of_ok h.fault hresult, hbatch]
    exact h.endFrame
  | loadFont font =>
    obtain ⟨⟨memory, hm⟩, -⟩ := loadFont_frame m font
    show (m.loadFont font).machine.Waits register slot
    rw [hm]
    exact ⟨h.fault, h.keyWait, h.slot_eq⟩
  | pressKey k =>
    refine ⟨h.fault, h.keyWait, ?_⟩
    show (if m.keypad.slot == .awaiting then .delivered k else m.keypad.slot) =
      slot.receive (some k)
    rw [h.slot_eq]
    rfl
  | builtinFont =>
    show m.withBuiltinFont.Waits register slot
    unfold withBuiltinFont
    exact ⟨h.fault, h.keyWait, h.slot_eq⟩
  | _ => exact ⟨h.fault, h.keyWait, h.slot_eq⟩

/-- While the slot is armed, a wait goes on until a key is pressed. -/
theorem Waits.perform_awaiting (h : m.Waits register .awaiting) {a : Action}
    (hkeeps : a.keepsWait) :
    (m.perform a).machine.Waits register (Keypad.Slot.awaiting.receive a.pressed?) := by
  by_cases hattempts : a.attempts m.config
  · cases a with
    | step =>
      show m.step.machine.Waits register .awaiting
      rw [step_of_waiting h.fault h.keyWait h.slot_ne_delivered]
      exact h
    | runSteps count =>
      show (m.runSteps count).machine.Waits register .awaiting
      rw [(h.runSteps_awaiting count).2]
      exact h
    | cycle =>
      obtain ⟨⟨flow, hresult⟩, hm⟩ := h.runSteps_awaiting m.config.speed
      show m.cycle.machine.Waits register .awaiting
      rw [cycle_of_ok h.fault hresult, hm]
      exact h.endFrame
    | _ => cases hattempts
  · exact h.perform_of_not_attempts hkeeps hattempts

/-! ## Waits that end -/

/-- The first step after a press ends the wait and goes on. -/
theorem Waits.step_delivered {key : Key} (h : m.Waits register (.delivered key)) :
    m.step = (m.resume register key).step.behind (resumption register key) := by
  have hrunning : (m.resume register key).step = (m.resume register key).fetchExecute :=
    step_of_running h.fault rfl
  rw [step_of_delivered h.fault h.keyWait h.slot_eq, hrunning]

/-- What is in front of a step is in front of the batch that begins with it. -/
theorem runSteps_of_behind {m' : Machine} {events : List Event} (h : m.step = m'.step.behind events)
    (count : Nat) : m.runSteps (count + 1) = (m'.runSteps (count + 1)).behind events := by
  have hresult : m.step.result = m'.step.result := by rw [h]; rfl
  rcases stops_or_ok m'.step with hstops | ⟨flow, hok, hflow⟩
  · have hstops' : m.step.Stops := by
      rw [Reaction.Stops, hresult]
      exact hstops
    rw [runSteps, runSteps, runFrom_of_stops hstops, runFrom_of_stops hstops', h]
  · rw [runSteps, runSteps, runFrom_of_ok hok hflow, runFrom_of_ok (hresult.trans hok) hflow, h]
    exact (Reaction.behind_behind _ _ _).symm

/-- An action that attempts a step ends a wait whose slot is filled. -/
theorem Waits.ends {key : Key} (h : m.Waits register (.delivered key)) {a : Action}
    (ha : a.attempts m.config) : m.Ends a register key := by
  have hbatch := runSteps_of_behind h.step_delivered
  cases a with
  | step =>
    show m.step.map Answer.flow = _
    rw [h.step_delivered]
    rfl
  | runSteps count =>
    cases count with
    | zero => cases ha
    | succ count =>
      show (m.runSteps (count + 1)).map Answer.flow = _
      rw [hbatch count]
      rfl
  | cycle =>
    have hspeed : m.config.speed ≠ 0 := by simpa [Action.attempts] using ha
    obtain ⟨speed, hspeed⟩ := Nat.exists_eq_succ_of_ne_zero hspeed
    have hcycle : m.cycle = (m.resume register key).cycle.behind (resumption register key) := by
      have hframe := hbatch speed
      rw [← Nat.succ_eq_add_one, ← hspeed] at hframe
      have hfault : (m.resume register key).fault = none := h.fault
      cases hr : ((m.resume register key).runSteps m.config.speed).result with
      | error failure =>
        have hr' : (m.runSteps m.config.speed).result = .error failure := by rw [hframe]; exact hr
        rw [cycle_of_error h.fault hr', cycle_of_error hfault hr, hframe]
        rfl
      | ok flow =>
        have hr' : (m.runSteps m.config.speed).result = .ok flow := by rw [hframe]; exact hr
        rw [cycle_of_ok h.fault hr', cycle_of_ok hfault hr, hframe, Reaction.behind,
          Reaction.behind]
        simp only [List.append_assoc]
        rfl
    show m.cycle.map (fun _ => Answer.done) = _
    rw [hcycle]
    rfl
  | _ => cases ha

/-- No action resumes a register without attempting a step. -/
theorem countP_of_not_attempts {a : Action} (ha : ¬ a.attempts m.config) :
    (m.perform a).events.countP Event.isResumed = 0 := by
  cases a with
  | step => exact absurd rfl ha
  | runSteps count =>
    cases count with
    | zero => rfl
    | succ count => exact absurd rfl ha
  | cycle =>
    have hspeed : m.config.speed = 0 := by simpa [Action.attempts] using ha
    have hbatch : m.runSteps m.config.speed = { result := .ok .ok, machine := m } := by
      rw [hspeed, runSteps_zero]
    show m.cycle.events.countP Event.isResumed = 0
    cases hf : m.fault with
    | some fault =>
      rw [cycle_of_fault hf]
      rfl
    | none =>
      have hresult : (m.runSteps m.config.speed).result = .ok .ok := by rw [hbatch]
      rw [cycle_of_ok hf hresult, hbatch]
      exact countP_endFrame m
  | load program =>
    show (m.load program).events.countP Event.isResumed = 0
    unfold load
    split
    · rfl
    · rfl
  | loadFont font =>
    show (m.loadFont font).events.countP Event.isResumed = 0
    rw [(loadFont_frame m font).2]
    rfl
  | pressKey k => exact countP_pressKey m k
  | _ => rfl

/-- What an action resumes is the register that waits, with the key in the slot. -/
theorem Waits.mem_resumed {slot : Keypad.Slot} (h : m.Waits register slot) {a : Action}
    {register' : UInt8} {key : Key} (hmem : .resumed key register' ∈ (m.perform a).events) :
    slot = .delivered key ∧ register' = register ∧ m.Ends a register key := by
  have hcount : 0 < (m.perform a).events.countP Event.isResumed :=
    List.countP_pos_iff.2 ⟨_, hmem, rfl⟩
  have hpending := countP_perform_le m a
  have hattempts : a.attempts m.config := by
    refine Classical.byContradiction fun hnot => ?_
    rw [countP_of_not_attempts hnot] at hcount
    exact Nat.lt_irrefl 0 hcount
  rw [pending, h.slot_eq] at hpending
  cases slot with
  | idle | awaiting => exact absurd (Nat.lt_of_lt_of_le hcount hpending) (Nat.lt_irrefl 0)
  | delivered key' =>
    have hends := h.ends hattempts
    -- the resumed machine has no key left that it could resume with
    have hrest : ((m.resume register key').perform a).events.countP Event.isResumed = 0 :=
      Nat.le_zero.1 (countP_perform_le (m.resume register key') a)
    rw [hends] at hmem
    rcases List.mem_append.1 hmem with hmem | hmem
    · have hpair : key = key' ∧ register' = register := by simpa [resumption] using hmem
      obtain ⟨rfl, rfl⟩ := hpair
      exact ⟨rfl, rfl, hends⟩
    · exact absurd rfl (List.countP_eq_zero.1 hrest _ hmem)

/-- A wait that is not ended goes on, and its slot receives the first key that is pressed. -/
theorem Waits.perform_of_not_resumed {slot : Keypad.Slot} (h : m.Waits register slot)
    (hslot : slot ≠ .idle) {a : Action} (hkeeps : a.keepsWait)
    (hno : (m.perform a).events.countP Event.isResumed = 0) :
    (m.perform a).machine.Waits register (slot.receive a.pressed?) := by
  cases slot with
  | idle => exact absurd rfl hslot
  | awaiting => exact h.perform_awaiting hkeeps
  | delivered key =>
    apply h.perform_of_not_attempts hkeeps
    intro hattempts
    have hends := h.ends hattempts
    rw [hends, List.countP_eq_zero] at hno
    exact hno (.resumed key register) (by simp [Reaction.behind, resumption]) rfl

/-- A wait that is not ended during a run goes on, and its slot receives the first key that is
pressed. -/
theorem Waits.after {slot : Keypad.Slot} (h : m.Waits register slot) (hslot : slot ≠ .idle)
    {actions : List Action} (hkeeps : ∀ a ∈ actions, a.keepsWait)
    (hno : (m.trace actions).countP Event.isResumed = 0) :
    (m.after actions).Waits register (slot.receive (actions.findSome? Action.pressed?)) := by
  -- the slot is generalized: once it is filled it receives nothing more
  induction actions generalizing m slot with
  | nil => exact h
  | cons a actions ih =>
    rw [trace, List.countP_append] at hno
    obtain ⟨hfirst, hrest⟩ := Nat.add_eq_zero_iff.1 hno
    have ha := h.perform_of_not_resumed hslot (hkeeps a List.mem_cons_self) hfirst
    have hslot' : slot.receive a.pressed? ≠ .idle := by
      cases hp : a.pressed? with
      | none => exact hslot
      | some key =>
        cases slot with
        | idle => exact absurd rfl hslot
        | _ => exact nofun
    have hafter := ih ha hslot' (fun b hb => hkeeps b (List.mem_cons_of_mem a hb)) hrest
    rw [Keypad.Slot.receive_receive] at hafter
    have hpress : (a :: actions).findSome? Action.pressed? =
        a.pressed?.or (actions.findSome? Action.pressed?) := by
      rw [List.findSome?_cons]
      cases a.pressed? <;> rfl
    rw [hpress]
    exact hafter

/-- While no step is attempted, no register is resumed. -/
theorem Sound.countP_trace {config : Config} (h : m.Sound config) {actions : List Action}
    (hattempts : ∀ a ∈ actions, ¬ a.attempts config) :
    (m.trace actions).countP Event.isResumed = 0 := by
  induction actions generalizing m with
  | nil => rfl
  | cons a actions ih =>
    have ha : ¬ a.attempts m.config := by
      rw [h.config_eq]
      exact hattempts a List.mem_cons_self
    rw [trace, List.countP_append, countP_of_not_attempts ha, Nat.zero_add]
    exact ih (h.perform a) fun b hb => hattempts b (List.mem_cons_of_mem a hb)

/-! ## The first press of a wait -/

variable {between : List Action} {key : Key}

/-- A wait is ended with the first key that was pressed since it began. -/
theorem Waits.first_press (h : m.Waits register .awaiting) (hkeeps : ∀ b ∈ between, b.keepsWait)
    (hno : (m.trace between).countP Event.isResumed = 0) {last : Action} {register' : UInt8}
    (hmem : .resumed key register' ∈ ((m.after between).perform last).events) :
    register' = register ∧ between.findSome? Action.pressed? = some key ∧
      (m.after between).Ends last register key := by
  obtain ⟨hslot, hregister, hends⟩ := (h.after nofun hkeeps hno).mem_resumed hmem
  refine ⟨hregister, ?_, hends⟩
  cases hfirst : between.findSome? Action.pressed? with
  | none =>
    rw [hfirst] at hslot
    cases hslot
  | some key' =>
    rw [hfirst] at hslot
    cases hslot
    rfl

/-- Between the first press and the next step the wait goes on, and the slot holds the key. -/
theorem Waits.after_press {config : Config} (h : m.Waits register .awaiting)
    (hsound : m.Sound config) (hkeeps : ∀ b ∈ between, b.keepsWait) {quiet idle : List Action}
    (hbetween : between = quiet ++ .pressKey key :: idle) (hquiet : ∀ b ∈ quiet, ¬ b.isPress)
    (hidle : ∀ b ∈ idle, ¬ b.attempts config) :
    (m.trace between).countP Event.isResumed = 0 ∧
      (m.after between).Waits register (.delivered key) := by
  have hno : (m.trace between).countP Event.isResumed = 0 := by
    -- before the press no key is pending, and after it no step is attempted
    have hledger := trace_pending m quiet
    have hpresses : quiet.countP Action.isPress = 0 := List.countP_eq_zero.2 hquiet
    have hpending : m.pending = 0 := by
      rw [pending, h.slot_eq]
      rfl
    have hrest := ((hsound.after quiet).perform (.pressKey key)).countP_trace hidle
    rw [hbetween, trace_append, List.countP_append, trace, List.countP_append, countP_pressKey]
    omega
  have hfirst : between.findSome? Action.pressed? = some key := by
    have hnone : quiet.findSome? Action.pressed? = none := by
      rw [List.findSome?_eq_none_iff]
      intro b hb
      exact Option.not_isSome_iff_eq_none.1 (hquiet b hb)
    rw [hbetween, List.findSome?_append, hnone]
    rfl
  have hafter := h.after nofun hkeeps hno
  rw [hfirst] at hafter
  exact ⟨hno, hafter⟩

/-! ## Slots that are never idle -/

/-- The slot is armed or filled while a register waits. -/
def Armed (m : Machine) : Prop := m.keyWait = none ∨ m.keypad.slot ≠ .idle

/-- An instruction that begins a wait arms the slot. -/
theorem armed_fetchExecute (hwait : m.keyWait = none) : m.fetchExecute.machine.Armed := by
  cases m.fetched with
  | outside h hr | unknown h hd hr | refused i failure hi hf hr =>
    rw [hr]
    exact Or.inl hwait
  | executed i e hi he hr =>
    have hs := steered_of_effect he
    have hwait' : m.advanced.keyWait = none := hwait
    rw [hr]
    show e.machine.keyWait = none ∨ e.machine.keypad.slot ≠ .idle
    rw [hs.keyWait, hs.keypad, hwait', Option.or_none]
    cases i.awaited? with
    | none => exact Or.inl rfl
    | some register => exact Or.inr nofun

/-- Every action that leaves the slot to the program keeps the slot armed while a register waits. -/
theorem Armed.perform (h : m.Armed) {a : Action} (ha : a.leavesSlot) :
    (m.perform a).machine.Armed := by
  have hstep : ∀ m : Machine, m.Armed → m.step.machine.Armed := fun m h =>
    step_preserves (P := Armed) (fun m register key _ _ _ _ => Or.inl rfl)
      (fun m _ _ hwait => armed_fetchExecute hwait) h
  cases a with
  | awaitKey | takeKey => cases ha
  | step => exact hstep m h
  | runSteps count => exact runSteps_preserves (P := Armed) hstep h count
  | cycle =>
    have hframe : ∀ m : Machine, m.Armed → m.endFrame.1.Armed := by
      intro m h
      obtain ⟨hkeypad, hwait, -⟩ := endFrame_frame m
      rw [Armed, hkeypad, hwait]
      exact h
    show m.cycle.machine.Armed
    exact cycle_preserves (P := Armed) hstep hframe h
  | load program =>
    show (m.load program).machine.Armed
    unfold load
    split
    · exact h
    · exact Or.inl rfl
  | loadFont font =>
    obtain ⟨⟨memory, hm⟩, -⟩ := loadFont_frame m font
    show (m.loadFont font).machine.Armed
    rw [hm]
    exact h
  | builtinFont =>
    show m.withBuiltinFont.Armed
    unfold withBuiltinFont
    show m.keyWait = none ∨ m.keypad.slot ≠ .idle
    exact h
  | pressKey k =>
    rcases h with h | h
    · exact Or.inl h
    · refine Or.inr ?_
      show (if m.keypad.slot == .awaiting then .delivered k else m.keypad.slot) ≠ .idle
      split
      · exact nofun
      · exact h
  | _ => exact h

/-- After every run that leaves the slot to the program, the slot is armed or filled while a
register waits. -/
theorem armed_after (config : Config) (generator : Random.Generator) {actions : List Action}
    (ha : ∀ a ∈ actions, a.leavesSlot) : ((new config generator).after actions).Armed :=
  after_preserves (P := Armed) (Q := fun a => a.leavesSlot) (fun _ _ h ha => h.perform ha)
    (Or.inl rfl) ha

/-! ## The protocol -/

/-- Waiting for a key, after any run that leaves the slot to the program.

* A machine that waits finds its slot armed or filled.
* A wait that began goes on, while no program is loaded, until it is ended; it is ended with the
  first key that was pressed since it began, and whatever happened before plays no part.
* It is ended by the first step that is attempted after that press.
* One press ends one wait: an action ends one wait at most, and after it each further wait that is
  ended takes a press of its own. -/
theorem keyWait_protocol (config : Config) (generator : Random.Generator) {before : List Action}
    (hbefore : ∀ a ∈ before, a.leavesSlot) :
    let m := (new config generator).after before
    (m.isPaused → m.keypad.slot ≠ .idle) ∧
    (∀ (a : Action) (register : UInt8) (address : Nat) (word : UInt16),
      .executing address word (.awaitKey register) ∈ (m.perform a).events →
      ∀ between : List Action, (∀ b ∈ between, b.keepsWait) →
        let events := (m.perform a).machine.trace between
        let m' := (m.perform a).machine.after between
        (events.countP Event.isResumed = 0 →
          m'.keyWait = some register ∧
          ∀ last key register', .resumed key register' ∈ (m'.perform last).events →
            register' = register ∧ between.findSome? Action.pressed? = some key ∧
              m'.Ends last register key) ∧
        (∀ quiet key idle, between = quiet ++ .pressKey key :: idle →
          (∀ b ∈ quiet, ¬ b.isPress) → (∀ b ∈ idle, ¬ b.attempts config) →
          events.countP Event.isResumed = 0 ∧
            ∀ last, last.attempts config → m'.Ends last register key)) ∧
    (∀ a : Action, (m.perform a).events.countP Event.isResumed ≤ 1 ∧
      (0 < (m.perform a).events.countP Event.isResumed → ∀ rest,
        ((m.perform a).machine.trace rest).countP Event.isResumed ≤
          rest.countP Action.isPress)) := by
  intro m
  refine ⟨?_, ?_, ?_⟩
  · intro hpaused
    rcases armed_after config generator hbefore with h | h
    · have hwait : m.keyWait.isSome := hpaused
      rw [h] at hwait
      cases hwait
    · exact h
  · intro a register address word hbegin between hkeeps events m'
    have hsound : (m.perform a).machine.Sound config :=
      (sound_after config generator before).perform a
    have hwaits := waits_of_perform hbegin
    constructor
    · intro hno
      refine ⟨(hwaits.after nofun hkeeps hno).keyWait, ?_⟩
      intro last key register' hmem
      exact hwaits.first_press hkeeps hno hmem
    · intro quiet key idle hbetween hquiet hidle
      obtain ⟨hno, hfilled⟩ := hwaits.after_press hsound hkeeps hbetween hquiet hidle
      refine ⟨hno, ?_⟩
      intro last hlast
      apply hfilled.ends
      rw [(hsound.after between).config_eq]
      exact hlast
  · intro a
    have hone : m.pending ≤ 1 := m.keypad.slot.pending_le
    refine ⟨Nat.le_trans (countP_perform_le m a) hone, ?_⟩
    intro hresumed rest
    have hledger := trace_pending (m.perform a).machine rest
    rw [pending_of_resumed hresumed] at hledger
    omega

/-- Two waits in a row: a key that was pressed before does not count, the first of two keys ends the
first wait, and the second wait, which begins in the same step, finds no key. -/
theorem keyWait_twice :
    let before := [Action.load [0xF1, 0x0A, 0xF2, 0x0A], .pressKey 5]
    let between := [Action.step, .pressKey 7, .releaseKeys, .pressKey 9]
    let m := (new {} (.ofSeed 0)).after before
    let m' := (m.perform .step).machine.after between
    ((∀ a ∈ before, a.leavesSlot) ∧
      .executing 0x200 0xF10A (.awaitKey 1) ∈ (m.perform .step).events ∧
      (∀ b ∈ between, b.keepsWait)) ∧
    (m'.Ends .step 1 7 ∧ m'.step.machine.reg 1 = 7 ∧ m'.step.machine.keyWait = some 2 ∧
      (m'.step.machine.trace [.step, .step]).countP Event.isResumed = 0) := by
  intro before between m m'
  have hbefore : ∀ a ∈ before, a.leavesSlot := by decide
  have hbegin : .executing 0x200 0xF10A (.awaitKey 1) ∈ (m.perform .step).events := by
    decide +kernel
  have hkeeps : ∀ b ∈ between, b.keepsWait := by decide
  obtain ⟨-, hwait, -⟩ := keyWait_protocol {} (.ofSeed 0) hbefore
  obtain ⟨-, hfirst⟩ := hwait .step 1 0x200 0xF10A hbegin between hkeeps
  obtain ⟨-, hends⟩ := hfirst [.step] 7 [.releaseKeys, .pressKey 9] rfl (by decide) (by decide)
  refine ⟨⟨hbefore, hbegin, hkeeps⟩, hends .step rfl, ?_, ?_, ?_⟩
  · decide +kernel
  · decide +kernel
  · decide +kernel

end Machine

end ChipEight
