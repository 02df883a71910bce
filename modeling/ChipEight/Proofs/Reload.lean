/-
# Machines that are loaded again

When a program is loaded, two things stay behind that depend on what the machine did before: the
slot of the keypad, which may be armed or hold a key, and the count of frames. A program sees
neither of them. It arms the slot itself before it reads it, and nothing reads the count.

So two machines can run side by side with different remnants. `Machine.Alike` says that they differ
in nothing else, and that they agree on the slot as long as they wait for a key. Every action but
the host's own taking of a key keeps them alike and is answered alike (`Machine.Alike.perform`).
Loading a program makes them alike, so it leaks nothing of the programs before
(`Headless.load_forgets`).
-/
import ChipEight.Proofs.Halted

namespace ChipEight

/-! ## Remnants -/

/-- What stays behind when a program is loaded and depends on the past of the machine. -/
structure Remnants where
  /-- The slot for the next key press. -/
  slot : Keypad.Slot
  /-- How often the screen was presented. -/
  frames : Nat

/-- The remnants behind an instruction, which may arm the slot. -/
def Remnants.behind (r : Remnants) (i : Instruction) : Remnants :=
  { r with slot := if i.awaited?.isSome then .awaiting else r.slot }

/-- The remnants on a machine. -/
def Machine.remnants (m : Machine) : Remnants := ⟨m.keypad.slot, m.screen.frames⟩

/-- The same machine with other remnants. -/
def Machine.withRemnants (m : Machine) (r : Remnants) : Machine :=
  { m with
    keypad := { m.keypad with slot := r.slot }
    screen := { m.screen with frames := r.frames } }

/-- The same effect with other remnants on its machine. -/
def Effect.withRemnants (e : Effect) (r : Remnants) : Effect :=
  { e with machine := e.machine.withRemnants r }

/-- The count of frames does not matter to the toggling of pixels. -/
theorem Screen.toggleAll_frames (s : Screen) (frames : Nat) (pixels : List (Nat × Nat)) :
    { s with frames }.toggleAll pixels =
      ((s.toggleAll pixels).1, { (s.toggleAll pixels).2 with frames }) := by
  induction pixels generalizing s with
  | nil => rfl
  | cons p pixels ih =>
    have hrest := ih (s.toggle p.1 p.2).2
    exact congrArg (fun t => ((s.toggle p.1 p.2).1 :: t.1, t.2)) hrest

namespace Machine

variable {m n : Machine}

/-! ## Executing with other remnants -/

/-- Pixels are drawn whatever the remnants. -/
theorem drawPixels_withRemnants (m : Machine) (r : Remnants) (pixels : List (Nat × Nat)) :
    (m.withRemnants r).drawPixels pixels = (m.drawPixels pixels).withRemnants r := by
  have hscreen : (m.withRemnants r).screen = { m.screen with frames := r.frames } := rfl
  rw [drawPixels, drawPixels, hscreen, m.screen.toggleAll_frames r.frames pixels]
  rfl

/-- A skip does not look at the remnants. -/
theorem skipIf_withRemnants (m : Machine) (r : Remnants) (condition : Bool) (calls : List Event) :
    { (m.withRemnants r).skipIf condition with events := calls } =
      Effect.withRemnants { m.skipIf condition with events := calls } r := by
  cases condition <;> rfl

/-- Instructions do not look at the remnants. -/
theorem effect_withRemnants (m : Machine) (r : Remnants) (address : Nat) (i : Instruction) :
    (m.withRemnants r).effect address i =
      (m.effect address i).map (·.withRemnants (r.behind i)) := by
  -- forms that test the machine are split by that test, the others read off
  cases i with
  | ret =>
    have hstack : (m.withRemnants r).stack = m.stack := rfl
    rw [effect, effect, hstack]
    cases m.stack <;> rfl
  | call target =>
    rw [effect, effect]
    show (if m.stack.length ≥ m.config.stackSize then _ else _) = _
    split <;> rfl
  | skipIfByte x nn | skipUnlessByte x nn | skipIfEqual x y | skipUnlessEqual x y =>
    exact congrArg Except.ok (skipIf_withRemnants m r _ [])
  | skipIfKey x | skipUnlessKey x =>
    exact congrArg Except.ok (skipIf_withRemnants m r _ (m.keyState (m.reg x)).2)
  | draw x y n =>
    rw [effect, drawPixels_withRemnants]
    exact reaching_map rfl n.toNat _ (·.withRemnants r)
  | storeDecimal x | storeRegisters x | loadRegisters x =>
    rw [effect, effect, reaching, reaching]
    show (if memorySize < m.index.toNat + _ then _ else _) = _
    split <;> rfl
  | _ => rfl

/-! ## Two machines side by side -/

/-- Two machines that differ in their remnants only, and not in the slot if they wait for a key. -/
inductive Alike (m : Machine) : Machine → Prop
  /-- The other machine has remnants of its own. -/
  | intro (r : Remnants) (hslot : m.keyWait ≠ none → r.slot = m.keypad.slot) :
      m.Alike (m.withRemnants r)

end Machine

/-- Two reactions with the same result that leave two machines alike. -/
structure Reaction.Alike {α : Type} (r s : Reaction α) : Prop where
  /-- The results are the same. -/
  result : r.result = s.result
  /-- The machines are alike. -/
  machine : r.machine.Alike s.machine

namespace Reaction.Alike

variable {α β : Type} {r s : Reaction α}

/-- The results may be viewed otherwise. -/
theorem map (h : r.Alike s) (f : α → β) : (r.map f).Alike (s.map f) :=
  ⟨congrArg (Except.map f) h.result, h.machine⟩

/-- What happened before does not matter. -/
theorem behind (h : r.Alike s) (first second : List Event) :
    (r.behind first).Alike (s.behind second) :=
  ⟨h.result, h.machine⟩

end Reaction.Alike

namespace Machine

variable {m n : Machine}

/-- Two machines that do not wait halt alike. -/
theorem halt_alike (hk : m.keyWait = none) (r : Remnants) (fault : Failure) (events : List Event) :
    (m.halt fault events).Alike ((m.withRemnants r).halt fault events) :=
  ⟨rfl, .intro r fun hwait => absurd hk hwait⟩

/-- Two machines that do not wait fetch, decode and execute alike. An instruction that begins to
wait arms both slots. -/
theorem fetchExecute_alike (hk : m.keyWait = none) (r : Remnants) :
    m.fetchExecute.Alike (m.withRemnants r).fetchExecute := by
  cases m.fetched with
  | outside hpc hr =>
    rw [hr, fetchExecute_of_outside (m := m.withRemnants r) hpc]
    exact halt_alike hk r _ _
  | unknown hpc hd hr =>
    rw [hr, fetchExecute_of_unknown (m := m.withRemnants r) hpc hd]
    exact halt_alike hk r _ _
  | refused i failure hi hf hr =>
    have he : (m.advanced.withRemnants r).effect m.pc i = .error failure := by
      rw [effect_withRemnants, effect_of_refuses hf]
      rfl
    rw [hr, fetchExecute_of_error (m := m.withRemnants r) hi he]
    exact halt_alike (m := m.advanced) hk r _ _
  | executed i e hi he hr =>
    have hs := steered_of_effect he
    have he' : (m.advanced.withRemnants r).effect m.pc i = .ok (e.withRemnants (r.behind i)) := by
      rw [effect_withRemnants, he]
      rfl
    rw [hr, fetchExecute_of_ok (m := m.withRemnants r) hi he']
    refine ⟨rfl, .intro (r.behind i) ?_⟩
    intro hwait
    have hbegins : i.awaited?.isSome := by
      have hk' : m.advanced.keyWait = none := hk
      rw [hs.keyWait, hk', Option.or_none] at hwait
      exact Option.isSome_iff_ne_none.2 hwait
    show (if i.awaited?.isSome then Keypad.Slot.awaiting else r.slot) = e.machine.keypad.slot
    rw [hs.keypad, if_pos hbegins, if_pos hbegins]
    rfl

/-- Machines that are alike step alike. -/
theorem Alike.step (h : m.Alike n) : m.step.Alike n.step := by
  cases h with
  | intro r hslot =>
    cases m.stepped with
    | halted fault hf hr =>
      rw [hr, step_of_fault (m := m.withRemnants r) hf]
      exact ⟨rfl, .intro r hslot⟩
    | waiting register hf hk hs hr =>
      -- both wait, so neither slot holds a key that the other does not
      have hsame : r.slot = m.keypad.slot := hslot (by rw [hk]; nofun)
      have hs' : ∀ key, r.slot ≠ .delivered key := by
        rw [hsame]
        exact hs
      rw [hr, step_of_waiting (m := m.withRemnants r) hf hk hs']
      exact ⟨rfl, .intro r hslot⟩
    | resumed register key hf hk hs hr =>
      have hsame : r.slot = m.keypad.slot := hslot (by rw [hk]; nofun)
      rw [hr, step_of_delivered (m := m.withRemnants r) hf hk (hsame.trans hs)]
      -- the slot is taken, so both are idle
      have hfetch := fetchExecute_alike (m := m.resume register key) rfl { r with slot := .idle }
      exact hfetch.behind _ _
    | running hf hk hr =>
      rw [hr, step_of_running (m := m.withRemnants r) hf hk]
      exact fetchExecute_alike hk r

/-- Machines that are alike run batches of steps alike, whatever the flow so far. -/
theorem Alike.runFrom (h : m.Alike n) (flow : Flow) (count : Nat) :
    (runFrom flow #[] count m).Alike (runFrom flow #[] count n) := by
  induction count generalizing flow m n with
  | zero => exact ⟨rfl, h⟩
  | succ count ih =>
    have hstep := h.step
    rcases stops_or_ok m.step with hstops | ⟨next, hok, hnext⟩
    · have hstops' : n.step.Stops := by
        unfold Reaction.Stops
        rw [← hstep.result]
        exact hstops
      rw [runFrom_of_stops hstops, runFrom_of_stops hstops']
      exact hstep
    · have hok' : n.step.result = .ok next := hstep.result.symm.trans hok
      rw [runFrom_of_ok hok hnext, runFrom_of_ok hok' hnext]
      exact (ih hstep.machine next).behind _ _

/-- Machines that are alike end frames alike. -/
theorem Alike.endFrame (h : m.Alike n) : m.endFrame.1.Alike n.endFrame.1 := by
  cases h with
  | intro r hslot =>
    have hframe : (m.withRemnants r).endFrame.1 =
        m.endFrame.1.withRemnants { r with frames := r.frames + 1 } := by
      have hpaused : (m.withRemnants r).isPaused = m.isPaused := rfl
      rw [Machine.endFrame, Machine.endFrame, hpaused]
      cases m.isPaused <;> rfl
    obtain ⟨hkeypad, hwait, -⟩ := endFrame_frame m
    rw [hframe]
    refine .intro _ ?_
    rw [hkeypad, hwait]
    exact hslot

/-- Machines that are alike run frames alike. -/
theorem Alike.cycle (h : m.Alike n) : m.cycle.Alike n.cycle := by
  have hsame : n.fault = m.fault ∧ n.config = m.config := by
    cases h
    exact ⟨rfl, rfl⟩
  have hbatch : (m.runSteps m.config.speed).Alike (n.runSteps n.config.speed) := by
    rw [hsame.2]
    exact h.runFrom .ok m.config.speed
  cases hf : m.fault with
  | some fault =>
    rw [cycle_of_fault hf, cycle_of_fault (hsame.1.trans hf)]
    exact ⟨rfl, h⟩
  | none =>
    have hf' := hsame.1.trans hf
    cases hr : (m.runSteps m.config.speed).result with
    | error failure =>
      rw [cycle_of_error hf hr, cycle_of_error hf' (hbatch.result.symm.trans hr)]
      exact ⟨rfl, hbatch.machine⟩
    | ok flow =>
      rw [cycle_of_ok hf hr, cycle_of_ok hf' (hbatch.result.symm.trans hr)]
      exact ⟨rfl, hbatch.machine.endFrame⟩

/-! ## Actions of a host -/

/-- Two machines with the same parameters, random bytes and held keys differ in their remnants only
after they were reset. -/
theorem reset_eq_withRemnants (hconfig : m.config = n.config)
    (hgenerator : m.generator = n.generator) (hheld : m.keypad.held = n.keypad.held) :
    n.reset = m.reset.withRemnants n.remnants := by
  show { n.reset with
    config := n.config
    generator := n.generator
    keypad := { n.keypad with held := n.keypad.held } } = _
  rw [← hconfig, ← hgenerator, ← hheld]
  rfl

/-- Two machines with the same parameters, random bytes and held keys are alike when they have
loaded the same program. -/
theorem alike_of_load (hconfig : m.config = n.config) (hgenerator : m.generator = n.generator)
    (hheld : m.keypad.held = n.keypad.held) {program : List UInt8}
    (hsize : program.length ≤ maxProgramSize) :
    (m.load program).machine.Alike (n.load program).machine := by
  have hfits := Nat.not_lt_of_le hsize
  rw [Machine.load, Machine.load, if_neg hfits, if_neg hfits]
  dsimp only
  rw [reset_eq_withRemnants hconfig hgenerator hheld]
  exact .intro n.remnants fun hwait => absurd rfl hwait

/-- Machines that are alike load programs alike. -/
theorem Alike.load (h : m.Alike n) (program : List UInt8) :
    (m.load program).Alike (n.load program) := by
  by_cases hsize : program.length ≤ maxProgramSize
  · refine ⟨(load_of_le hsize).1.trans (load_of_le hsize).1.symm, ?_⟩
    cases h with
    | intro r hslot => exact alike_of_load (m := m) (n := m.withRemnants r) rfl rfl rfl hsize
  · rw [load_of_gt (Nat.lt_of_not_le hsize), load_of_gt (Nat.lt_of_not_le hsize)]
    exact ⟨rfl, h⟩

/-- Machines that are alike load fonts alike. -/
theorem Alike.loadFont (h : m.Alike n) (font : List UInt8) :
    (m.loadFont font).Alike (n.loadFont font) := by
  cases h with
  | intro r hslot =>
    rw [Machine.loadFont, Machine.loadFont]
    split
    · exact ⟨rfl, .intro r hslot⟩
    · rcases Nat.lt_or_ge memorySize (Font.start + font.length) with hlen | hlen
      · rw [Operation.writeMemory_of_gt hlen, Operation.writeMemory_of_gt hlen]
        exact ⟨rfl, .intro r hslot⟩
      · rw [Operation.writeMemory_of_le hlen, Operation.writeMemory_of_le hlen]
        exact ⟨rfl, .intro r hslot⟩

/-- Machines that are alike take a key press alike: a slot that a program waits for receives it in
both. -/
theorem Alike.pressKey (h : m.Alike n) (key : Key) :
    (m.pressKey key).1.Alike (n.pressKey key).1 := by
  cases h with
  | intro r hslot =>
    refine .intro { r with slot := if r.slot == .awaiting then .delivered key else r.slot } ?_
    intro hwait
    show (if r.slot == .awaiting then Keypad.Slot.delivered key else r.slot) =
      if m.keypad.slot == .awaiting then Keypad.Slot.delivered key else m.keypad.slot
    rw [hslot hwait]

/-- Machines that are alike react alike to every action but the taking of a key. -/
theorem Alike.perform (h : m.Alike n) {a : Action} (ha : a ≠ .takeKey) :
    (m.perform a).Alike (n.perform a) := by
  cases a with
  | load program => exact (h.load program).map _
  | loadFont font => exact (h.loadFont font).map _
  | step => exact h.step.map _
  | runSteps count => exact (h.runFrom .ok count).map _
  | cycle => exact h.cycle.map _
  | pressKey key => exact ⟨rfl, h.pressKey key⟩
  | takeKey => exact absurd rfl ha
  | renderScreen =>
    cases h with
    | intro r hslot => exact ⟨rfl, .intro { r with frames := r.frames + 1 } hslot⟩
  | awaitKey =>
    cases h with
    | intro r hslot => exact ⟨rfl, .intro { r with slot := .awaiting } fun _ => rfl⟩
  | builtinFont =>
    cases h with
    | intro r hslot =>
      have hwait : m.withBuiltinFont.keyWait = m.keyWait := by rw [withBuiltinFont]
      have hkeypad : m.withBuiltinFont.keypad = m.keypad := by rw [withBuiltinFont]
      refine ⟨rfl, ?_⟩
      show m.withBuiltinFont.Alike (m.withBuiltinFont.withRemnants r)
      refine .intro r ?_
      rw [hwait, hkeypad]
      exact hslot
  | togglePixel x y | clearScreen | releaseKey key | releaseKeys =>
    cases h with
    | intro r hslot => exact ⟨rfl, .intro r hslot⟩

/-- Two machines that agree on all that their program computes and shows. -/
structure Agrees (m n : Machine) : Prop where
  /-- The program counters are the same. -/
  pc : m.pc = n.pc
  /-- The registers are the same. -/
  registers : m.registers = n.registers
  /-- The index registers are the same. -/
  index : m.index = n.index
  /-- The delay timers are the same. -/
  delay : m.delay = n.delay
  /-- The sound timers are the same. -/
  sound : m.sound = n.sound
  /-- The call stacks are the same. -/
  stack : m.stack = n.stack
  /-- The bytes in memory are the same. -/
  memory : m.memory = n.memory
  /-- Both wait for a key, into the same register, or neither does. -/
  keyWait : m.keyWait = n.keyWait
  /-- The same fault halted both, or none did. -/
  fault : m.fault = n.fault
  /-- The same pixels are shown as on. -/
  pixel : ∀ x y, m.screen.pixel x y = n.screen.pixel x y
  /-- The same cells are on, shown or not. -/
  isLit : ∀ cell, m.screen.isLit cell = n.screen.isLit cell

/-- Machines that are alike agree. -/
theorem Alike.agrees (h : m.Alike n) : m.Agrees n := by
  cases h
  constructor
  all_goals intros; rfl

end Machine

namespace Headless

variable {h k : Headless}

/-- What the actions of a run are answered. -/
def answers (h : Headless) : List Action → List (Except Failure Answer)
  | [] => []
  | a :: actions => (h.perform a).result :: (h.perform a).after.answers actions

/-- Machines that are alike answer a run alike and stay alike. -/
theorem alike_after (hm : h.machine.Alike k.machine) {actions : List Action}
    (ha : ∀ a ∈ actions, a ≠ .takeKey) :
    h.answers actions = k.answers actions ∧
      (h.after actions).machine.Alike (k.after actions).machine := by
  induction actions generalizing h k with
  | nil => exact ⟨rfl, hm⟩
  | cons a actions ih =>
    have hfirst := hm.perform (ha a List.mem_cons_self)
    obtain ⟨hanswers, hafter⟩ := ih (h := (h.perform a).after) (k := (k.perform a).after)
      hfirst.machine fun b hb => ha b (List.mem_cons_of_mem a hb)
    refine ⟨?_, hafter⟩
    rw [answers, answers, hanswers]
    exact congrArg (· :: _) hfirst.result

/-- Loading a program leaks nothing of the previous one. Two machines with the same parameters, the
same random bytes to come and the same keys held load a program that fits, whatever their pasts left
behind. From then on they answer every run alike and agree at every point of it; only the host must
not take a key out of the slot by itself. -/
theorem load_forgets (hconfig : h.machine.config = k.machine.config)
    (hgenerator : h.machine.generator = k.machine.generator)
    (hheld : h.machine.keypad.held = k.machine.keypad.held) {program : List UInt8}
    (hsize : program.length ≤ maxProgramSize) {actions : List Action}
    (ha : ∀ a ∈ actions, a ≠ .takeKey) :
    let load := Action.load program
    (h.perform load).result = .ok .done ∧ (k.perform load).result = .ok .done ∧
    (h.perform load).after.answers actions = (k.perform load).after.answers actions ∧
    ∀ seen, seen <+: actions →
      ((h.perform load).after.after seen).machine.Agrees
        ((k.perform load).after.after seen).machine := by
  intro load
  have hanswer : ∀ h : Headless, (h.perform load).result = .ok .done := fun h =>
    congrArg (Except.map _) (Machine.load_of_le hsize).1
  have halike : (h.perform load).after.machine.Alike (k.perform load).after.machine :=
    Machine.alike_of_load hconfig hgenerator hheld hsize
  refine ⟨hanswer h, hanswer k, (alike_after halike ha).1, ?_⟩
  intro seen hseen
  have ha' : ∀ a ∈ seen, a ≠ .takeKey := fun a hmem => ha a (hseen.subset hmem)
  exact (alike_after halike ha').2.agrees

/-- One machine holds a key for a program that waits, the other plays a tone and shows a pixel. The
same program, which waits for a key, gets the same key on both. -/
theorem load_forgets_delivered :
    let h := (new {} (.ofSeed 0)).after [.load [0xF0, 0x0A], .step, .pressKey 3, .releaseKey 3]
    let k := (new {} (.ofSeed 0)).after
      [.load [0x60, 0x20, 0xF0, 0x18, 0xF0, 0x0A], .cycle, .togglePixel 70 40, .runSteps 2]
    let waits := Action.load [0xF0, 0x0A]
    let actions := [Action.step, .pressKey 5, .step]
    (h.machine.config = k.machine.config ∧ h.machine.generator = k.machine.generator ∧
      h.machine.keypad.held = k.machine.keypad.held ∧ ∀ a ∈ actions, a ≠ .takeKey) ∧
    (h.machine.keypad.slot = .delivered 3 ∧ k.machine.keypad.slot = .awaiting) ∧
    (k.buzzer.playing = some 440 ∧ k.machine.screen.litCount = 1) ∧
    ((h.perform waits).after.after actions).machine.reg 0 = 5 ∧
    ((k.perform waits).after.after actions).machine.reg 0 = 5 := by
  intro h k waits actions
  have hconfig : h.machine.config = k.machine.config := by decide +kernel
  have hheld : h.machine.keypad.held = k.machine.keypad.held := by decide +kernel
  have hactions : ∀ a ∈ actions, a ≠ .takeKey := by decide
  have hgenerator : h.machine.generator = k.machine.generator := by
    refine Random.Generator.ext ?_ (by decide +kernel)
    rw [machine_after, machine_after, Machine.stream_after, Machine.stream_after]
  have hslots : h.machine.keypad.slot = .delivered 3 ∧ k.machine.keypad.slot = .awaiting := by
    decide +kernel
  have hdevices : k.buzzer.playing = some 440 ∧ k.machine.screen.litCount = 1 := by
    decide +kernel
  have hkey : ((h.perform waits).after.after actions).machine.reg 0 = 5 := by
    decide +kernel
  have hsize : [(0xF0 : UInt8), 0x0A].length ≤ maxProgramSize := by decide
  obtain ⟨-, -, -, hagrees⟩ := load_forgets hconfig hgenerator hheld hsize hactions
  have hlast := hagrees actions List.prefix_rfl
  refine ⟨⟨hconfig, hgenerator, hheld, hactions⟩, hslots, hdevices, hkey, ?_⟩
  rw [Machine.reg, ← hlast.registers]
  exact hkey

end Headless

end ChipEight
