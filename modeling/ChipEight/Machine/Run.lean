/-
# Running a machine

A step executes one instruction, `runSteps` a number of them, and `cycle` one frame: instructions,
timers, tone and screen. A fault halts the machine: from then on every step gives the same fault
and does nothing else. While a program waits for a key press, steps execute nothing.
-/
import ChipEight.Machine.Execute

namespace ChipEight.Machine

/-! ## One step -/

/-- Halt the machine with a fault. -/
def halt (m : Machine) (fault : Failure) (events : List Event) : Reaction Flow :=
  { result := .error fault
    machine := { m with fault := some fault }
    events := events ++ [.halted fault, .stopTone] }

/-- Fetch, decode and execute the instruction at the program counter. If that fails, the machine is
halted as it was left. -/
def fetchExecute (m : Machine) : Reaction Flow :=
  match Operation.fetchExecute m.pc m with
  | { result := .error fault, machine, events } => machine.halt fault events
  | reaction => reaction

/-- Execute one instruction, unless the machine is halted or waits for a key that was not pressed
yet. A key that was delivered goes to its register first. -/
def step (m : Machine) : Reaction Flow :=
  match m.fault with
  | some fault => { result := .error fault, machine := m }
  | none =>
    match m.keyWait with
    | none => m.fetchExecute
    | some register =>
      match m.keypad.take with
      | (none, _) => { result := .ok .keyWait, machine := m, events := [.takeKey none] }
      | (some key, keypad) =>
        let resumed := { m.setReg register (Key.toByte key) with keyWait := none, keypad }
        resumed.fetchExecute.behind [.takeKey (some key), .resumed key register]

/-! ## Many steps -/

/-- Execute up to `count` more instructions, given how the last step ended and what happened so
far. -/
def runFrom (flow : Flow) (seen : Array Event) : Nat → Machine → Reaction Flow
  | 0, m => { result := .ok flow, machine := m, events := seen.toList }
  | count + 1, m =>
    let reaction := m.step
    let seen := seen ++ reaction.events
    match reaction.result with
    | .error fault =>
      { result := .error fault, machine := reaction.machine, events := seen.toList }
    | .ok .keyWait =>
      { result := .ok .keyWait, machine := reaction.machine, events := seen.toList }
    | .ok next => runFrom next seen count reaction.machine

/-- Execute up to `count` instructions, until one fails or waits for a key press. -/
def runSteps (m : Machine) (count : Nat) : Reaction Flow := runFrom .ok #[] count m

/-- No steps do nothing. -/
theorem runSteps_zero (m : Machine) : m.runSteps 0 = { result := .ok .ok, machine := m } := rfl

/-- The events so far stay in front of those of further steps. -/
theorem runFrom_seen (flow : Flow) (seen : Array Event) (count : Nat) (m : Machine) :
    runFrom flow seen count m = (runFrom flow #[] count m).behind seen.toList := by
  induction count generalizing flow seen m with
  | zero => simp [runFrom, Reaction.behind]
  | succ count ih =>
    rw [runFrom, runFrom]
    split
    · simp [Reaction.behind]
    · simp [Reaction.behind]
    · next next _ _ =>
      rw [ih next (seen ++ m.step.events), ih next (#[] ++ m.step.events)]
      simp [Reaction.behind]

/-! ## Frames -/

/-- Count both timers down, stopping at zero. -/
def tickTimers (m : Machine) : Machine :=
  { m with
    delay := if m.delay = 0 then 0 else m.delay - 1
    sound := if m.sound = 0 then 0 else m.sound - 1 }

/-- The call that makes the tone follow the sound timer. -/
def toneCall (m : Machine) : Event :=
  if m.sound > 0 then .startTone m.config.toneFrequency else .stopTone

/-- End a frame: the timers count down unless the program waits for a key press, the tone follows
the sound timer, and the screen is presented. -/
def endFrame (m : Machine) : Machine × List Event :=
  let ticked := if m.isPaused then m else m.tickTimers
  ({ ticked with screen := ticked.screen.render }, [ticked.toneCall, .render])

/-- Execute the instructions of a frame, up to `count` more of them, given what happened so far. -/
def loopFrom (seen : Array Event) : Nat → Machine → Reaction Unit
  | 0, m => { result := .ok (), machine := m, events := seen.toList }
  | count + 1, m =>
    let reaction := m.step
    let seen := seen ++ reaction.events
    match reaction.result with
    | .error fault =>
      { result := .error fault, machine := reaction.machine, events := seen.toList }
    | .ok .keyWait => { result := .ok (), machine := reaction.machine, events := seen.toList }
    | .ok _ => loopFrom seen count reaction.machine

/-- The loop of a frame: it executes up to `count` instructions, until one fails or waits for a key
press. -/
def frameLoop (m : Machine) (count : Nat) : Reaction Unit := loopFrom #[] count m

/-- Run one frame. An instruction that fails leaves it at once. -/
def cycle (m : Machine) : Reaction Unit :=
  match m.fault with
  | some fault => { result := .error fault, machine := m }
  | none =>
    match m.frameLoop m.config.speed with
    | { result := .error fault, machine, events } => { result := .error fault, machine, events }
    | { result := .ok (), machine, events } =>
      let (machine, calls) := machine.endFrame
      { result := .ok (), machine, events := events ++ calls }

end ChipEight.Machine
