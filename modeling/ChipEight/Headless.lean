/-
# A machine without a host

A machine together with a buzzer that follows its tone calls.
-/
import ChipEight.Machine.Action
import ChipEight.Tone

namespace ChipEight

/-- A machine and its buzzer. -/
structure Headless where
  /-- The machine. -/
  machine : Machine
  /-- The buzzer. -/
  buzzer : Buzzer := {}

/-- What an action leaves behind. -/
structure Headless.Report where
  /-- The answer, or why the action failed. -/
  result : Except Failure Answer
  /-- The machine and its buzzer afterwards. -/
  after : Headless
  /-- The device calls and notices. -/
  events : List Event
  /-- The log of the machine and of the buzzer. -/
  log : List Log.Entry

namespace Headless

/-- A machine that was just switched on, and a silent buzzer. -/
def new (config : Config) (generator : Random.Generator) : Headless :=
  { machine := .new config generator }

/-- Switch a machine on, if there is memory for it. -/
def switchOn (system : System) (config : Config) : Except Shortage Headless := do
  return { machine := ← Machine.switchOn system config }

/-- Perform an action. -/
def perform (h : Headless) (a : Action) : Report :=
  let reaction := h.machine.perform a
  let (buzzer, log) := ToneDevice.hearAll h.buzzer reaction.events
  { result := reaction.result
    after := { machine := reaction.machine, buzzer }
    events := reaction.events
    log }

/-- Run frames, up to a number of them, until one fails. -/
def cycles : Nat → Headless → Except Failure Unit × Headless
  | 0, h => (.ok (), h)
  | count + 1, h =>
    let report := h.perform .cycle
    match report.result with
    | .error failure => (.error failure, report.after)
    | .ok _ => cycles count report.after

end Headless

end ChipEight
