/-
# Tone devices

A tone device plays a single tone or is silent. Two of them follow the calls of a machine: the
buzzer keeps the frequency that it plays, and the bell rings once whenever a tone begins.
-/
import ChipEight.Machine.Event

namespace ChipEight

/-- A device that can be told to start and to stop a tone. Both do nothing if the device is in that
state already. -/
class ToneDevice (δ : Type) where
  /-- Start playing at a frequency. -/
  start : δ → Nat → δ × List Log.Entry
  /-- Stop playing. -/
  stop : δ → δ × List Log.Entry

namespace ToneDevice

variable {δ : Type} [ToneDevice δ]

/-- What an event does to a tone device, and what is logged about the event. -/
def hear (device : δ) : Event → δ × List Log.Entry
  | .startTone hertz => start device hertz
  | .stopTone => stop device
  | event => (device, event.entry?.toList)

/-- What further events do to a tone device, given the log so far. -/
def hearFrom (log : Array Log.Entry) (device : δ) : List Event → δ × Array Log.Entry
  | [] => (device, log)
  | event :: events =>
    hearFrom (log ++ (hear device event).2) (hear device event).1 events

/-- What a sequence of events does to a tone device, and the log of it. -/
def hearAll (device : δ) (events : List Event) : δ × List Log.Entry :=
  let (device, log) := hearFrom #[] device events
  (device, log.toList)

/-- The log so far stays in front of what is logged about further events. -/
theorem hearFrom_eq (log : Array Log.Entry) (device : δ) (events : List Event) :
    hearFrom log device events =
      ((hearFrom #[] device events).1, log ++ (hearFrom #[] device events).2) := by
  induction events generalizing log device with
  | nil => simp [hearFrom]
  | cons event events ih =>
    rw [hearFrom, hearFrom, ih (log ++ (hear device event).2), ih (#[] ++ (hear device event).2)]
    congr 1
    apply Array.toList_inj.1
    simp

/-- No events change nothing. -/
theorem hearAll_nil (device : δ) : hearAll device [] = (device, []) := rfl

/-- The first event is heard before the others. -/
theorem hearAll_cons (device : δ) (event : Event) (events : List Event) :
    hearAll device (event :: events) =
      ((hearAll (hear device event).1 events).1,
        (hear device event).2 ++ (hearAll (hear device event).1 events).2) := by
  unfold hearAll
  rw [hearFrom, hearFrom_eq]
  simp

end ToneDevice

/-- A silent device that knows what it would be playing. -/
structure Buzzer where
  /-- The frequency that is playing. -/
  playing : Option Nat := none
  deriving DecidableEq, Repr

namespace Buzzer

/-- Start playing; a tone that plays already goes on as it is. -/
def start (b : Buzzer) (hertz : Nat) : Buzzer × List Log.Entry :=
  match b.playing with
  | some _ => (b, [])
  | none => (⟨some hertz⟩, [⟨.debug, "buzzer on at " ++ hertz.repr ++ "Hz"⟩])

/-- Stop playing. -/
def stop (b : Buzzer) : Buzzer × List Log.Entry :=
  match b.playing with
  | some _ => (⟨none⟩, [⟨.debug, "buzzer off"⟩])
  | none => (b, [])

instance : ToneDevice Buzzer where
  start := start
  stop := stop

end Buzzer

/-- The bell of a terminal, which rings when a tone begins. -/
structure Bell where
  /-- Whether a tone is playing. -/
  playing : Bool := false
  /-- How often the bell has rung. -/
  rings : Nat := 0
  deriving DecidableEq, Repr

namespace Bell

/-- Start a tone, which rings the bell once. -/
def start (b : Bell) (hertz : Nat) : Bell × List Log.Entry :=
  if b.playing then
    (b, [])
  else
    (⟨true, b.rings + 1⟩, [⟨.info, "tone on at " ++ hertz.repr ++ "Hz"⟩])

/-- End the tone. -/
def stop (b : Bell) : Bell × List Log.Entry :=
  if b.playing then
    ({ b with playing := false }, [⟨.info, "tone off"⟩])
  else
    (b, [])

instance : ToneDevice Bell where
  start := start
  stop := stop

end Bell

end ChipEight
