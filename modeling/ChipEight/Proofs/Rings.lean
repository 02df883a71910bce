/-
# The bell

The bell rings when a tone begins, and a tone that goes on rings no more. A stretch of the log tells
how the bell went from one state to another (`Bell.Tolls`): it says in turn that the tone is on and
that it is off, and the bell rang once for each tone that is on. A frame leaves the tone on exactly
if the sound timer runs after it (`Session.bell_of_ok`), and a fault leaves it off. So over a whole
run the bell counts the frames at which the sound timer begins to run
(`Outcome.rings_once_per_tone`).
-/
import ChipEight.CommandLine.Documents
import ChipEight.Proofs.Frame
import ChipEight.Proofs.Setting
import Mathlib.Data.List.DropRight

namespace ChipEight

open Log

/-! ## Two devices side by side -/

/-- The frequency at which an event starts the tone, if it does. -/
def Event.hertz? : Event → Option Nat
  | startTone hertz => some hertz
  | _ => none

/-- The last event is heard after the others. -/
theorem ToneDevice.hearAll_concat {δ : Type} [ToneDevice δ] (device : δ) (events : List Event)
    (event : Event) :
    (hearAll device (events ++ [event])).1 = (hear (hearAll device events).1 event).1 := by
  rw [hearAll_append, hearAll_cons, hearAll_nil]

/-- A buzzer that plays is not retuned by another start. -/
theorem Buzzer.playing_hear (b : Buzzer) (event : Event) :
    (ToneDevice.hear b event).1.playing =
      if event = .stopTone then none else b.playing.or event.hertz? := by
  cases event with
  | startTone hertz =>
    rw [if_neg nofun]
    show (b.start hertz).1.playing = _
    rw [b.playing_start]
    cases b.playing <;> rfl
  | stopTone => exact b.playing_stop
  | _ =>
    rw [if_neg nofun]
    exact (Option.or_none).symm

/-- A buzzer plays the first tone that was started since the tone was last stopped. -/
theorem Buzzer.playing_hearAll (calls : List Event) :
    (ToneDevice.hearAll ({} : Buzzer) calls).1.playing =
      (calls.rtakeWhile (· ≠ .stopTone)).findSome? Event.hertz? := by
  induction calls using List.reverseRecOn with
  | nil => rfl
  | append_singleton calls event ih =>
    rw [ToneDevice.hearAll_concat, playing_hear, ih]
    split
    next hstop =>
      subst hstop
      rw [List.rtakeWhile_concat_neg _ _ _ (by simp)]
      rfl
    next hgoes =>
      rw [List.rtakeWhile_concat_pos _ _ _ (by simp [hgoes]), List.findSome?_append,
        List.findSome?_singleton]

/-- A bell that plays goes on when the tone is started again. -/
theorem Bell.playing_hear (b : Bell) (event : Event) :
    (ToneDevice.hear b event).1.playing =
      if event = .stopTone then false else (b.playing || event.hertz?.isSome) := by
  cases event with
  | startTone hertz =>
    rw [if_neg nofun]
    show (b.start hertz).1.playing = (b.playing || true)
    unfold start
    by_cases h : b.playing <;> simp [h]
  | stopTone =>
    show b.stop.1.playing = false
    unfold stop
    by_cases h : b.playing <;> simp [h]
  | _ =>
    rw [if_neg nofun]
    exact (Bool.or_false _).symm

/-- A bell plays whenever a buzzer does that gets the same calls. -/
theorem Bell.playing_hearAll (calls : List Event) :
    (ToneDevice.hearAll ({} : Bell) calls).1.playing =
      (ToneDevice.hearAll ({} : Buzzer) calls).1.playing.isSome := by
  induction calls using List.reverseRecOn with
  | nil => rfl
  | append_singleton calls event ih =>
    rw [ToneDevice.hearAll_concat, ToneDevice.hearAll_concat, playing_hear, Buzzer.playing_hear, ih]
    split
    · rfl
    · rw [Option.isSome_or]

/-! ## What the log tells about the tone -/

/-- Whether an entry says that the tone is on or that it is off, if it says either. -/
def Log.Entry.tone? (e : Entry) : Option Bool :=
  if e.level = .info then
    if "tone on".toList <+: e.message.toList then some true
    else if "tone off".toList <+: e.message.toList then some false
    else none
  else none

/-- What a log tells about the tone, one thing after the other. -/
def Log.tones (log : List Entry) : List Bool := log.filterMap Entry.tone?

/-- What two logs tell about the tone, one after the other. -/
theorem Log.tones_append (first second : List Entry) :
    tones (first ++ second) = tones first ++ tones second := List.filterMap_append

/-- Only information is about the tone. -/
theorem Log.tones_eq_nil {log : List Entry} (h : ∀ entry ∈ log, entry.level ≠ .info) :
    tones log = [] := by
  unfold tones
  rw [List.filterMap_eq_nil_iff]
  intro entry hentry
  rw [Entry.tone?, if_neg (h entry hentry)]

/-- Tones that go on and off in turn lead from one state to another. -/
inductive Alternates : Bool → List Bool → Bool → Prop
  /-- Nothing changes. -/
  | nil (on : Bool) : Alternates on [] on
  /-- The state changes before others. -/
  | cons {on last : Bool} {tones : List Bool} (h : Alternates (!on) tones last) :
      Alternates on ((!on) :: tones) last

/-- Tones that lead on. -/
theorem Alternates.append {first second : List Bool} {on mid last : Bool}
    (h : Alternates on first mid) (h' : Alternates mid second last) :
    Alternates on (first ++ second) last := by
  induction h with
  | nil on => exact h'
  | cons _ ih => exact .cons (ih h')

/-- The tones of even number are like the first one, and the others unlike it. -/
theorem Alternates.getElem?_eq {tones : List Bool} {on last : Bool} (h : Alternates on tones last)
    {i : Nat} {tone : Bool} (hi : tones[i]? = some tone) : tone = (on ^^ decide (i % 2 = 0)) := by
  induction h generalizing i with
  | nil on => cases hi
  | @cons on last tones _ ih =>
    rcases i with _ | i
    · cases hi
      simp
    · have hrest := ih hi
      rcases Nat.mod_two_eq_zero_or_one i with heven | hodd
      · have hsucc : (i + 1) % 2 ≠ 0 := by omega
        simp [hrest, heven, hsucc]
      · have hsucc : (i + 1) % 2 = 0 := by omega
        simp [hrest, hodd, hsucc]

/-- A tone that is on at the end was switched on once more than off. -/
theorem Alternates.count_true {tones : List Bool} {on last : Bool} (h : Alternates on tones last) :
    tones.count true + (if on then 1 else 0) = tones.count false + if last then 1 else 0 := by
  induction h with
  | nil on => rfl
  | @cons on last tones _ ih =>
    rw [List.count_cons, List.count_cons]
    cases on <;> simp at ih ⊢ <;> omega

/-! ## What the bell logs -/

/-- A log tells how the bell went from one state to another. -/
structure Bell.Tolls (b : Bell) (log : List Entry) (b' : Bell) : Prop where
  /-- The tone is on and off in turn. -/
  alternates : Alternates b.playing (tones log) b'.playing
  /-- The bell rings whenever the tone goes on. -/
  rings : b'.rings = b.rings + (tones log).count true

namespace Bell

variable {b b' b'' : Bell} {log log' : List Entry}

/-- Where the log is about no tone, the bell goes on as it is. -/
theorem Tolls.of_tones (h : tones log = []) : b.Tolls log b where
  alternates := by
    rw [h]
    exact .nil _
  rings := by
    rw [h]
    rfl

/-- A log without information is about no tone. -/
theorem Tolls.of_level (h : ∀ entry ∈ log, entry.level ≠ .info) : b.Tolls log b :=
  .of_tones (tones_eq_nil h)

/-- One stretch of the log after the other. -/
theorem Tolls.trans (h : b.Tolls log b') (h' : b'.Tolls log' b'') : b.Tolls (log ++ log') b'' where
  alternates := by
    rw [tones_append]
    exact h.alternates.append h'.alternates
  rings := by
    rw [tones_append, List.count_append, h'.rings, h.rings, Nat.add_assoc]

/-- What the bell says when the tone goes on. -/
theorem tone?_on (hertz : Nat) :
    Entry.tone? ⟨.info, "tone on at " ++ hertz.repr ++ "Hz"⟩ = some true := by
  have hstarts : "tone on".toList <+: ("tone on at " ++ hertz.repr ++ "Hz").toList := by
    rw [String.toList_append, String.toList_append, List.append_assoc]
    exact ⟨" at ".toList ++ (hertz.repr.toList ++ "Hz".toList), rfl⟩
  rw [Entry.tone?, if_pos rfl, if_pos hstarts]

/-- What the bell says when the tone goes off. -/
theorem tone?_off : Entry.tone? ⟨.info, "tone off"⟩ = some false := by decide

/-- The bell rings when the tone is switched on, if it was off. -/
theorem tolls_start (b : Bell) (hertz : Nat) : b.Tolls (b.start hertz).2 (b.start hertz).1 := by
  unfold start
  rcases hb : b.playing with _ | _
  · have htones : tones [⟨.info, "tone on at " ++ hertz.repr ++ "Hz"⟩] = [true] := by
      rw [tones, List.filterMap_cons_some (tone?_on hertz), List.filterMap_nil]
    constructor
    · show Alternates b.playing (tones [⟨.info, "tone on at " ++ hertz.repr ++ "Hz"⟩]) true
      rw [htones, hb]
      exact .cons (.nil true)
    · show b.rings + 1 = b.rings +
        (tones [⟨.info, "tone on at " ++ hertz.repr ++ "Hz"⟩]).count true
      rw [htones]
      rfl
  · exact Tolls.of_level (List.forall_mem_nil _)

/-- The bell does not ring when the tone is switched off. -/
theorem tolls_stop (b : Bell) : b.Tolls b.stop.2 b.stop.1 := by
  unfold stop
  rcases hb : b.playing with _ | _
  · exact Tolls.of_level (List.forall_mem_nil _)
  · have htones : tones [⟨.info, "tone off"⟩] = [false] := by
      rw [tones, List.filterMap_cons_some tone?_off, List.filterMap_nil]
    constructor
    · show Alternates b.playing (tones [⟨.info, "tone off"⟩]) false
      rw [htones, hb]
      exact .cons (.nil false)
    · show b.rings = b.rings + (tones [⟨.info, "tone off"⟩]).count true
      rw [htones]
      rfl

/-- What is logged about an event tells what the bell made of it. -/
theorem tolls_hear (b : Bell) (event : Event) :
    b.Tolls (ToneDevice.hear b event).2 (ToneDevice.hear b event).1 := by
  have hother : ∀ entry ∈ event.entry?.toList, entry.level ≠ .info := by
    intro entry hentry
    exact (event.level_entry? (Option.mem_toList.1 hentry)).1
  cases event with
  | startTone hertz => exact b.tolls_start hertz
  | stopTone => exact b.tolls_stop
  | _ => exact Tolls.of_level hother

/-- What is logged about events tells what the bell made of them. -/
theorem tolls_hearAll (b : Bell) (events : List Event) :
    b.Tolls (ToneDevice.hearAll b events).2 (ToneDevice.hearAll b events).1 := by
  induction events generalizing b with
  | nil => exact Tolls.of_level (List.forall_mem_nil _)
  | cons event events ih =>
    rw [ToneDevice.hearAll_cons]
    exact (b.tolls_hear event).trans (ih _)

end Bell

namespace CommandLine

namespace Session

variable {s : Session}

/-! ## The bell in a session -/

/-- The log of a frame tells what the bell made of it. -/
theorem tolls_frame (s : Session) : s.bell.Tolls s.frame.log s.frame.session.bell := by
  obtain ⟨events, htyping⟩ := s.typeNext_log
  obtain ⟨more, hlog, hmore⟩ := s.frame_log
  have htyped : s.bell.Tolls s.typeNext.log s.bell := by
    apply Bell.Tolls.of_level
    rw [htyping]
    intro entry hentry
    rcases List.mem_append.1 hentry with h | h
    · obtain ⟨c, -, rfl⟩ := List.mem_map.1 h
      exact nofun
    · obtain ⟨event, -, hevent⟩ := List.mem_filterMap.1 h
      exact (event.level_entry? hevent).1
  have hheld : s.bell.Tolls (heldEntries s.ready) s.bell := by
    apply Bell.Tolls.of_level
    intro entry hentry
    rw [level_heldEntries hentry]
    exact nofun
  have hregisters : s.heard.1.Tolls more s.heard.1 := by
    apply Bell.Tolls.of_level
    intro entry hentry
    rw [hmore entry hentry]
    exact nofun
  rw [hlog, frame_session]
  exact ((htyped.trans hheld).trans (s.bell.tolls_hearAll _)).trans hregisters

/-- The log of the first frames tells what the bell made of them. -/
theorem tolls_frames (s : Session) (count : Nat) :
    s.bell.Tolls ((List.range count).flatMap fun i => (s.before i).frame.log)
      (s.before count).bell := by
  induction count with
  | zero => exact Bell.Tolls.of_level (List.forall_mem_nil _)
  | succ count ih =>
    rw [List.range_succ, List.flatMap_append, List.flatMap_singleton]
    exact ih.trans (s.before count).tolls_frame

/-- At the end of a frame the bell is started or stopped as the sound timer says. -/
theorem bell_of_ok (h : s.frame.failure = none) :
    s.frame.session.bell.playing = decide (0 < s.frame.session.machine.sound) ∧
      s.frame.session.bell.rings = s.bell.rings +
        if 0 < s.frame.session.machine.sound ∧ ¬ s.bell.playing then 1 else 0 := by
  have hok := failure_eq_none_iff.1 h
  have hsignals : s.ready.cycle.events.filter Event.isSignal =
      s.ready.cycle.machine.frameSignals := by
    have hends : s.ready.endsFrame .cycle := hok
    rw [Machine.signals_cycle, if_pos hends,
      Machine.raised_of_fault_eq_none (Machine.cycle_of_isOk hok).1]
    rfl
  have hbell : s.frame.session.bell =
      if 0 < s.frame.session.machine.sound then
        (s.bell.start s.frame.session.machine.config.toneFrequency).1
      else
        s.bell.stop.1 := by
    rw [frame_session]
    show (ToneDevice.hearAll s.bell s.ready.cycle.events).1 =
      if 0 < s.ready.cycle.machine.sound then
        (s.bell.start s.ready.cycle.machine.config.toneFrequency).1
      else
        s.bell.stop.1
    rw [← ToneDevice.hearAll_filter, hsignals, ToneDevice.hearAll_frameSignals]
    split <;> rfl
  rw [hbell]
  split
  next hsound =>
    unfold Bell.start
    by_cases hplaying : s.bell.playing <;> simp [hplaying, hsound]
  next hsound =>
    unfold Bell.stop
    by_cases hplaying : s.bell.playing <;> simp [hplaying, hsound]

/-- A fault stops the bell. -/
theorem bell_of_failure (hf : s.machine.fault = none) {failure : Failure}
    (h : s.frame.failure = some failure) :
    s.frame.session.bell.playing = false ∧ s.frame.session.bell.rings = s.bell.rings := by
  have hhalted : ¬ s.ready.isHalted := by
    rw [Machine.isHalted, fault_ready, hf]
    exact nofun
  have hsignals := Machine.signals_of_cycle_error hhalted (failure_eq_some_iff.1 h)
  have hbell : s.frame.session.bell = s.bell.stop.1 := by
    rw [frame_session]
    show (ToneDevice.hearAll s.bell s.ready.cycle.events).1 = s.bell.stop.1
    rw [← ToneDevice.hearAll_filter, hsignals]
    rfl
  rw [hbell]
  unfold Bell.stop
  by_cases hplaying : s.bell.playing <;> simp [hplaying]

/-- Whether the sound timer runs after frame `i` and did not run before it. -/
def Sets (s : Session) (i : Nat) : Prop :=
  0 < (s.before (i + 1)).machine.sound ∧ (i = 0 ∨ (s.before i).machine.sound = 0)

instance (s : Session) (i : Nat) : Decidable (s.Sets i) :=
  inferInstanceAs (Decidable (_ ∧ _))

/-- While all frames succeed, the bell plays if the sound timer runs after the last one, and it has
rung whenever the timer began to run. -/
theorem bell_before (hbell : s.bell = {}) {count : Nat}
    (hok : ∀ i < count, (s.before i).frame.failure = none) :
    (s.before count).bell.playing =
        decide (count ≠ 0 ∧ 0 < (s.before count).machine.sound) ∧
      (s.before count).bell.rings = (List.range count).countP (s.Sets ·) := by
  induction count with
  | zero =>
    show s.bell.playing = _ ∧ s.bell.rings = _
    rw [hbell]
    exact ⟨rfl, rfl⟩
  | succ count ih =>
    obtain ⟨hplaying, hrings⟩ := ih fun i hi => hok i (Nat.lt_succ_of_lt hi)
    obtain ⟨hplaying', hrings'⟩ := bell_of_ok (hok count (Nat.lt_succ_self count))
    -- the bell is silent before a frame exactly if the timer did not run after the last one
    have hsets : s.Sets count ↔ 0 < (s.before count).frame.session.machine.sound ∧
        ¬ (s.before count).bell.playing := by
      rw [hplaying, Sets, decide_eq_true_iff]
      apply and_congr_right
      intro _
      have hzero : (s.before count).machine.sound = 0 ↔ ¬ 0 < (s.before count).machine.sound := by
        rw [UInt8.lt_iff_toNat_lt, ← UInt8.toNat_inj, UInt8.toNat_zero]
        omega
      rw [not_and_or, not_not, hzero]
    constructor
    · rw [before, hplaying']
      simp
    · rw [before, hrings', hrings, List.range_succ, List.countP_append, List.countP_singleton]
      simp [hsets]

/-- While all frames succeed, no fault halts the machine. -/
theorem fault_before (hf : s.machine.fault = none) {count : Nat}
    (hok : ∀ i < count, (s.before i).frame.failure = none) :
    (s.before count).machine.fault = none := by
  rcases count with _ | count
  · exact hf
  · rw [before, frame_session]
    exact (Machine.cycle_of_isOk (failure_eq_none_iff.1 (hok count (Nat.lt_succ_self count)))).1

/-! ## The bell in a whole run -/

/-- The sound timers after the frames that succeed. -/
def soundTimers (frames : List Frame) : List UInt8 :=
  (frames.filter (·.failure.isNone)).map (·.session.machine.sound)

/-- The sound timers after frames that all succeed. -/
theorem soundTimers_of_ok {count : Nat} (hok : ∀ i < count, (s.before i).frame.failure = none) :
    soundTimers ((List.range count).map fun i => (s.before i).frame) =
      (List.range count).map fun i => (s.before (i + 1)).machine.sound := by
  have hall : ((List.range count).map fun i => (s.before i).frame).filter (·.failure.isNone) =
      (List.range count).map fun i => (s.before i).frame := by
    rw [List.filter_eq_self]
    intro frame hframe
    obtain ⟨i, hi, rfl⟩ := List.mem_map.1 hframe
    rw [hok i (List.mem_range.1 hi)]
    rfl
  rw [soundTimers, hall, List.map_map]
  rfl

/-- A frame that fails leaves no sound timer behind. -/
theorem soundTimers_concat (frames : List Frame) {frame : Frame} {failure : Failure}
    (h : frame.failure = some failure) : soundTimers (frames ++ [frame]) = soundTimers frames := by
  rw [soundTimers, List.filter_append, List.filter_cons_of_neg (by simp [h]), List.filter_nil,
    List.append_nil]
  rfl

/-- How often a sound timer begins to run. -/
def countSets (timers : List UInt8) : Nat :=
  (List.range timers.length).countP fun i =>
    0 < timers.getD i 0 ∧ (i = 0 ∨ timers.getD (i - 1) 0 = 0)

/-- The sound timer begins to run as often in the list of the timers as in the session. -/
theorem countSets_map (s : Session) (count : Nat) :
    countSets ((List.range count).map fun i => (s.before (i + 1)).machine.sound) =
      (List.range count).countP (s.Sets ·) := by
  rw [countSets, List.length_map, List.length_range]
  apply List.countP_congr
  intro i hi
  have hlt : i < count := List.mem_range.1 hi
  rcases i with _ | i
  · simp [hlt, Sets]
  · have hlt' : i < count := by omega
    simp [hlt, hlt', Sets]

end Session

namespace Outcome

open Session

/-- An entry that does not begin like one about the tone is about none. -/
theorem tone?_of_head? {e : Entry} (h : e.message.toList.head? ≠ some 't') : e.tone? = none := by
  have hstarts : ∀ word : List Char, word.head? = some 't' → ¬ word <+: e.message.toList := by
    rintro (_ | ⟨c, word⟩) hword ⟨rest, hrest⟩
    · cases hword
    · rw [← hrest] at h
      exact h hword
  unfold Entry.tone?
  rw [if_neg (hstarts _ rfl), if_neg (hstarts _ rfl), ite_self]

/-- What is logged in the end is not about the tone. -/
theorem tones_closingLog (m : Machine) (total : Nat) : tones (closingLog m total none) = [] := by
  have hran : Entry.tone? ⟨.info, "ran " ++ total.repr ++ " frames" ++ ""⟩ = none := by
    apply tone?_of_head?
    rw [String.toList_append, String.toList_append, String.toList_append]
    exact nofun
  have hwaits : Entry.tone? ⟨.info, "program is waiting for a key press"⟩ = none :=
    tone?_of_head? nofun
  unfold closingLog tones
  dsimp only
  rw [List.filterMap_cons_none hran]
  split
  · rw [List.filterMap_cons_none hwaits, List.filterMap_nil]
  · rfl

/-- How often the bell rang, and what the log tells about it. -/
structure Rung (o : Outcome) (frames : List Frame) : Prop where
  /-- The bell rings whenever a sound timer begins to run. -/
  rings_eq : o.rings = countSets (soundTimers frames)
  /-- The log tells how the bell came to ring so often, and a fault stopped it. -/
  tolls : ∃ b : Bell, ({} : Bell).Tolls o.log b ∧ b.rings = o.rings ∧
    ((∃ frame ∈ frames, frame.failure ≠ none) → b.playing = false)

/-- A run that comes to no frame does not ring the bell. -/
theorem rung_of_level {o : Outcome} (hrings : o.rings = 0)
    (h : ∀ entry ∈ o.log, entry.level ≠ .info) : o.Rung [] where
  rings_eq := hrings
  tolls := by
    refine ⟨{}, Bell.Tolls.of_level h, hrings.symm, ?_⟩
    rintro ⟨frame, hframe, -⟩
    cases hframe

/-- The frames of a session ring the bell. -/
theorem rung_ofFrames {s : Session} (hbell : s.bell = {}) (hf : s.machine.fault = none)
    (count total : Nat) {told : List Entry} (htold : ∀ entry ∈ told, entry.level = .debug) :
    (ofFrames total count s told.toArray).Rung (s.frames count) := by
  have htolls : ∀ i, ({} : Bell).Tolls
      (told ++ (List.range i).flatMap fun i => (s.before i).frame.log) (s.before i).bell := by
    intro i
    have hlevel : ∀ entry ∈ told, entry.level ≠ .info := by
      intro entry hentry
      rw [htold entry hentry]
      exact nofun
    have hframes := s.tolls_frames i
    rw [hbell] at hframes
    exact (Bell.Tolls.of_level hlevel).trans hframes
  rcases s.course count with ⟨hok, hframes⟩ | ⟨last, failure, hlast, hok, hfails, hframes⟩
  · rw [ofFrames_of_ok hok, hframes, List.flatMap_map]
    constructor
    · rw [soundTimers_of_ok hok, countSets_map]
      exact (bell_before hbell hok).2
    · refine ⟨_, (htolls count).trans (.of_tones (tones_closingLog _ _)), rfl, ?_⟩
      rintro ⟨frame, hframe, hfails⟩
      obtain ⟨i, hi, rfl⟩ := List.mem_map.1 hframe
      exact absurd (hok i (List.mem_range.1 hi)) hfails
  · -- the frame that fails rings no bell, and its timer does not count
    obtain ⟨hplaying, hrings⟩ := bell_of_failure (fault_before hf hok) hfails
    rw [ofFrames_of_failure hlast hok hfails, hframes, List.flatMap_map]
    constructor
    · rw [List.range_succ, List.map_append, List.map_singleton, soundTimers_concat _ hfails,
        soundTimers_of_ok hok, countSets_map]
      exact hrings.trans (bell_before hbell hok).2
    · refine ⟨_, (htolls (last + 1)).trans (.of_level ?_), rfl, fun _ => hplaying⟩
      intro entry hentry
      rw [List.mem_singleton.1 hentry]
      exact nofun

/-- Every run rings the bell like that. -/
theorem rung (parsers : Parsers) (system : System) (arguments : List String) :
    (ofArguments parsers system arguments).Rung (framesRun parsers system arguments) := by
  rcases hparse : Options.parse arguments with r | options
  · obtain ⟨houtcome, hframes⟩ := of_rejection hparse parsers system
    rw [houtcome, hframes]
    apply rung_of_level rfl
    intro entry hentry
    cases r with
    | malformed => cases hentry
    | unknownOption argument =>
      rw [List.mem_singleton.1 hentry]
      exact nofun
  · -- a session that breaks down logs debug entries and its error, if it is one
    have hbreakdown : ∀ breakdown,
        (Session.start parsers system options).Gives (.error breakdown) →
          (ofArguments parsers system arguments).Rung (framesRun parsers system arguments) := by
      intro breakdown hstart
      obtain ⟨told, houtcome, hframes, htold⟩ := of_breakdown hparse hstart
      rw [houtcome, hframes]
      have hlevel : ∀ entry ∈ told, entry.level ≠ .info := by
        intro entry hentry
        rw [htold entry hentry]
        exact nofun
      cases breakdown with
      | error error =>
        apply rung_of_level rfl
        intro entry hentry
        rcases List.mem_append.1 hentry with h | h
        · exact hlevel entry h
        · rw [List.mem_singleton.1 h]
          exact nofun
      | shortage shortage => exact rung_of_level rfl hlevel
    rcases hread : Setting.read parsers system.files options with error | g
    · exact hbreakdown _ (start_of_unreadable hread)
    · have hstart := start_of_setting hread
      rcases hbegin : g.begin system options.keys with breakdown | s
      · rw [hbegin] at hstart
        exact hbreakdown breakdown hstart
      · rw [hbegin] at hstart
        obtain ⟨told, houtcome, hframes, htold⟩ := of_session hparse hstart
        obtain rfl := Setting.eq_session_of_begin hbegin
        rw [houtcome, hframes]
        exact rung_ofFrames rfl (g.fault_machine system.entropy) _ _ htold

/-- Bells ring once per tone. In every run of the command line the bell rings as often as the sound
timer runs after a frame that succeeds and did not run before it; the log says in turn that the tone
is on and that it is off, beginning with on, as often on as the bell rings, and equally often off if
a frame fails. And whatever calls they get, a bell and a buzzer play at the same times, the buzzer
at the frequency of the first start since the last stop. -/
theorem rings_once_per_tone (parsers : Parsers) (system : System) (arguments : List String) :
    let outcome := ofArguments parsers system arguments
    let frames := framesRun parsers system arguments
    let timers := (frames.filter (·.failure.isNone)).map (·.session.machine.sound)
    outcome.rings = (List.range timers.length).countP (fun i =>
      0 < timers.getD i 0 ∧ (i = 0 ∨ timers.getD (i - 1) 0 = 0)) ∧
    (∀ i on, (tones outcome.log)[i]? = some on → (on = true ↔ i % 2 = 0)) ∧
    (tones outcome.log).count true = outcome.rings ∧
    ((∃ frame ∈ frames, frame.failure ≠ none) →
      (tones outcome.log).count false = (tones outcome.log).count true) ∧
    ∀ calls : List Event,
      let buzzer := (ToneDevice.hearAll ({} : Buzzer) calls).1
      (ToneDevice.hearAll ({} : Bell) calls).1.playing = buzzer.playing.isSome ∧
        buzzer.playing = (calls.rtakeWhile (· ≠ .stopTone)).findSome? Event.hertz? := by
  intro outcome frames timers
  obtain ⟨hrings, b, htolls, hb, hfailed⟩ := rung parsers system arguments
  have hcount := htolls.alternates.count_true
  refine ⟨hrings, ?_, ?_, ?_, ?_⟩
  · intro i on hi
    rw [htolls.alternates.getElem?_eq hi]
    simp
  · have hb' := htolls.rings
    rw [hb] at hb'
    exact (hb'.trans (Nat.zero_add _)).symm
  · intro hfails
    rw [hfailed hfails] at hcount
    exact hcount.symm
  · intro calls
    exact ⟨Bell.playing_hearAll calls, Buzzer.playing_hearAll calls⟩

/-- A tone, silence, another tone, and then a return without a call: the bell rings twice, and the
log says twice that the tone is on and twice that it is off. -/
theorem rings_once_per_tone_fault :
    let system : System := {
      files := fun path =>
        if path = "beep" then
          .ok (.file [0x60, 0x02, 0xF0, 0x18, 0x61, 0x00, 0x61, 0x00, 0xF0, 0x18, 0x61, 0x00, 0x00,
            0xEE])
        else
          .error .notFound
      entropy := Random.expandSeed 0
      grants := fun _ => true }
    let arguments := ["run", "beep", "--speed", "2"]
    let outcome := ofArguments .yaml system arguments
    (∃ frame ∈ framesRun .yaml system arguments, frame.failure ≠ none) ∧
      soundTimers (framesRun .yaml system arguments) = [1, 0, 1] ∧ outcome.rings = 2 ∧
      (tones outcome.log).count true = 2 ∧ (tones outcome.log).count false = 2 := by
  intro system arguments outcome
  have hfails : ∃ frame ∈ framesRun .yaml system arguments, frame.failure ≠ none := by
    decide +kernel
  have hrings : outcome.rings = 2 := by decide +kernel
  obtain ⟨-, -, hon, hoff, -⟩ := rings_once_per_tone .yaml system arguments
  refine ⟨hfails, by decide +kernel, hrings, hon.trans hrings, ?_⟩
  exact (hoff hfails).trans (hon.trans hrings)

end Outcome

end CommandLine

end ChipEight
