/-
# The course of a session

A session runs frame after frame, until one fails or all have been run. `Session.before` is the
session before a frame, and `Session.frames` lists the frames that are run: each of them but the
last one succeeds (`Session.course`). What the command line leaves behind can be told from these
frames (`Outcome.ofFrames_of_ok`, `Outcome.ofFrames_of_failure`).
-/
import ChipEight.CommandLine.Outcome

namespace ChipEight

/-- What is logged about an event is no information for the user and no warning. -/
theorem Event.level_entry? {event : Event} {entry : Log.Entry} (h : event.entry? = some entry) :
    entry.level ≠ .info ∧ entry.level ≠ .warn := by
  cases event with
  | setPixel | clearScreen | render | isKeyDown | awaitKey | takeKey | startTone | stopTone =>
    cases h
  | loaded | executing | waiting | resumed | delivered | halted =>
    cases h
    exact ⟨nofun, nofun⟩

namespace CommandLine

namespace Session

/-! ## One frame -/

/-- The machine that runs the next frame: the key of the last frame is released, and the next one is
pressed. -/
def ready (s : Session) : Machine := s.typeNext.session.machine

/-- Typing leaves the bell and the key map alone. -/
theorem typeNext_frame (s : Session) :
    s.typeNext.session.bell = s.bell ∧ s.typeNext.session.keymap = s.keymap := by
  unfold typeNext
  dsimp only
  split <;> exact ⟨rfl, rfl⟩

/-- Typing neither halts a machine nor sets it free. -/
theorem fault_ready (s : Session) : s.ready.fault = s.machine.fault := by
  unfold ready typeNext
  rcases nextKey s.keymap s.typed with ⟨_ | key, skipped, rest⟩
  · cases s.held <;> rfl
  · cases s.held <;> rfl

/-- While a key is typed, the characters that are passed over are logged, and what the machine makes
of the key. -/
theorem typeNext_log (s : Session) :
    ∃ events : List Event, s.typeNext.log =
      (nextKey s.keymap s.typed).2.1.map unmapped ++ events.filterMap Event.entry? := by
  unfold typeNext
  rcases nextKey s.keymap s.typed with ⟨_ | key, skipped, rest⟩
  · exact ⟨[], (List.append_nil _).symm⟩
  · exact ⟨_, rfl⟩

/-- The keys that are held down are logged for debugging. -/
theorem level_heldEntries {m : Machine} {entry : Log.Entry} (h : entry ∈ heldEntries m) :
    entry.level = .debug := by
  unfold heldEntries at h
  dsimp only at h
  split at h
  · cases h
  · rw [List.mem_singleton.1 h]

/-- What the bell and the log make of a frame. -/
def heard (s : Session) : Bell × List Log.Entry :=
  ToneDevice.hearAll s.bell s.ready.cycle.events

/-- The session after its next frame. -/
def played (s : Session) : Session :=
  { s.typeNext.session with machine := s.ready.cycle.machine, bell := s.heard.1 }

/-- What is logged in a frame before the registers of a halted machine are. -/
def told (s : Session) : List Log.Entry := s.typeNext.log ++ heldEntries s.ready ++ s.heard.2

/-- A frame whose cycle succeeds. -/
theorem frame_of_ok {s : Session} {done : Unit} (h : s.ready.cycle.result = .ok done) :
    s.frame =
      { failure := none, session := s.played, calls := s.typeNext.calls, log := s.told } := by
  unfold ready at h
  simp only [frame, h, (typeNext_frame s).1, played, told, heard, ready]

/-- A frame whose cycle fails. -/
theorem frame_of_error {s : Session} {failure : Failure}
    (h : s.ready.cycle.result = .error failure) :
    s.frame =
      { failure := some failure
        session := s.played
        calls := s.typeNext.calls
        log := s.told ++ if failure.isFault then [registersEntry s.played.machine] else [] } := by
  unfold ready at h
  simp only [frame, h, (typeNext_frame s).1, played, told, heard, ready]
  split <;> simp

/-- Behind what is told in any case, a frame may log the registers of a halted machine. -/
theorem frame_log (s : Session) :
    ∃ more, s.frame.log = s.told ++ more ∧
      ∀ entry ∈ more, entry = registersEntry s.played.machine := by
  rcases h : s.ready.cycle.result with failure | done
  · rw [frame_of_error h]
    refine ⟨_, rfl, ?_⟩
    intro entry hentry
    split at hentry
    · exact List.mem_singleton.1 hentry
    · cases hentry
  · rw [frame_of_ok h]
    exact ⟨[], (List.append_nil _).symm, List.forall_mem_nil _⟩

/-- A frame leads to the session after it, whether it succeeds or not. -/
theorem frame_session (s : Session) : s.frame.session = s.played := by
  cases h : s.ready.cycle.result with
  | ok done => rw [frame_of_ok h]
  | error failure => rw [frame_of_error h]

/-- The calls of a frame are those of its typing. -/
theorem calls_frame (s : Session) : s.frame.calls = s.typeNext.calls := by
  cases h : s.ready.cycle.result with
  | ok done => rw [frame_of_ok h]
  | error failure => rw [frame_of_error h]

/-- A frame succeeds if its cycle does. -/
theorem failure_eq_none_iff {s : Session} :
    s.frame.failure = none ↔ s.ready.cycle.result.isOk := by
  cases h : s.ready.cycle.result with
  | ok done =>
    rw [frame_of_ok h]
    exact ⟨fun _ => rfl, fun _ => rfl⟩
  | error failure =>
    rw [frame_of_error h]
    exact ⟨nofun, nofun⟩

/-- A frame fails as its cycle does. -/
theorem failure_eq_some_iff {s : Session} {failure : Failure} :
    s.frame.failure = some failure ↔ s.ready.cycle.result = .error failure := by
  cases h : s.ready.cycle.result with
  | ok done =>
    rw [frame_of_ok h]
    exact ⟨nofun, nofun⟩
  | error other =>
    rw [frame_of_error h]
    simp

/-! ## Many frames -/

/-- The session before frame `i`, counted from 0, whether the frames before it succeed or not. -/
def before (s : Session) : Nat → Session
  | 0 => s
  | i + 1 => (s.before i).frame.session

/-- The first frame comes before the others. -/
theorem before_succ (s : Session) (i : Nat) : s.before (i + 1) = s.frame.session.before i := by
  induction i with
  | zero => rfl
  | succ i ih => rw [before, ih, before]

/-- The frames that are run: at most `count`, and none after one that fails. -/
def frames (s : Session) : Nat → List Frame
  | 0 => []
  | count + 1 =>
    s.frame :: if s.frame.failure.isNone then s.frame.session.frames count else []

/-- A frame that succeeds comes before the others. -/
theorem frames_of_ok {s : Session} (h : s.frame.failure = none) (count : Nat) :
    s.frames (count + 1) = s.frame :: s.frame.session.frames count := by
  rw [frames, h]
  rfl

/-- A frame that fails is the last one. -/
theorem frames_of_failure {s : Session} {failure : Failure} (h : s.frame.failure = some failure)
    (count : Nat) : s.frames (count + 1) = [s.frame] := by
  rw [frames, h]
  rfl

/-- How the frames of a session go. -/
inductive Course (s : Session) (count : Nat) : Prop
  /-- All of them succeed. -/
  | finished (hok : ∀ i < count, (s.before i).frame.failure = none)
      (hframes : s.frames count = (List.range count).map fun i => (s.before i).frame)
  /-- One of them fails, and it is the last one. -/
  | failed (last : Nat) (failure : Failure) (hlast : last < count)
      (hok : ∀ i < last, (s.before i).frame.failure = none)
      (hfails : (s.before last).frame.failure = some failure)
      (hframes : s.frames count = (List.range (last + 1)).map fun i => (s.before i).frame)

/-- The frames that are run, the first one apart from the others. -/
theorem map_frame_succ (s : Session) (count : Nat) :
    (List.range (count + 1)).map (fun i => (s.before i).frame) =
      s.frame :: (List.range count).map fun i => (s.frame.session.before i).frame := by
  rw [List.range_succ_eq_map, List.map_cons, List.map_map]
  congr 1
  apply List.map_congr_left
  intro i _
  rw [Function.comp_apply, before_succ]

/-- The first frames succeed if the first one does and the others do after it. -/
theorem forall_ok_succ {s : Session} {count : Nat} (h : s.frame.failure = none)
    (hrest : ∀ i < count, (s.frame.session.before i).frame.failure = none) :
    ∀ i < count + 1, (s.before i).frame.failure = none := by
  rintro (_ | i) hi
  · exact h
  · rw [before_succ]
    exact hrest i (Nat.lt_of_succ_lt_succ hi)

/-- All frames succeed, or one of them fails and is the last one. -/
theorem course (s : Session) (count : Nat) : s.Course count := by
  induction count generalizing s with
  | zero =>
    refine .finished ?_ rfl
    intro i hi
    omega
  | succ count ih =>
    cases h : s.frame.failure with
    | some failure =>
      refine .failed 0 failure (Nat.succ_pos count) ?_ h ?_
      · intro i hi
        omega
      · rw [frames_of_failure h]
        rfl
    | none =>
      -- the course of the other frames, with all of them one later
      rcases ih s.frame.session with ⟨hok, hframes⟩ | ⟨last, failure, hlast, hok, hfails, hframes⟩
      · refine .finished (forall_ok_succ h hok) ?_
        rw [frames_of_ok h, hframes, map_frame_succ]
      · refine .failed (last + 1) failure (Nat.succ_lt_succ hlast) (forall_ok_succ h hok) ?_ ?_
        · rw [before_succ]
          exact hfails
        · rw [frames_of_ok h, hframes, map_frame_succ s]

/-- The frames that are run are those of the sessions before them. -/
theorem frames_eq_map (s : Session) (count : Nat) :
    s.frames count =
      (List.range (s.frames count).length).map fun i => (s.before i).frame := by
  rcases s.course count with ⟨-, hframes⟩ | ⟨last, failure, -, -, -, hframes⟩
  · rw [hframes, List.length_map, List.length_range]
  · rw [hframes, List.length_map, List.length_range]

/-- If all frames succeed, all of them are run. -/
theorem length_frames_of_ok {s : Session} {count : Nat}
    (hok : ∀ i < count, (s.before i).frame.failure = none) : (s.frames count).length = count := by
  rcases s.course count with ⟨-, hframes⟩ | ⟨last, failure, hlast, -, hfails, -⟩
  · rw [hframes, List.length_map, List.length_range]
  · rw [hok last hlast] at hfails
    cases hfails

/-- If a frame fails, it is the last one that is run. -/
theorem length_frames_of_failure {s : Session} {count last : Nat} {failure : Failure}
    (hlast : last < count) (hok : ∀ i < last, (s.before i).frame.failure = none)
    (hfails : (s.before last).frame.failure = some failure) :
    (s.frames count).length = last + 1 := by
  rcases s.course count with ⟨hall, -⟩ | ⟨other, failure', -, hok', hfails', hframes⟩
  · rw [hall last hlast] at hfails
    cases hfails
  · have hsame : other = last := by
      rcases Nat.lt_trichotomy other last with hlt | heq | hgt
      · rw [hok other hlt] at hfails'
        cases hfails'
      · exact heq
      · rw [hok' last hgt] at hfails
        cases hfails
    rw [hframes, List.length_map, List.length_range, hsame]

end Session

/-! ## What frames leave behind -/

namespace Outcome

open Session

/-- If all frames succeed, the last thing that is shown is the screen after them. -/
theorem ofFrames_of_ok {s : Session} {count : Nat}
    (hok : ∀ i < count, (s.before i).frame.failure = none) (total : Nat)
    (log : Array Log.Entry) :
    ofFrames total count s log =
      { code := 0
        output := picture (s.before count).machine
        rings := (s.before count).bell.rings
        log := log.toList ++ (s.frames count).flatMap Frame.log ++
          closingLog (s.before count).machine total none } := by
  induction count generalizing s log with
  | zero => simp [ofFrames, before, frames]
  | succ count ih =>
    have hfirst : s.frame.failure = none := hok 0 (Nat.succ_pos count)
    have hrest : ∀ i < count, (s.frame.session.before i).frame.failure = none := by
      intro i hi
      rw [← before_succ]
      exact hok (i + 1) (Nat.succ_lt_succ hi)
    rw [ofFrames, hfirst, frames_of_ok hfirst, before_succ]
    dsimp only
    rw [ih hrest]
    simp

/-- If a frame fails, nothing is run after it, and a fault shows the screen as it left it. -/
theorem ofFrames_of_failure {s : Session} {count last : Nat} {failure : Failure}
    (hlast : last < count) (hok : ∀ i < last, (s.before i).frame.failure = none)
    (hfails : (s.before last).frame.failure = some failure) (total : Nat)
    (log : Array Log.Entry) :
    ofFrames total count s log =
      ofError (.machine failure)
        (if failure.isFault then picture (s.before (last + 1)).machine else "")
        (s.before (last + 1)).bell.rings
        (log.toList ++ (s.frames count).flatMap Frame.log) := by
  induction count generalizing s log last with
  | zero => omega
  | succ count ih =>
    rcases last with _ | last
    · have hfails : s.frame.failure = some failure := hfails
      rw [ofFrames, hfails, frames_of_failure hfails]
      simp [before]
    · have hfirst : s.frame.failure = none := hok 0 (Nat.succ_pos last)
      have hrest : ∀ i < last, (s.frame.session.before i).frame.failure = none := by
        intro i hi
        rw [← before_succ]
        exact hok (i + 1) (Nat.succ_lt_succ hi)
      rw [before_succ] at hfails
      rw [ofFrames, hfirst, frames_of_ok hfirst, before_succ]
      dsimp only
      rw [ih (Nat.lt_of_succ_lt_succ hlast) hrest hfails]
      simp

end Outcome

end CommandLine

end ChipEight
