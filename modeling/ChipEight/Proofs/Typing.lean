/-
# Typed keys

A text is typed one key per frame: before a frame the key of the frame before it is released and its
own key is pressed, and nothing else is done to the keypad (`Setting.one_key_per_frame`). During the
frame just its own key is down, whatever the program does (`Machine.isDown_tick`), and of the
characters without a key those in front of the key are warned about (`Session.warnings_frames`). A
program that begins to wait for a key in some frame gets the key of the next one, or none at all: if
no key is typed then, none is typed later (`Machine.resumed_iff`).
-/
import ChipEight.Proofs.KeyWait
import ChipEight.Proofs.Quoted
import ChipEight.Proofs.Strokes
import ChipEight.Proofs.Tick
import Mathlib.Data.List.Forall2

namespace ChipEight

/-- The key that a call presses. -/
def Keypad.Call.pressed? : Keypad.Call → Option Key
  | press key => some key
  | _ => none

namespace Machine

open CommandLine

variable {m : Machine} {ks : List Key} {i j : Nat} {register : UInt8}

/-! ## The keypad during a frame -/

/-- The keys that are down stay down, and the others up, all through a frame. -/
theorem isDown_tick {t : Tick} (h : t ∈ m.actionTicks .cycle) (k : Key) :
    t.after.keypad.isDown k = m.keypad.isDown k := by
  have hkept : t.after.keypad.held = m.keypad.held := by
    refine (m.ticks_cycle.preserves (P := fun m' => m'.keypad.held = m.keypad.held) ?_ rfl).2 t h
    intro u hu hbefore
    rcases mem_actionTicks hu with ⟨m', rfl⟩ | ⟨m', rfl⟩ | ⟨-, hruns⟩
    · exact m'.held_step.trans hbefore
    · show m'.endFrame.1.keypad.held = m.keypad.held
      rw [(endFrame_frame m').1]
      exact hbefore
    · exact absurd rfl hruns
  rw [Keypad.isDown, hkept]
  rfl

/-! ## Waits that begin -/

/-- A register begins to wait for a key. -/
def Begins (events : List Event) (register : UInt8) : Prop :=
  ∃ address word, .executing address word (.awaitKey register) ∈ events

/-- Nobody waits for a key, and no key is pending. -/
structure Quiet (m : Machine) : Prop where
  /-- No register waits. -/
  keyWait : m.keyWait = none
  /-- The slot is neither armed nor filled. -/
  slot : m.keypad.slot = .idle

/-- A quiet machine stays quiet while an instruction is executed, unless a wait begins. -/
theorem Quiet.fetchExecute (h : m.Quiet) :
    m.fetchExecute.machine.Quiet ∨ ∃ register, Begins m.fetchExecute.events register := by
  cases m.fetched with
  | outside hpc hr | unknown hpc hd hr | refused i failure hi hf hr =>
    left
    rw [hr]
    exact ⟨h.keyWait, h.slot⟩
  | executed i e hi he hr =>
    rw [hr]
    rcases hawaited : i.awaited? with _ | register
    · left
      have hsteered := steered_of_effect he
      constructor
      · show e.machine.keyWait = none
        rw [hsteered.keyWait, hawaited]
        exact h.keyWait
      · show e.machine.keypad.slot = .idle
        rw [hsteered.keypad, hawaited]
        exact h.slot
    · right
      have hi' : i = .awaitKey register := by
        cases i <;> cases hawaited
        rfl
      subst hi'
      exact ⟨register, _, _, List.mem_cons_self⟩

/-- A quiet machine stays quiet during a step, unless a wait begins. -/
theorem Quiet.step (h : m.Quiet) :
    m.step.machine.Quiet ∨ ∃ register, Begins m.step.events register := by
  cases m.stepped with
  | halted fault hf hr =>
    left
    rw [hr]
    exact h
  | waiting register hf hk hs hr =>
    rw [h.keyWait] at hk
    cases hk
  | resumed register key hf hk hs hr =>
    rw [h.keyWait] at hk
    cases hk
  | running hf hk hr =>
    rw [hr]
    exact h.fetchExecute

/-- No wait begins in a chain of steps, since it would end the batch. -/
theorem Steps.quiet {m' : Machine} {count : Nat} {events : List Event}
    (hsteps : Steps m count events m') (h : m.Quiet) : m'.Quiet := by
  induction hsteps with
  | refl m => exact h
  | head hr hflow hrest ih =>
    rcases h.step with hquiet | ⟨register, address, word, hmem⟩
    · exact ih hquiet
    · have hkeyWait := (waits_of_step hmem).2
      rw [hr] at hkeyWait
      exact absurd (Except.ok.inj hkeyWait) hflow

/-- A quiet machine stays quiet during a batch of steps, unless a wait begins. -/
theorem Quiet.runSteps (h : m.Quiet) (count : Nat) :
    (m.runSteps count).machine.Quiet ∨
      ∃ register, Begins (m.runSteps count).events register := by
  rcases count with _ | count
  · exact .inl h
  · obtain ⟨j, events, m', -, hsteps, hrun, -⟩ := runSteps_succ m count
    rw [hrun]
    rcases (hsteps.quiet h).step with hquiet | ⟨register, address, word, hmem⟩
    · exact .inl hquiet
    · exact .inr ⟨register, address, word, List.mem_append_right _ hmem⟩

/-- A quiet machine stays quiet during a frame, unless a wait begins. -/
theorem Quiet.cycle (h : m.Quiet) :
    m.cycle.machine.Quiet ∨ ∃ register, Begins m.cycle.events register := by
  have hbatch := h.runSteps m.config.speed
  rcases hf : m.fault with _ | fault
  · rcases hr : (m.runSteps m.config.speed).result with failure | flow
    · rw [cycle_of_error hf hr]
      exact hbatch
    · rw [cycle_of_ok hf hr]
      rcases hbatch with hquiet | ⟨register, address, word, hmem⟩
      · have hend := endFrame_frame (m.runSteps m.config.speed).machine
        left
        constructor
        · exact hend.2.1.trans hquiet.keyWait
        · show (m.runSteps m.config.speed).machine.endFrame.1.keypad.slot = .idle
          rw [hend.1]
          exact hquiet.slot
      · exact .inr ⟨register, address, word, List.mem_append_left _ hmem⟩
  · rw [cycle_of_fault hf]
    exact .inl h

/-- A wait can begin only in a frame that executes instructions. -/
theorem speed_of_begins (h : Begins m.cycle.events register) : m.config.speed ≠ 0 := by
  obtain ⟨address, word, hmem⟩ := h
  intro hspeed
  have hbatch : m.runSteps m.config.speed = { result := .ok .ok, machine := m } := by
    rw [hspeed, runSteps_zero]
  rcases hf : m.fault with _ | fault
  · have hresult : (m.runSteps m.config.speed).result = .ok .ok := by rw [hbatch]
    rw [cycle_of_ok hf hresult, hbatch] at hmem
    rcases mem_endFrame hmem with ⟨hertz, h⟩ | h | h <;> cases h
  · rw [cycle_of_fault hf] at hmem
    cases hmem

/-! ## Waits while a text is typed -/

/-- The strokes before a frame touch nothing but the keypad, and an armed slot receives the key of
the frame. -/
theorem after_strokes (m : Machine) (ks : List Key) (i : Nat) :
    (m.after (strokes ks i)).fault = m.fault ∧ (m.after (strokes ks i)).keyWait = m.keyWait ∧
      (m.after (strokes ks i)).keypad.slot = m.keypad.slot.receive ks[i]? := by
  unfold strokes
  rcases released? ks i with _ | old <;> rcases ks[i]? with _ | new
  all_goals exact ⟨rfl, rfl, rfl⟩

/-- The strokes before a frame leave a quiet machine quiet. -/
theorem Quiet.strokes (h : m.Quiet) (ks : List Key) (i : Nat) :
    (m.after (strokes ks i)).Quiet := by
  obtain ⟨-, hkeyWait, hslot⟩ := m.after_strokes ks i
  refine ⟨hkeyWait.trans h.keyWait, ?_⟩
  rw [hslot, h.slot]
  cases ks[i]? <;> rfl

/-- The strokes before a frame deliver its key, if the slot is armed. -/
theorem Waits.strokes (h : m.Waits register .awaiting) (ks : List Key) (i : Nat) :
    (m.after (strokes ks i)).Waits register (Keypad.Slot.awaiting.receive ks[i]?) := by
  obtain ⟨hfault, hkeyWait, hslot⟩ := m.after_strokes ks i
  refine ⟨hfault.trans h.fault, hkeyWait.trans h.keyWait, ?_⟩
  rw [hslot, h.slot_eq]

/-- What the machine is waiting for before frame `i`: nothing, or the key of a frame `j` that began
a wait, and then no key was typed since. -/
inductive Rests (m : Machine) (ks : List Key) (i : Nat) : Prop
  /-- Nobody waits. -/
  | quiet (h : (m.after (playing ks i)).Quiet)
  /-- A register waits since frame `j`. -/
  | waits (j : Nat) (register : UInt8) (hj : j < i)
      (hbegins : Begins (m.atFrame ks j).cycle.events register)
      (hnone : ∀ l, j < l → l < i → ks[l]? = none)
      (h : (m.after (playing ks i)).Waits register .awaiting)

/-- After a frame that was run by a quiet machine nobody waits, or since this frame. -/
theorem rests_of_cycle (h : (m.atFrame ks i).cycle.machine.Quiet ∨
    ∃ register, Begins (m.atFrame ks i).cycle.events register) : m.Rests ks (i + 1) := by
  rcases h with hquiet | ⟨register, hbegins⟩
  · apply Rests.quiet
    rw [after_playing_succ]
    exact hquiet
  · refine .waits i register (Nat.lt_succ_self i) hbegins ?_ ?_
    · intro l hl hl'
      omega
    · obtain ⟨address, word, hmem⟩ := hbegins
      rw [after_playing_succ]
      exact waits_of_cycle hmem

/-- All frames of a run have the same speed. -/
theorem Sound.speed_atFrame {config : Config} (hm : m.Sound config) (ks : List Key) (i : Nat) :
    (m.atFrame ks i).config.speed = config.speed := by
  rw [atFrame, (hm.after _).config_eq]

/-- A frame that finds the key of a register hands it over, and nobody waits from then on. -/
theorem Waits.cycle_delivered {key : Key} (h : m.Waits register (.delivered key))
    (hspeed : m.config.speed ≠ 0) :
    .resumed key register ∈ m.cycle.events ∧
      (m.cycle.machine.Quiet ∨ ∃ register', Begins m.cycle.events register') := by
  have hends : m.Ends .cycle register key := h.ends (a := .cycle) (by simpa [Action.attempts])
  have hmachine : m.cycle.machine = (m.resume register key).cycle.machine :=
    congrArg (fun r : Reaction Answer => r.machine) hends
  have hevents : m.cycle.events =
      resumption register key ++ (m.resume register key).cycle.events :=
    congrArg (fun r : Reaction Answer => r.events) hends
  have hresumed : (m.resume register key).Quiet := ⟨rfl, rfl⟩
  rw [hmachine, hevents]
  constructor
  · simp [resumption]
  · rcases hresumed.cycle with hquiet | ⟨register', address, word, hmem⟩
    · exact .inl hquiet
    · exact .inr ⟨register', address, word, List.mem_append_right _ hmem⟩

/-- At every frame nobody waits, or no key was typed since the wait began. -/
theorem rests {config : Config} (hm : m.Sound config) (hquiet : m.Quiet) (ks : List Key) (i : Nat) :
    m.Rests ks i := by
  -- a wait without a key goes on, and a key ends it in the frame before which it is pressed
  induction i with
  | zero => exact .quiet hquiet
  | succ i ih =>
    rcases ih with h | ⟨j, register, hj, hbegins, hnone, h⟩
    · apply rests_of_cycle
      rw [atFrame_eq]
      exact (h.strokes ks i).cycle
    · have hready := h.strokes ks i
      rw [← atFrame_eq] at hready
      rcases hkey : ks[i]? with _ | key
      · rw [hkey] at hready
        refine .waits j register (Nat.lt_succ_of_lt hj) hbegins ?_ ?_
        · intro l hl hl'
          rcases Nat.lt_succ_iff_lt_or_eq.1 hl' with hlt | rfl
          · exact hnone l hl hlt
          · exact hkey
        · rw [after_playing_succ]
          exact hready.perform_awaiting (a := .cycle) rfl
      · rw [hkey] at hready
        have hspeed : (m.atFrame ks i).config.speed ≠ 0 := by
          rw [hm.speed_atFrame, ← hm.speed_atFrame ks j]
          exact speed_of_begins hbegins
        exact rests_of_cycle (hready.cycle_delivered hspeed).2

/-- A register receives a key in a frame exactly if it began to wait in the frame before and the key
is that of the frame. -/
theorem resumed_iff {config : Config} (hm : m.Sound config) (hquiet : m.Quiet) (ks : List Key)
    (j : Nat) (key : Key) (register : UInt8) :
    .resumed key register ∈ (m.atFrame ks j).cycle.events ↔
      ∃ i, j = i + 1 ∧ ks[j]? = some key ∧ Begins (m.atFrame ks i).cycle.events register := by
  constructor
  · intro hmem
    rcases m.rests hm hquiet ks j with h | ⟨i, register', hi, hbegins, hnone, h⟩
    · have hcount := countP_perform_le (m.atFrame ks j) .cycle
      have hslot := (h.strokes ks j).slot
      rw [← atFrame_eq] at hslot
      rw [pending, hslot] at hcount
      exact absurd rfl (List.countP_eq_zero.1 (Nat.le_zero.1 hcount) _ hmem)
    · have hready := h.strokes ks j
      rw [← atFrame_eq] at hready
      obtain ⟨hslot, rfl, -⟩ := hready.mem_resumed (a := .cycle) hmem
      have hkey : ks[j]? = some key := by
        rcases hnext : ks[j]? with _ | key'
        · rw [hnext] at hslot
          cases hslot
        · rw [hnext] at hslot
          cases hslot
          rfl
      refine ⟨i, ?_, hkey, hbegins⟩
      -- a frame in between would have a key, too
      have hlength : j < ks.length := (List.getElem?_eq_some_iff.1 hkey).1
      have hlast : ¬ i + 1 < j := by
        intro hlt
        have hmissing := List.getElem?_eq_none_iff.1 (hnone (i + 1) (Nat.lt_succ_self i) hlt)
        omega
      omega
  · rintro ⟨i, rfl, hkey, hbegins⟩
    have hspeed : (m.atFrame ks (i + 1)).config.speed ≠ 0 := by
      rw [hm.speed_atFrame, ← hm.speed_atFrame ks i]
      exact speed_of_begins hbegins
    obtain ⟨address, word, hmem⟩ := hbegins
    have hwaits := waits_of_cycle hmem
    rw [← after_playing_succ] at hwaits
    have hready := hwaits.strokes ks (i + 1)
    rw [← atFrame_eq, hkey] at hready
    exact (hready.cycle_delivered hspeed).1

end Machine

/-! ## Characters without a key -/

/-- A bell logs an event as it is, and what it says about its tone is information. -/
theorem Bell.mem_hear {b : Bell} {event : Event} {entry : Log.Entry}
    (h : entry ∈ (ToneDevice.hear b event).2) :
    event.entry? = some entry ∨ entry.level = .info := by
  cases event with
  | startTone hertz =>
    right
    replace h : entry ∈ (b.start hertz).2 := h
    unfold start at h
    split at h <;> simp at h
    simp [h]
  | stopTone =>
    right
    replace h : entry ∈ b.stop.2 := h
    unfold stop at h
    split at h <;> simp at h
    simp [h]
  | _ =>
    left
    simpa [ToneDevice.hear] using h

/-- A bell logs no warnings. -/
theorem Bell.level_ne_warn (b : Bell) (events : List Event) :
    ∀ entry ∈ (ToneDevice.hearAll b events).2, entry.level ≠ .warn := by
  induction events generalizing b with
  | nil => exact List.forall_mem_nil _
  | cons event events ih =>
    rw [ToneDevice.hearAll_cons]
    intro entry hentry
    rcases List.mem_append.1 hentry with h | h
    · rcases mem_hear h with hevent | hinfo
      · exact (event.level_entry? hevent).2
      · simp [hinfo]
    · exact ih _ entry h

namespace CommandLine

open Log

/-- The warnings in a log. -/
def warnings (log : List Entry) : List Entry := log.filter (·.level = .warn)

/-- The warnings in two logs, one after the other. -/
theorem warnings_append (first second : List Entry) :
    warnings (first ++ second) = warnings first ++ warnings second := List.filter_append ..

/-- Without a warning nothing is left. -/
theorem warnings_eq_nil {log : List Entry} (h : ∀ entry ∈ log, entry.level ≠ .warn) :
    warnings log = [] := by
  unfold warnings
  rw [List.filter_eq_nil_iff]
  intro entry hentry
  simpa using h entry hentry

/-- Whether a character has a key. -/
def isMapped (keymap : KeyMap) (c : Char) : Bool := (keymap.find? c).isSome

/-- A part at the beginning of a text is read to get `count` keys: it is the shortest one with so
many keys, or the whole text if there are fewer. -/
inductive Reads (keymap : KeyMap) (count : Nat) (text read : List Char) : Prop
  /-- The text has fewer keys. -/
  | whole (h : text.countP (isMapped keymap) < count) (hread : read = text)
  /-- The text has enough keys. -/
  | part (h : read <+: text) (hread : read.countP (isMapped keymap) = count)
      (hshortest : ∀ other, other <+: text → other.countP (isMapped keymap) = count →
        read <+: other)

/-- The characters that are read to get `count` keys. -/
def scanned (keymap : KeyMap) (count : Nat) : List Char → List Char
  | [] => []
  | c :: text =>
    match count with
    | 0 => []
    | count + 1 => c :: scanned keymap (if isMapped keymap c then count else count + 1) text

/-- To get no key nothing is read. -/
theorem scanned_zero (keymap : KeyMap) (text : List Char) : scanned keymap 0 text = [] := by
  cases text <;> rfl

/-- No more is read than needed. -/
theorem reads_scanned (keymap : KeyMap) (count : Nat) (text : List Char) :
    Reads keymap count text (scanned keymap count text) := by
  induction text generalizing count with
  | nil =>
    rcases count with _ | count
    · exact .part List.nil_prefix rfl fun other _ _ => List.nil_prefix
    · exact .whole (Nat.succ_pos count) rfl
  | cons c text ih =>
    rcases count with _ | count
    · exact .part List.nil_prefix rfl fun other _ _ => List.nil_prefix
    · rw [scanned]
      -- how many keys are still needed behind `c`
      have hcount : ∀ read : List Char, (c :: read).countP (isMapped keymap) = count + 1 ↔
          read.countP (isMapped keymap) = if isMapped keymap c then count else count + 1 := by
        intro read
        rw [List.countP_cons]
        by_cases hc : isMapped keymap c
        · rw [if_pos hc, if_pos hc]
          omega
        · rw [if_neg hc, if_neg hc]
          omega
      rcases ih (if isMapped keymap c then count else count + 1) with
        ⟨h, hread⟩ | ⟨h, hread, hshortest⟩
      · refine .whole ?_ (by rw [hread])
        rw [List.countP_cons]
        by_cases hc : isMapped keymap c
        · rw [if_pos hc] at h ⊢
          omega
        · rw [if_neg hc] at h ⊢
          omega
      · refine .part (List.cons_prefix_cons.2 ⟨rfl, h⟩) ((hcount _).2 hread) ?_
        intro other hother hkeys
        rcases List.prefix_cons_iff.1 hother with rfl | ⟨rest, rfl, hrest⟩
        · cases hkeys
        · exact List.cons_prefix_cons.2 ⟨rfl, hshortest rest hrest ((hcount rest).1 hkeys)⟩

namespace Session

/-- The characters that a frame passes over are those without a key in front of its key. -/
theorem skipped_nextKey (keymap : KeyMap) (typed : List Char) (count : Nat) :
    (nextKey keymap typed).2.1 ++
        (scanned keymap count (nextKey keymap typed).2.2).filter (! isMapped keymap ·) =
      (scanned keymap (count + 1) typed).filter (! isMapped keymap ·) := by
  induction typed with
  | nil => rfl
  | cons c typed ih =>
    rw [nextKey, scanned]
    rcases hfind : keymap.find? c with _ | key
    · have hc : isMapped keymap c = false := by rw [isMapped, hfind]; rfl
      simp [hc, ← ih]
    · have hc : isMapped keymap c = true := by rw [isMapped, hfind]; rfl
      simp [hc]

/-- While a key is typed, the characters that are passed over are warned about. -/
theorem warnings_typeNext (s : Session) :
    warnings s.typeNext.log = (nextKey s.keymap s.typed).2.1.map unmapped := by
  obtain ⟨events, hlog⟩ := s.typeNext_log
  have hevents : warnings (events.filterMap Event.entry?) = [] := by
    apply warnings_eq_nil
    intro entry hentry
    obtain ⟨event, -, hevent⟩ := List.mem_filterMap.1 hentry
    exact (event.level_entry? hevent).2
  have hskipped : warnings ((nextKey s.keymap s.typed).2.1.map unmapped) =
      (nextKey s.keymap s.typed).2.1.map unmapped := by
    unfold warnings
    rw [List.filter_eq_self]
    simp [unmapped]
  rw [hlog, warnings_append, hevents, hskipped, List.append_nil]

/-- The warnings of a frame are about the characters that it passes over. -/
theorem warnings_frame (s : Session) :
    warnings s.frame.log = (nextKey s.keymap s.typed).2.1.map unmapped := by
  obtain ⟨more, hlog, hmore⟩ := s.frame_log
  have hregisters : warnings more = [] := by
    apply warnings_eq_nil
    intro entry hentry
    rw [hmore entry hentry]
    exact nofun
  have hheard : warnings s.heard.2 = [] := warnings_eq_nil (s.bell.level_ne_warn _)
  have hheld : warnings (heldEntries s.ready) = [] := by
    apply warnings_eq_nil
    intro entry hentry
    rw [level_heldEntries hentry]
    exact nofun
  rw [hlog, told, warnings_append, warnings_append, warnings_append, warnings_typeNext, hheld,
    hheard, hregisters]
  simp

/-- The warnings of the first frames are about the characters without a key that are read to get
their keys. -/
theorem warnings_frames (s : Session) (count : Nat) :
    warnings ((List.range count).flatMap fun i => (s.before i).frame.log) =
      ((scanned s.keymap count s.typed).filter (! isMapped s.keymap ·)).map unmapped := by
  induction count generalizing s with
  | zero => simp [warnings, scanned_zero]
  | succ count ih =>
    have hrest : (List.range count).flatMap (fun i => (s.before (i + 1)).frame.log) =
        (List.range count).flatMap fun i => (s.frame.session.before i).frame.log := by
      congr 1
      funext i
      rw [before_succ]
    have hkeymap : s.frame.session.keymap = s.keymap := by
      rw [frame_session, played, (typeNext_frame s).2]
    have htyped : s.frame.session.typed = (nextKey s.keymap s.typed).2.2 := by
      rw [frame_session, played, typeNext_session]
    rw [List.range_succ_eq_map, List.flatMap_cons, List.flatMap_map, hrest, warnings_append, ih,
      warnings_frame, hkeymap, htyped, ← skipped_nextKey, List.map_append]
    rfl

end Session

namespace Setting

open Session

variable (g : Setting) (entropy : Random.Key)

/-- The machine of a session that was just set up: nobody waits, and no key is down. -/
theorem machine_fresh :
    (g.machine entropy).Quiet ∧ ∀ k, (g.machine entropy).keypad.isDown k = false := by
  have hdown : ∀ k : Key, ({} : Keypad).isDown k = false := by
    intro k
    exact Vector.getElem_replicate _
  unfold machine Machine.load
  split <;> exact ⟨⟨rfl, rfl⟩, hdown⟩

/-- A warning about a character names it between quotes. -/
theorem quoted_unmapped (chars : List Char) :
    ∃ quoted, List.Forall₂ Text.Quotes chars quoted ∧
      chars.map unmapped = quoted.map fun text =>
        ⟨.warn, "no keypad mapping for " ++ String.ofList text⟩ := by
  refine ⟨chars.map fun c => (Text.quoteChar c).toList, ?_, ?_⟩
  · rw [List.forall₂_map_right_iff, List.forall₂_same]
    exact fun c _ => Text.quotes_quoteChar c
  · rw [List.map_map]
    apply List.map_congr_left
    intro c _
    rw [Function.comp_apply, String.ofList_toList]
    rfl

end Setting

end CommandLine

end ChipEight
