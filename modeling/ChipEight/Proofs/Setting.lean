/-
# Settings

A session is set up from a configuration, a key map and a program. They are read in this order, and
the first thing that goes wrong ends the run (`Setting.read`). Then a machine is switched on, and
the program is loaded (`Setting.begin`). What is logged meanwhile is of little importance: only
debug entries (`Setup.Gives`).
-/
import ChipEight.Proofs.Course
import ChipEight.Proofs.Loading

namespace ChipEight.CommandLine

open Log

/-- What a session is set up from. -/
structure Setting where
  /-- The effective parameters of the machine. -/
  config : Config
  /-- The key map. -/
  keymap : KeyMap
  /-- The program. -/
  program : List UInt8

namespace Setting

/-! ## Reading a setting -/

/-- The bytes of a file. -/
def contents (files : Files) (path : String) : Except RunError (List UInt8) := do
  let opened ← (files path).mapError .unreadable
  opened.read.mapError .unreadable

/-- What a document describes. -/
def described {α : Type} (parse : List UInt8 → Except String α) (files : Files)
    (path : String) : Except RunError α := do
  let opened ← (files path).mapError .unreadable
  let bytes ← opened.read.mapError .unreadableConfig
  (parse bytes).mapError .invalidConfig

/-- The parameters that options ask for: those of the configuration, if one is named, but for the
speed. -/
def parameters (parsers : Parsers) (files : Files) (options : Options) :
    Except RunError Config := do
  let config ←
    match options.config with
    | none => .ok {}
    | some path => described parsers.config files path
  return { config with speed := options.speed.getD config.speed }

/-- The key map that options ask for, which is the built-in one if none is named. -/
def keyMap (parsers : Parsers) (files : Files) (options : Options) : Except RunError KeyMap :=
  match options.keymap with
  | none => .ok .qwerty
  | some path => do return .ofDefinitions (← described parsers.keymap files path)

/-- The setting that options ask for: the configuration, the key map and the program, in this
order. -/
def read (parsers : Parsers) (files : Files) (options : Options) : Except RunError Setting := do
  let config ← parameters parsers files options
  let keymap ← keyMap parsers files options
  let program ← contents files options.file
  return { config, keymap, program }

/-! ## Beginning with a setting -/

/-- The machine that a session begins with. -/
def machine (g : Setting) (entropy : Random.Key) : Machine :=
  ((Machine.new g.config (Machine.source g.config entropy)).load g.program).machine

/-- The session that types a text. -/
def session (g : Setting) (entropy : Random.Key) (keys : String) : Session :=
  { machine := g.machine entropy, keymap := g.keymap, typed := keys.toList }

/-- The session that a setting comes to: the machine is switched on, and then the program is loaded
if it fits into memory. -/
def begin (g : Setting) (system : System) (keys : String) : Except Breakdown Session := do
  let _ ← (Machine.switchOn system g.config).mapError .shortage
  if g.program.length ≤ maxProgramSize then
    return g.session system.entropy keys
  else
    throw (.error (.machine (.programTooLarge g.program.length)))

/-- The largest program has so many bytes. -/
example : maxProgramSize = 3584 := rfl

variable {g : Setting} {system : System} {keys : String}

/-- Without memory for the machine a session does not begin. -/
theorem begin_of_shortage {shortage : Shortage}
    (h : Machine.switchOn system g.config = .error shortage) :
    g.begin system keys = .error (.shortage shortage) := by
  rw [begin, h]
  rfl

/-- With a program that does not fit into memory a session does not begin. -/
theorem begin_of_gt {m : Machine} (h : Machine.switchOn system g.config = .ok m)
    (hsize : maxProgramSize < g.program.length) :
    g.begin system keys = .error (.error (.machine (.programTooLarge g.program.length))) := by
  rw [begin, h]
  exact if_neg (Nat.not_le_of_lt hsize)

/-- Otherwise it does. -/
theorem begin_of_le {m : Machine} (h : Machine.switchOn system g.config = .ok m)
    (hsize : g.program.length ≤ maxProgramSize) :
    g.begin system keys = .ok (g.session system.entropy keys) := by
  rw [begin, h]
  exact if_pos hsize

/-- Whatever session begins is that of the setting. -/
theorem eq_session_of_begin {s : Session} (h : g.begin system keys = .ok s) :
    s = g.session system.entropy keys := by
  rcases hswitch : Machine.switchOn system g.config with shortage | m
  · rw [begin_of_shortage hswitch] at h
    cases h
  · rcases Nat.lt_or_ge maxProgramSize g.program.length with hsize | hsize
    · rw [begin_of_gt hswitch hsize] at h
      cases h
    · rw [begin_of_le hswitch hsize] at h
      exact (Except.ok.inj h).symm

/-- No fault halts the machine that a session begins with. -/
theorem fault_machine (g : Setting) (entropy : Random.Key) : (g.machine entropy).fault = none := by
  unfold machine Machine.load
  split <;> rfl

end Setting

/-! ## Setting up -/

namespace Setup

variable {α β : Type}

/-- A computation gives a result, and it logs nothing but debug entries. -/
def Gives (x : Setup α) (result : Except Breakdown α) : Prop :=
  ∀ log, ∃ told, x.run.run log = (result, log ++ told) ∧ ∀ entry ∈ told, entry.level = .debug

theorem gives_pure (a : α) : Gives (pure a) (.ok a) := by
  intro log
  refine ⟨[], ?_, List.forall_mem_nil _⟩
  rw [List.append_nil]
  rfl

theorem gives_throw (breakdown : Breakdown) :
    Gives (throw breakdown : Setup α) (.error breakdown) := by
  intro log
  refine ⟨[], ?_, List.forall_mem_nil _⟩
  rw [List.append_nil]
  rfl

/-- Debug entries may be logged. -/
theorem gives_logAll {entries : List Entry} (h : ∀ entry ∈ entries, entry.level = .debug) :
    Gives (logAll entries) (.ok ()) := by
  intro log
  exact ⟨entries, rfl, h⟩

/-- One computation after another. -/
theorem Gives.bind {x : Setup α} {r : Except Breakdown α} (hx : x.Gives r) {f : α → Setup β}
    {g : α → Except Breakdown β} (hf : ∀ a, r = .ok a → (f a).Gives (g a)) :
    (x >>= f).Gives (r >>= g) := by
  intro log
  obtain ⟨first, hfirst, hdebug⟩ := hx log
  rw [ExceptT.run_bind, StateT.run_bind, hfirst]
  cases r with
  | error error => exact ⟨first, rfl, hdebug⟩
  | ok a =>
    obtain ⟨second, hsecond, hdebug'⟩ := hf a rfl (log ++ first)
    refine ⟨first ++ second, ?_, ?_⟩
    · rw [← List.append_assoc]
      exact hsecond
    · intro entry hentry
      rcases List.mem_append.1 hentry with h | h
      · exact hdebug entry h
      · exact hdebug' entry h

/-- A result that is there already is passed on, and a breakdown is given its place. -/
theorem gives_mapError {ε : Type} {x : Setup α} {r : Except ε α} {f : ε → Breakdown}
    (hok : ∀ a, r = .ok a → x = pure a) (herror : ∀ error, r = .error error → x = throw (f error)) :
    x.Gives (r.mapError f) := by
  cases r with
  | ok a =>
    rw [hok a rfl]
    exact gives_pure a
  | error error =>
    rw [herror error rfl]
    exact gives_throw (f error)

/-! ## Reading -/

/-- A computation reads something, or ends with the error that keeps it from reading. -/
def Reads (x : Setup α) (result : Except RunError α) : Prop := x.Gives (result.mapError .error)

theorem reads_pure (a : α) : Reads (pure a) (.ok a) := gives_pure a

theorem reads_fail (error : RunError) : Reads (fail error : Setup α) (.error error) :=
  gives_throw (.error error)

/-- One thing is read after another. -/
theorem Reads.bind {x : Setup α} {r : Except RunError α} (hx : x.Reads r) {f : α → Setup β}
    {g : α → Except RunError β} (hf : ∀ a, (f a).Reads (g a)) : (x >>= f).Reads (r >>= g) := by
  have h : (x >>= f).Gives (r.mapError .error >>= fun a => (g a).mapError .error) :=
    Gives.bind hx fun a _ => hf a
  cases r <;> exact h

/-- What was read already is passed on, and an error is given its place. -/
theorem reads_mapError {ε : Type} {x : Setup α} {r : Except ε α} {f : ε → RunError}
    (hok : ∀ a, r = .ok a → x = pure a) (herror : ∀ error, r = .error error → x = fail (f error)) :
    x.Reads (r.mapError f) := by
  have h : x.Gives (r.mapError fun error => .error (f error)) := gives_mapError hok herror
  cases r <;> exact h

/-- A file is opened, or it is reported why not. -/
theorem reads_openFile (files : Files) (path : String) :
    (openFile files path).Reads ((files path).mapError .unreadable) := by
  unfold openFile
  apply reads_mapError
  · intro opened h
    rw [h]
  · intro error h
    rw [h]

/-- A file is read, or it is reported why not. -/
theorem reads_readFile (files : Files) (path : String) :
    (readFile files path).Reads (Setting.contents files path) := by
  refine (reads_openFile files path).bind ?_
  intro opened
  apply reads_mapError
  · intro bytes h
    rw [h]
  · intro error h
    rw [h]

/-- A document is read, or it is reported why not. -/
theorem reads_readDocument (parse : List UInt8 → Except String α) (files : Files)
    (path : String) :
    (readDocument parse files path).Reads (Setting.described parse files path) := by
  refine (reads_openFile files path).bind ?_
  intro opened
  rcases opened.read with error | bytes
  · exact reads_fail _
  · show Reads _ ((parse bytes).mapError RunError.invalidConfig)
    apply reads_mapError
    · intro value h
      dsimp only
      rw [h]
    · intro reason h
      dsimp only
      rw [h]

/-- The parameters that options ask for are read. -/
theorem reads_readConfig (parsers : Parsers) (files : Files) (options : Options) :
    (readConfig parsers files options).Reads (Setting.parameters parsers files options) := by
  unfold readConfig Setting.parameters
  cases options.config with
  | none => exact reads_pure _
  | some path =>
    refine (reads_readDocument parsers.config files path).bind ?_
    intro config
    exact Gives.bind (gives_logAll (by simp)) fun _ _ => gives_pure _

/-- The key map that options ask for is read. -/
theorem reads_readKeyMap (parsers : Parsers) (files : Files) (options : Options) :
    (readKeyMap parsers files options).Reads (Setting.keyMap parsers files options) := by
  unfold readKeyMap Setting.keyMap
  cases options.keymap with
  | none => exact reads_pure _
  | some path =>
    refine (reads_readDocument parsers.keymap files path).bind ?_
    intro definitions
    exact Gives.bind (gives_logAll (by simp)) fun _ _ => gives_pure _

/-- A machine is switched on, or there is no memory for it. -/
theorem gives_switchOn (system : System) (config : Config) :
    (switchOn system config).Gives ((Machine.switchOn system config).mapError .shortage) := by
  unfold switchOn
  apply gives_mapError
  · intro m h
    rw [h]
  · intro shortage h
    rw [h]

end Setup

/-- What is logged when a program is loaded is for debugging. -/
theorem level_load (m : Machine) (program : List UInt8) :
    ∀ entry ∈ (m.load program).events.filterMap Event.entry?, entry.level = .debug := by
  unfold Machine.load
  split <;> simp [Event.entry?]

/-- Errors of a computation in two parts are renamed part by part. -/
theorem mapError_bind {ε δ α β : Type} (x : Except ε α) (f : α → Except ε β) (e : ε → δ) :
    (x >>= f).mapError e = x.mapError e >>= fun a => (f a).mapError e := by
  cases x <;> rfl

/-- Renaming errors changes no result. -/
theorem eq_ok_of_mapError {ε δ α : Type} {r : Except ε α} {e : ε → δ} {a : α}
    (h : r.mapError e = .ok a) : r = .ok a := by
  cases r <;> cases h
  rfl

/-- A session is set up from the setting that the options ask for. -/
theorem Session.gives_start (parsers : Parsers) (system : System) (options : Options) :
    (Session.start parsers system options).Gives
      ((Setting.read parsers system.files options).mapError .error >>= fun g =>
        g.begin system options.keys) := by
  unfold Session.start Setting.read
  simp only [mapError_bind, bind_assoc]
  refine Setup.Gives.bind (Setup.reads_readConfig parsers _ options) fun config _ => ?_
  refine Setup.Gives.bind (Setup.reads_readKeyMap parsers _ options) fun keymap _ => ?_
  refine Setup.Gives.bind (Setup.reads_readFile _ options.file) fun program _ => ?_
  show Setup.Gives _ (Setting.begin { config, keymap, program } system options.keys)
  refine (Setup.gives_switchOn system config).bind fun m hm => ?_
  obtain ⟨-, rfl⟩ := Machine.switchOn_eq_ok_iff.1 (eq_ok_of_mapError hm)
  have htold := level_load (.new config (Machine.source config system.entropy)) program
  by_cases hsize : program.length ≤ maxProgramSize
  · rw [if_pos hsize]
    refine (Setup.gives_logAll htold).bind (g := fun _ => _) fun _ _ => ?_
    rw [(Machine.load_of_le hsize).1]
    exact (Setup.gives_logAll (by simp)).bind fun _ _ => Setup.gives_pure _
  · rw [if_neg hsize]
    refine (Setup.gives_logAll htold).bind (g := fun _ => _) fun _ _ => ?_
    rw [Machine.load_of_gt (Nat.lt_of_not_le hsize)]
    exact Setup.gives_throw _

/-! ## How a run begins -/

namespace Outcome

/-- The frames that a run with given arguments comes to. -/
def framesRun (parsers : Parsers) (system : System) (arguments : List String) :
    List Session.Frame :=
  match Options.parse arguments with
  | .error _ => []
  | .ok options =>
    match (Session.start parsers system options).run.run [] with
    | (.error _, _) => []
    | (.ok session, _) => session.frames options.frames

variable {parsers : Parsers} {system : System} {arguments : List String} {options : Options}

/-- Rejected arguments are answered with the usage, and no frame is run. -/
theorem of_rejection {r : Rejection} (h : Options.parse arguments = .error r) (parsers : Parsers)
    (system : System) :
    ofArguments parsers system arguments = ofRejection r ∧
      framesRun parsers system arguments = [] := by
  rw [ofArguments, framesRun, h]
  exact ⟨rfl, rfl⟩

/-- What setting a session up gives tells how the run goes on. -/
theorem of_start {result : Except Breakdown Session} (h : Options.parse arguments = .ok options)
    (hstart : (Session.start parsers system options).Gives result) :
    ∃ told : List Entry,
      ofArguments parsers system arguments =
        (match result with
        | .error breakdown => ofBreakdown breakdown told
        | .ok s => ofFrames options.frames options.frames s told.toArray) ∧
      framesRun parsers system arguments =
        (match result with
        | .error _ => []
        | .ok s => s.frames options.frames) ∧
      ∀ entry ∈ told, entry.level = .debug := by
  obtain ⟨told, hrun, hdebug⟩ := hstart []
  rw [List.nil_append] at hrun
  refine ⟨told, ?_, ?_, hdebug⟩
  · rw [ofArguments, h]
    dsimp only
    rw [ofOptions, hrun]
    cases result <;> rfl
  · rw [framesRun, h]
    dsimp only
    rw [hrun]
    cases result <;> rfl

/-- A session that breaks down before its first frame ends the run. -/
theorem of_breakdown {breakdown : Breakdown} (h : Options.parse arguments = .ok options)
    (hstart : (Session.start parsers system options).Gives (.error breakdown)) :
    ∃ told, ofArguments parsers system arguments = ofBreakdown breakdown told ∧
      framesRun parsers system arguments = [] ∧ ∀ entry ∈ told, entry.level = .debug :=
  of_start h hstart

/-- The frames of a session that is set up are run. -/
theorem of_session {s : Session} (h : Options.parse arguments = .ok options)
    (hstart : (Session.start parsers system options).Gives (.ok s)) :
    ∃ told : List Entry, ofArguments parsers system arguments =
        ofFrames options.frames options.frames s told.toArray ∧
      framesRun parsers system arguments = s.frames options.frames ∧
      ∀ entry ∈ told, entry.level = .debug :=
  of_start h hstart

/-- Without a setting a session breaks down. -/
theorem start_of_unreadable {error : RunError}
    (hread : Setting.read parsers system.files options = .error error) :
    (Session.start parsers system options).Gives (.error (.error error)) := by
  have h := Session.gives_start parsers system options
  rw [hread] at h
  exact h

/-- With a setting a session begins, or it breaks down. -/
theorem start_of_setting {g : Setting}
    (hread : Setting.read parsers system.files options = .ok g) :
    (Session.start parsers system options).Gives (g.begin system options.keys) := by
  have h := Session.gives_start parsers system options
  rw [hread] at h
  exact h

end Outcome

end ChipEight.CommandLine
