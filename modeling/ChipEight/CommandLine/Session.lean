/-
# Sessions

A session runs a program from the command line: it reads the configuration, the key map and the
program, in this order, switches a machine on, loads the program, and then runs frame after frame.
Each typed key is held down for a single frame; characters without a key cost no frame.
-/
import ChipEight.CommandLine.Arguments
import ChipEight.KeyMap
import ChipEight.Machine.Action
import ChipEight.Text.Quoted
import ChipEight.Tone

namespace ChipEight.CommandLine

open Log

/-! ## Errors -/

/-- Why a session ends early. -/
inductive RunError where
  /-- An operation of the machine failed. -/
  | machine (failure : Failure)
  /-- A file could not be opened, or a program could not be read. -/
  | unreadable (error : FileError)
  /-- A configuration or a key map was opened but could not be read. -/
  | unreadableConfig (error : FileError)
  /-- A configuration or a key map is refused. -/
  | invalidConfig (reason : String)
  deriving DecidableEq, Repr

/-- The error in words. -/
def RunError.message : RunError → String
  | machine failure => "application error: " ++ failure.message
  | unreadable error => "application error: " ++ error.message
  | unreadableConfig error => "application error: invalid config: " ++ error.message
  | invalidConfig reason => "application error: invalid config: " ++ reason

/-- Why a session does not come to its first frame. -/
inductive Breakdown where
  /-- An error ends it. -/
  | error (error : RunError)
  /-- There is no memory for its machine. -/
  | shortage (shortage : Shortage)
  deriving DecidableEq, Repr

/-! ## Setting up -/

/-- How documents are understood. One that is not is refused with a reason. -/
structure Parsers where
  /-- The parameters that a document describes. -/
  config : List UInt8 → Except String Config
  /-- The key definitions that a document describes. -/
  keymap : List UInt8 → Except String (List KeyDefinition)

/-- A computation that logs and may break down. -/
abbrev Setup := ExceptT Breakdown (StateM (List Entry))

namespace Setup

/-- Log entries. -/
def logAll (entries : List Entry) : Setup Unit := modify (· ++ entries)

/-- End with an error. -/
def fail {α : Type} (error : RunError) : Setup α := throw (.error error)

/-- Open a file. -/
def openFile (files : Files) (path : String) : Setup Opened :=
  match files path with
  | .ok opened => pure opened
  | .error error => fail (.unreadable error)

/-- Read a file. -/
def readFile (files : Files) (path : String) : Setup (List UInt8) := do
  match (← openFile files path).read with
  | .ok bytes => return bytes
  | .error error => fail (.unreadable error)

/-- Read what a document describes. Whatever is wrong with a document that could be opened makes it
an invalid one. -/
def readDocument {α : Type} (parse : List UInt8 → Except String α) (files : Files)
    (path : String) : Setup α := do
  match (← openFile files path).read with
  | .error error => fail (.unreadableConfig error)
  | .ok bytes =>
    match parse bytes with
    | .ok value => return value
    | .error reason => fail (.invalidConfig reason)

/-- The configuration that the options ask for. -/
def readConfig (parsers : Parsers) (files : Files) (options : Options) : Setup Config := do
  let config ←
    match options.config with
    | none => pure {}
    | some file => do
      let config ← readDocument parsers.config files file
      logAll [⟨.debug, "loaded config"⟩]
      pure config
  return { config with speed := options.speed.getD config.speed }

/-- The key map that the options ask for. -/
def readKeyMap (parsers : Parsers) (files : Files) (options : Options) : Setup KeyMap :=
  match options.keymap with
  | none => pure KeyMap.qwerty
  | some file => do
    let definitions ← readDocument parsers.keymap files file
    logAll [⟨.debug, "loaded key definitions"⟩]
    return .ofDefinitions definitions

/-- Switch the machine on. -/
def switchOn (system : System) (config : Config) : Setup Machine :=
  match Machine.switchOn system config with
  | .ok machine => pure machine
  | .error shortage => throw (.shortage shortage)

end Setup

/-! ## Frames -/

/-- The state of a session between two frames. -/
structure Session where
  /-- The machine. -/
  machine : Machine
  /-- The bell. -/
  bell : Bell := {}
  /-- The key map. -/
  keymap : KeyMap
  /-- The characters that are still to be typed. -/
  typed : List Char
  /-- The key of the last frame. -/
  held : Option Key := none

namespace Session

/-- Set a session up. -/
def start (parsers : Parsers) (system : System) (options : Options) : Setup Session := do
  let config ← Setup.readConfig parsers system.files options
  let keymap ← Setup.readKeyMap parsers system.files options
  let program ← Setup.readFile system.files options.file
  let machine ← Setup.switchOn system config
  let reaction := machine.load program
  Setup.logAll (reaction.events.filterMap Event.entry?)
  match reaction.result with
  | .error failure => Setup.fail (.machine failure)
  | .ok () =>
    Setup.logAll [⟨.debug, "program:\n" ++ reaction.machine.listing (program.length + 1)⟩]
    return { machine := reaction.machine, keymap, typed := options.keys.toList }

/-- What is logged about a character without a key. -/
def unmapped (c : Char) : Entry := ⟨.warn, "no keypad mapping for " ++ Text.quoteChar c⟩

/-- The key of the next character that has one, the characters passed over, and those left. -/
def nextKey (keymap : KeyMap) : List Char → Option Key × List Char × List Char
  | [] => (none, [], [])
  | c :: rest =>
    match keymap.find? c with
    | some key => (some key, [], rest)
    | none =>
      let (key, skipped, rest) := nextKey keymap rest
      (key, c :: skipped, rest)

/-- What is done before a frame. -/
structure Typing where
  /-- The session afterwards. -/
  session : Session
  /-- The calls on the keypad, in order. -/
  calls : List Keypad.Call
  /-- The log. -/
  log : List Entry

/-- Release the key of the last frame and press the next one. -/
def typeNext (s : Session) : Typing :=
  let (machine, released) : Machine × List Keypad.Call := match s.held with
    | some key => (s.machine.releaseKey key, [.release key])
    | none => (s.machine, [])
  let (key, skipped, typed) := nextKey s.keymap s.typed
  let warnings := skipped.map unmapped
  match key with
  | none =>
    { session := { s with machine, typed, held := none }, calls := released, log := warnings }
  | some key =>
    let (machine, events) := machine.pressKey key
    { session := { s with machine, typed, held := some key }
      calls := released ++ [.press key]
      log := warnings ++ events.filterMap Event.entry? }

/-- What is logged about the keys that are held down. -/
def heldEntries (m : Machine) : List Entry :=
  let keys := m.keypad.dump
  if keys.isEmpty then [] else [⟨.debug, keys⟩]

/-- What is logged about the registers of a machine that a fault halted. -/
def registersEntry (m : Machine) : Entry :=
  ⟨.debug, "pc: " ++ Text.upperHex 3 m.pc ++ " registers: [" ++
    ", ".intercalate (m.registers.toList.map fun b => Text.upperHex 2 b.toNat) ++ "]"⟩

/-- What is written after the last frame: the screen and an empty line. -/
def picture (m : Machine) : String := m.screen.dump ++ "\n"

/-- What a frame leaves behind. -/
structure Frame where
  /-- Whether it failed, and how. -/
  failure : Option Failure
  /-- The session afterwards. -/
  session : Session
  /-- The calls on the keypad before the cycle, in order. -/
  calls : List Keypad.Call
  /-- The log. -/
  log : List Entry

/-- Run a frame. -/
def frame (s : Session) : Frame :=
  let { session := s, calls, log := typing } := s.typeNext
  let reaction := s.machine.cycle
  let (bell, running) := ToneDevice.hearAll s.bell reaction.events
  let log := typing ++ heldEntries s.machine ++ running
  let session := { s with machine := reaction.machine, bell }
  match reaction.result with
  | .ok () => { failure := none, session, calls, log }
  | .error failure =>
    { failure := some failure
      session
      calls
      log := if failure.isFault then log ++ [registersEntry reaction.machine] else log }

/-- The text of a time in milliseconds, from nanoseconds, without trailing zeros. -/
def milliseconds (nanos : Nat) : String :=
  let decimals := (Nat.toDigits 10 (nanos % 1000000)).leftpad 6 '0'
  let decimals := (decimals.reverse.dropWhile (· == '0')).reverse
  (nanos / 1000000).repr ++
    (if decimals.isEmpty then "" else "." ++ String.ofList decimals)

/-- What is logged when all frames have been run, with the time that they took if it is known. -/
def closingLog (m : Machine) (frames : Nat) (elapsed : Option Nat) : List Entry :=
  let time := match elapsed with
    | some nanos => " in " ++ milliseconds nanos ++ "ms"
    | none => ""
  ⟨.info, "ran " ++ frames.repr ++ " frames" ++ time⟩ ::
    if m.isPaused then [⟨.info, "program is waiting for a key press"⟩] else []

end Session

end ChipEight.CommandLine
