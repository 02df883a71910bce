/-
# The program

The command line on a real terminal: it reads the files that the arguments name, runs the session
frame by frame at the configured rate, rings the bell, and shows the log from the level of
information up. All decisions are made by the session.
-/
import ChipEight.CommandLine.Documents
import ChipEight.CommandLine.Outcome

open ChipEight ChipEight.CommandLine

namespace ChipEight.Main

/-- Show the important entries of a log. -/
def showLog (log : List Log.Entry) : IO Unit := do
  for entry in Log.atLeast .info log do
    IO.eprintln entry.line

/-- Show an outcome and give its exit code. -/
def showOutcome (o : Outcome) : IO UInt32 := do
  IO.print o.output
  showLog o.log
  return UInt32.ofNat o.code

/-- The number of an error of the system. Some calls give its negative. -/
def errorNumber (code : UInt32) : UInt32 := min code (0 - code)

/-- What a failed attempt to read a file tells about its path. -/
def openedOfError (error : IO.Error) : Except FileError Opened :=
  match error with
  | .noFileOrDirectory .. => .error .notFound
  | .inappropriateType _ code _ =>
    if errorNumber code = 21 then .ok .directory else .error .notDirectory
  | .invalidArgument _ code _ =>
    if errorNumber code = 36 then .error .nameTooLong else .error .zeroInPath
  | _ => .error (.other (toString error))

/-- Open a file and read it, if there is anything to read. -/
def openFile (path : String) : IO (Except FileError Opened) := do
  try
    return .ok (.file (← IO.FS.readBinFile path).toList)
  catch error =>
    return openedOfError error

/-- Open the files that options name. -/
def openFiles (options : Options) : IO Files := do
  let paths := options.file :: options.config.toList ++ options.keymap.toList
  let opened ← paths.mapM fun path => do return (path, ← openFile path)
  return fun path => (opened.lookup path).getD (.error .notFound)

/-- Ring the bell a number of times. -/
def ring (times : Nat) : IO Unit := do
  for _ in [0:times] do
    IO.eprint "\x07"

/-- Wait until an interval after the last frame has passed, and give the time of this one. -/
def awaitFrame (last interval : Nat) : IO Nat := do
  let now ← IO.monoNanosNow
  let passed := now - last
  if passed < interval then
    IO.sleep (UInt32.ofNat ((interval - passed + 999999) / 1000000))
    IO.monoNanosNow
  else
    return now

/-- Run the frames that are left, and give the exit code. -/
def runFrames (total began : Nat) : Nat → Nat → Session → IO UInt32
  | 0, _, s => do
    let elapsed := (← IO.monoNanosNow) - began
    showOutcome {
      code := 0
      output := Session.picture s.machine
      log := Session.closingLog s.machine total (some elapsed) }
  | count + 1, last, s => do
    let now ← awaitFrame last s.machine.config.frameNanos
    let frame := s.frame
    showLog frame.log
    ring (frame.session.bell.rings - s.bell.rings)
    match frame.failure with
    | none => runFrames total began count now frame.session
    | some failure =>
      let output := if failure.isFault then Session.picture frame.session.machine else ""
      showOutcome (.ofError (.machine failure) output 0 [])

/-- Random bits of the system, as a key. -/
def randomKey : IO Random.Key := do
  let bytes := (← IO.getRandomBytes 32).toList
  return .ofFn fun i => (bytes.drop (4 * i)).take 4 |>.foldr (fun b w => w * 256 + b.toUInt32) 0

/-- The system that a run with given options finds. Memory is granted until there is no more. -/
def openSystem (options : Options) : IO System := do
  return { files := ← openFiles options, entropy := ← randomKey, grants := fun _ => true }

/-- Run a session. -/
def run (options : Options) : IO UInt32 := do
  match (Session.start .yaml (← openSystem options) options).run.run [] with
  | (.error breakdown, log) => showOutcome (.ofBreakdown breakdown log)
  | (.ok session, log) =>
    showLog log
    let began ← IO.monoNanosNow
    runFrames options.frames began options.frames began session

end ChipEight.Main

/-- Run the program with its arguments. -/
def main (arguments : List String) : IO UInt32 :=
  match Options.parse arguments with
  | .error rejection => ChipEight.Main.showOutcome (.ofRejection rejection)
  | .ok options => ChipEight.Main.run options
