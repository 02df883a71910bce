/-
# Outcomes

What a whole run of the command line leaves behind: an exit code, the standard output, the number
of times that the bell rang, and the log.
-/
import ChipEight.CommandLine.Session
import ChipEight.CommandLine.Usage

namespace ChipEight.CommandLine

open Log

/-- What a run of the command line leaves behind. -/
structure Outcome where
  /-- The exit code. -/
  code : Nat
  /-- The standard output. -/
  output : String := ""
  /-- How often the bell rang. -/
  rings : Nat := 0
  /-- The log. -/
  log : List Entry

namespace Outcome

/-- The exit code of a run that ends with an error. -/
def failed : Nat := 1

/-- The exit code of rejected arguments. -/
def misused : Nat := 64

/-- The exit code of a run for which there is no memory. To ask for more than can be had is a panic,
and a run to which the system refuses memory is aborted. -/
def starved : Shortage → Nat
  | .capacity => 101
  | .refused => 134

/-- The outcome of rejected arguments. -/
def ofRejection (r : Rejection) : Outcome :=
  { code := misused, output := usage, log := r.log }

/-- The outcome of a run that ends with an error. -/
def ofError (error : RunError) (output : String) (rings : Nat) (log : List Entry) : Outcome :=
  { code := failed, output, rings, log := log ++ [⟨.error, error.message⟩] }

/-- The outcome of a run that comes to no frame. A shortage of memory is not logged. -/
def ofBreakdown : Breakdown → List Entry → Outcome
  | .error error, log => ofError error "" 0 log
  | .shortage shortage, log => { code := starved shortage, log }

/-- Run the frames that are left, and give the outcome. A fault shows what the program drew before
it halted. -/
def ofFrames (total : Nat) : Nat → Session → Array Entry → Outcome
  | 0, s, log =>
    { code := 0
      output := Session.picture s.machine
      rings := s.bell.rings
      log := log.toList ++ Session.closingLog s.machine total none }
  | count + 1, s, log =>
    let frame := s.frame
    let log := log ++ frame.log
    match frame.failure with
    | none => ofFrames total count frame.session log
    | some failure =>
      ofError (.machine failure)
        (if failure.isFault then Session.picture frame.session.machine else "")
        frame.session.bell.rings log.toList

/-- The outcome of a run with given options. -/
def ofOptions (parsers : Parsers) (system : System) (options : Options) : Outcome :=
  match (Session.start parsers system options).run.run [] with
  | (.error breakdown, log) => ofBreakdown breakdown log
  | (.ok session, log) => ofFrames options.frames options.frames session log.toArray

/-- The outcome of a run with given arguments. -/
def ofArguments (parsers : Parsers) (system : System) (arguments : List String) : Outcome :=
  match Options.parse arguments with
  | .error rejection => ofRejection rejection
  | .ok options => ofOptions parsers system options

end Outcome

end ChipEight.CommandLine
