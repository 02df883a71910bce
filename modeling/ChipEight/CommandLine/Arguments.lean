/-
# Arguments of the command line

The word `run`, the file of a program, and options, each of which is a flag and a value. Of an
option that is given more than once the last value counts.
-/
import ChipEight.Log

namespace ChipEight.CommandLine

/-- What a command line asks for. -/
structure Options where
  /-- The file of the program. -/
  file : String
  /-- The number of frames to run. -/
  frames : Nat := 600
  /-- The number of instructions per frame, in place of the configured one. -/
  speed : Option Nat := none
  /-- The characters to type. -/
  keys : String := ""
  /-- The file of the configuration. -/
  config : Option String := none
  /-- The file of the key map. -/
  keymap : Option String := none
  deriving DecidableEq, Repr

/-- Why a command line is rejected. -/
inductive Rejection where
  /-- A part is missing, or a number is malformed. -/
  | malformed
  /-- An argument stands in the place of a flag and is none. -/
  | unknownOption (argument : String)
  deriving DecidableEq, Repr

/-- What is logged about a rejection. -/
def Rejection.log : Rejection → List Log.Entry
  | malformed => []
  | unknownOption argument => [⟨.warn, "unknown option " ++ argument⟩]

/-- The value of a decimal digit. -/
def digitValue? (c : Char) : Option Nat :=
  if '0' ≤ c && c ≤ '9' then some (c.toNat - '0'.toNat) else none

/-- The number that digits stand for, if there are any. -/
def ofDigits? (digits : List Char) : Option Nat :=
  if digits.isEmpty then none
  else digits.foldlM (fun n c => (digitValue? c).map (10 * n + ·)) 0

/-- The 64-bit number that an argument stands for: decimal digits, with an optional plus sign in
front. -/
def number? (argument : String) : Option Nat :=
  let digits := match argument.toList with
    | '+' :: digits => digits
    | digits => digits
  (ofDigits? digits).filter (· < UInt64.size)

/-- A number, or the rejection of a malformed one. -/
def number (argument : String) : Except Rejection Nat :=
  match number? argument with
  | some n => .ok n
  | none => .error .malformed

namespace Options

/-- The flags. -/
def flags : List String := ["--frames", "--speed", "--keys", "--config", "--keymap"]

/-- Set the option of a flag. -/
def set (o : Options) (flag value : String) : Except Rejection Options :=
  match flag with
  | "--frames" => do return { o with frames := ← number value }
  | "--speed" => do return { o with speed := some (← number value) }
  | "--keys" => .ok { o with keys := value }
  | "--config" => .ok { o with config := some value }
  | "--keymap" => .ok { o with keymap := some value }
  | _ => .error (.unknownOption flag)

/-- Set options from left to right. -/
def setAll (o : Options) : List String → Except Rejection Options
  | [] => .ok o
  | [flag] => .error (if flag ∈ flags then .malformed else .unknownOption flag)
  | flag :: value :: rest => do setAll (← o.set flag value) rest

/-- The options of a command line. -/
def parse : List String → Except Rejection Options
  | "run" :: file :: rest => setAll { file } rest
  | _ => .error .malformed

end Options

end ChipEight.CommandLine
