/-
# Log entries

What the machine and the command line tell their user besides their results: lines of text, each
with a level of importance.
-/

namespace ChipEight.Log

/-- How important an entry is, from the least to the most. -/
inductive Level where
  | trace
  | debug
  | info
  | warn
  | error
  deriving DecidableEq, Repr

/-- The position of a level in the order of importance. -/
def Level.rank : Level → Nat
  | trace => 0
  | debug => 1
  | info => 2
  | warn => 3
  | error => 4

/-- The word that a level is shown by. -/
def Level.name : Level → String
  | trace => "TRACE"
  | debug => "DEBUG"
  | info => "INFO"
  | warn => "WARN"
  | error => "ERROR"

/-- One entry of a log. -/
structure Entry where
  /-- How important the entry is. -/
  level : Level
  /-- What the entry says. -/
  message : String
  deriving DecidableEq, Repr

/-- The entry as one line: its level, a blank and its message. -/
def Entry.line (e : Entry) : String :=
  e.level.name ++ " " ++ e.message

/-- The entries of a log that are at least as important as a level. -/
def atLeast (threshold : Level) (log : List Entry) : List Entry :=
  log.filter fun e => decide (threshold.rank ≤ e.level.rank)

end ChipEight.Log
