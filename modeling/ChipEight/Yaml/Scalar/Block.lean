/-
# Block scalars

Scalars that are told by their indentation. Literal ones keep their line separators; folded ones
join the lines that are not indented further. The header says what becomes of the last separators.
-/
import ChipEight.Yaml.Cursor
import ChipEight.Yaml.Token

namespace ChipEight.Yaml.Block

/-- What becomes of the line separators at the end of a block scalar. -/
inductive Chomping where
  /-- All of them go. -/
  | strip
  /-- The first one stays. -/
  | clip
  /-- All of them stay. -/
  | keep
  deriving DecidableEq, Repr

/-- The header of a block scalar. -/
structure Header where
  /-- What becomes of the last line separators. -/
  chomping : Chomping := .clip
  /-- How far the lines are indented, or zero if the first line tells. -/
  increment : Nat := 0

/-- Read the sign in a header, if one comes next. -/
def chomping? (c : Cursor) : Option Chomping :=
  if c.startsWith '+' then some .keep else if c.startsWith '-' then some .strip else none

/-- Read the digit in a header, zero if none comes next. A written zero is refused. -/
def increment (c : Cursor) : Except Error (Nat × Cursor) :=
  match c.peek.filter isDigit with
  | none => .ok (0, c)
  | some '0' => .error (.badHeader c.line c.column)
  | some d => .ok (d.toNat - '0'.toNat, c.skip 1)

/-- Read the sign and the digit of a header, in either order, and the rest of the line. -/
def header (c : Cursor) : Except Error (Header × Cursor) := do
  let (header, next) ←
    match chomping? c with
    | some chomping => do
      let (increment, next) ← increment (c.skip 1)
      pure ({ chomping, increment : Header }, next)
    | none => do
      let (increment, next) ← increment c
      match chomping? next with
      | some chomping => pure ({ chomping, increment : Header }, next.skip 1)
      | none => pure ({ increment : Header }, next)
  return (header, ← next.finishLine .badHeader)

/-- Skip indentation and empty lines. The indentation is zero as long as no line has told it.
Gives the line separators, the column farthest to the right, and the place behind. -/
def emptyLines (indent : Nat) :
    Nat → List Char → Nat → Cursor → Except Error (List Char × Nat × Cursor)
  | 0, breaks, widest, c => .ok (breaks, widest, c)
  | fuel + 1, breaks, widest, c =>
    let blanks := c.rest.takeWhile (· == ' ')
    let next := c.skip (if indent = 0 then blanks.length else min blanks.length (indent - c.column))
    let widest := max widest next.column
    if (indent = 0 || next.column < indent) && next.startsWith '\t' then
      .error (.tabIndentation next.line next.column)
    else if next.peek.any isBreak then
      let (separator, next) := next.readBreak
      emptyLines indent fuel (breaks ++ separator) widest next
    else
      .ok (breaks, widest, next)

/-- What is known after a line of a block scalar. -/
structure Progress where
  /-- The text so far, without the separators behind the last line. -/
  text : List Char := []
  /-- The separator behind the last line. -/
  separator : List Char := []
  /-- The separators of empty lines after that. -/
  empties : List Char := []
  /-- Whether the last line began with a blank. -/
  indented : Bool := false

/-- What stands between the lines read and a next line. -/
def Progress.join (p : Progress) (style : Style) (indented : Bool) : List Char :=
  if style = .folded && p.separator.head? == some '\n' && !p.indented && !indented then
    (if p.empties.isEmpty then [' '] else []) ++ p.empties
  else
    p.separator ++ p.empties

/-- Read the lines of a block scalar. -/
def lines (style : Style) (indent : Nat) :
    Nat → Progress → Cursor → Except Error (Progress × Cursor)
  | 0, p, c => .ok (p, c)
  | fuel + 1, p, c =>
    if c.column = indent && !c.atEnd then do
      let indented := c.peek.any isBlank
      let (line, next) := c.span (fun ch => !isBreak ch)
      let (separator, next) := next.readBreak
      let (empties, _, next) ← emptyLines indent (next.rest.length + 1) [] 0 next
      lines style indent fuel
        { text := p.text ++ p.join style indented ++ line, separator, empties, indented } next
    else
      .ok (p, c)

/-- Read a block scalar behind its indicator. Content stands at the column `margin` or right of
it. -/
def read (style : Style) (margin : Nat) (c : Cursor) : Except Error (String × Cursor) := do
  let (header, next) ← header c
  let given := if header.increment = 0 then 0 else margin - 1 + header.increment
  let (empties, widest, next) ← emptyLines given (next.rest.length + 1) [] 0 next
  let indent := if given = 0 then max widest (max margin 1) else given
  let (p, next) ← lines style indent (next.rest.length + 1) { empties } next
  let tail :=
    match header.chomping with
    | .strip => []
    | .clip => p.separator
    | .keep => p.separator ++ p.empties
  return (String.ofList (p.text ++ tail), next)

end ChipEight.Yaml.Block
