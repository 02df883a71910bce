/-
# Scalars inside of lines

Plain scalars and quoted ones. Both may go over several lines. A line separator between two lines
is folded into a blank; of several separators all but the first are kept.
-/
import ChipEight.Yaml.Cursor

namespace ChipEight.Yaml

/-! ## White space between the lines of a scalar -/

/-- White space inside of a scalar, while it is being read. -/
structure Gap where
  /-- Blanks before the first line separator. -/
  blanks : List Char := []
  /-- The first line separator, if the line ended. -/
  first : List Char := []
  /-- Whether the line ended. -/
  broken : Bool := false
  /-- The line separators after the first one. -/
  further : List Char := []

namespace Gap

/-- What becomes of white space between two words. -/
def fold (g : Gap) : List Char :=
  if g.broken then
    if g.first.head? == some '\n' then
      if g.further.isEmpty then [' '] else g.further
    else
      g.first ++ g.further
  else
    g.blanks

/-- Read a line separator. -/
def addBreak (g : Gap) (separator : List Char) : Gap :=
  if g.broken then
    { g with further := g.further ++ separator }
  else
    { g with blanks := [], first := separator, broken := true }

/-- Read white space. Tabs are refused left of the column `margin` of a new line. -/
def read (margin : Nat) : Nat → Gap → Cursor → Except Error (Gap × Cursor)
  | 0, g, c => .ok (g, c)
  | fuel + 1, g, c =>
    match c.peek with
    | none => .ok (g, c)
    | some ch =>
      if isBlank ch then
        if g.broken && ch == '\t' && decide (c.column < margin) then
          .error (.tabIndentation c.line c.column)
        else
          let g := if g.broken then g else { g with blanks := g.blanks ++ [ch] }
          read margin fuel g (c.skip 1)
      else if isBreak ch then
        let (separator, next) := c.readBreak
        read margin fuel (g.addBreak separator) next
      else
        .ok (g, c)

end Gap

/-! ## Plain scalars -/

namespace Plain

/-- Whether a plain scalar ends before the next character of a word. -/
def endsBefore (inFlow : Bool) (c : Cursor) : Bool :=
  c.spaceAt 0 || (c.startsWith ':' && c.spaceAt 1) || (inFlow && c.peek.any isFlowIndicator)

/-- Whether a colon stands before an indicator of a flow collection, where it is refused. -/
def badColon (inFlow : Bool) (c : Cursor) : Bool :=
  inFlow && c.startsWith ':' && (c.peekAt 1).any fun ch => isFlowIndicator ch || ch == '?'

/-- Read the characters of a word. -/
def word (inFlow : Bool) : Nat → List Char → Cursor → Except Error (List Char × Cursor)
  | 0, text, c => .ok (text, c)
  | fuel + 1, text, c =>
    if badColon inFlow c then
      .error (.unexpectedCharacter ':' c.line c.column)
    else if endsBefore inFlow c then
      .ok (text, c)
    else
      word inFlow fuel (text ++ c.peek.toList) (c.skip 1)

/-- Read words and the white space between them. Also tells whether the last white space ended a
line. -/
def words (inFlow : Bool) (margin : Nat) :
    Nat → List Char → Gap → Cursor → Except Error (List Char × Bool × Cursor)
  | 0, text, gap, c => .ok (text, gap.broken, c)
  | fuel + 1, text, gap, c => do
    if c.atDocumentMarker || c.startsWith '#' then
      return (text, gap.broken, c)
    let (read, next) ← word inFlow (c.rest.length + 1) [] c
    let (text, gap) := if read.isEmpty then (text, gap) else (text ++ gap.fold ++ read, {})
    if next.atEnd || !next.spaceAt 0 then
      return (text, gap.broken, next)
    let (gap, next) ← gap.read margin (next.rest.length + 1) next
    if !inFlow && decide (next.column < margin) then
      return (text, gap.broken, next)
    words inFlow margin fuel text gap next

/-- Read a plain scalar. Also tells whether it was followed by the end of a line. -/
def read (inFlow : Bool) (margin : Nat) (c : Cursor) : Except Error (String × Bool × Cursor) := do
  let (text, broken, next) ← words inFlow margin (c.rest.length + 1) [] {} c
  return (String.ofList text, broken, next)

end Plain

/-! ## Quoted scalars -/

namespace Quoted

/-- The character that an escape of one letter stands for. -/
def simpleEscape? : Char → Option Char
  | '0' => some '\x00'
  | 'a' => some '\x07'
  | 'b' => some '\x08'
  | 't' | '\t' => some '\t'
  | 'n' => some '\n'
  | 'v' => some '\x0B'
  | 'f' => some '\x0C'
  | 'r' => some '\r'
  | 'e' => some '\x1B'
  | ' ' => some ' '
  | '\x22' => some '\x22'
  | '/' => some '/'
  | '\\' => some '\\'
  | 'N' => some '\u0085'
  | '_' => some '\u00A0'
  | 'L' => some '\u2028'
  | 'P' => some '\u2029'
  | _ => none

/-- The number of hexadecimal digits behind an escape. -/
def escapeDigits? : Char → Option Nat
  | 'x' => some 2
  | 'u' => some 4
  | 'U' => some 8
  | _ => none

/-- The character with a code, unless the code is half of a surrogate pair or too large. -/
def charOfCode? (code : Nat) : Option Char :=
  if h : code.isValidChar then some (Char.ofNatAux code h) else none

/-- The number that hexadecimal digits stand for. -/
def ofHex? (digits : List Char) : Option Nat :=
  digits.foldlM (fun n d => (hexValue? d).map (16 * n + ·)) 0

/-- Read what follows a backslash. -/
def escape (c : Cursor) : Except Error (Char × Cursor) :=
  match c.peek with
  | none => .error (.unexpectedEnd c.line c.column)
  | some letter =>
    match simpleEscape? letter, escapeDigits? letter with
    | some ch, _ => .ok (ch, c.skip 1)
    | none, some count =>
      let digits := (c.skip 1).rest.take count
      match (if digits.length = count then ofHex? digits else none).bind charOfCode? with
      | some ch => .ok (ch, c.skip (1 + count))
      | none => .error (.badEscape c.line c.column)
    | none, none => .error (.badEscape c.line c.column)

/-- Read the characters of a word, up to white space, the closing quote or an escaped line
separator. The latter begins a gap that leaves nothing behind. -/
def word (quote : Char) : Nat → List Char → Cursor → Except Error (List Char × Gap × Cursor)
  | 0, text, c => .ok (text, {}, c)
  | fuel + 1, text, c =>
    match c.peek with
    | none => .ok (text, {}, c)
    | some ch =>
      if isBlank ch || isBreak ch then
        .ok (text, {}, c)
      else if ch == quote then
        if quote == '\x27' && c.peekAt 1 == some '\x27' then
          word quote fuel (text ++ ['\x27']) (c.skip 2)
        else
          .ok (text, {}, c)
      else if quote == '\x22' && ch == '\\' then
        if (c.peekAt 1).any isBreak then
          .ok (text, { broken := true }, (c.skip 1).skipBreak)
        else do
          let (escaped, next) ← escape (c.skip 1)
          word quote fuel (text ++ [escaped]) next
      else
        word quote fuel (text ++ [ch]) (c.skip 1)

/-- Read words and the white space between them, up to the closing quote. -/
def words (quote : Char) : Nat → List Char → Cursor → Except Error (List Char × Cursor)
  | 0, _, c => .error (.unexpectedEnd c.line c.column)
  | fuel + 1, text, c => do
    if c.atDocumentMarker then
      throw (.unexpectedDocument c.line c.column)
    if c.atEnd then
      throw (.unexpectedEnd c.line c.column)
    let (read, gap, next) ← word quote (c.rest.length + 1) [] c
    let text := text ++ read
    if next.startsWith quote then
      return (text, next.skip 1)
    let (gap, next) ← gap.read 0 (next.rest.length + 1) next
    words quote fuel (text ++ gap.fold) next

/-- Read a scalar behind its opening quote. -/
def read (quote : Char) (c : Cursor) : Except Error (String × Cursor) := do
  let (text, next) ← words quote (c.rest.length + 1) [] c
  return (String.ofList text, next)

end Quoted

end ChipEight.Yaml
