/-
# Reading position

A place in the text of a document: what is left to read, and where that lies.
-/
import ChipEight.Yaml.Character
import ChipEight.Yaml.Error

namespace ChipEight.Yaml

/-- A place in a text. -/
structure Cursor where
  /-- What is left to read. -/
  rest : List Char
  /-- The number of bytes before this place. -/
  index : Nat := 0
  /-- The number of lines before this place. -/
  line : Nat := 0
  /-- The number of characters before this place in its line. -/
  column : Nat := 0

namespace Cursor

/-- The next character. -/
def peek (c : Cursor) : Option Char := c.rest.head?

/-- The character `k` places ahead. -/
def peekAt (c : Cursor) (k : Nat) : Option Char := c.rest[k]?

/-- Whether the next character is a given one. -/
def startsWith (c : Cursor) (ch : Char) : Bool := c.peek == some ch

/-- Whether the character `k` places ahead is a line separator or the text ends before it. -/
def breakAt (c : Cursor) (k : Nat) : Bool := (c.peekAt k).all isBreak

/-- Whether the character `k` places ahead is a blank or a line separator, or the text ends before
it. -/
def spaceAt (c : Cursor) (k : Nat) : Bool := (c.peekAt k).all fun ch => isBlank ch || isBreak ch

/-- Whether nothing is left. -/
def atEnd (c : Cursor) : Bool := c.rest.isEmpty

/-- The number of bytes that the next `k` characters take. -/
def byteCount (c : Cursor) (k : Nat) : Nat := (c.rest.take k).foldr (fun d n => d.utf8Size + n) 0

/-- Skip `k` characters of a line. -/
def skip (c : Cursor) (k : Nat) : Cursor :=
  { c with rest := c.rest.drop k, index := c.index + c.byteCount k, column := c.column + k }

/-- Read the characters of a line as long as they satisfy a condition. -/
def span (c : Cursor) (p : Char → Bool) : List Char × Cursor :=
  let taken := c.rest.takeWhile p
  (taken, c.skip taken.length)

/-- Skip the characters of a line as long as they satisfy a condition. -/
def skipWhile (c : Cursor) (p : Char → Bool) : Cursor := (c.span p).2

/-- Skip a number of characters and begin a new line. -/
def newLine (c : Cursor) (k : Nat) : Cursor :=
  { rest := c.rest.drop k, index := c.index + c.byteCount k, line := c.line + 1, column := 0 }

/-- Read a line separator, if one comes next. The separators of lines and paragraphs stay as they
are, and all others are read as a line feed. -/
def readBreak (c : Cursor) : List Char × Cursor :=
  match c.rest with
  | '\r' :: '\n' :: _ => (['\n'], c.newLine 2)
  | ch :: _ =>
    if ch == '\u2028' || ch == '\u2029' then ([ch], c.newLine 1)
    else if isBreak ch then (['\n'], c.newLine 1)
    else ([], c)
  | [] => ([], c)

/-- Skip a line separator, if one comes next. -/
def skipBreak (c : Cursor) : Cursor := c.readBreak.2

/-- Whether a marker between documents comes next: three hyphens or three dots at the start of a
line, and nothing behind them in the same word. -/
def atMarker (c : Cursor) (ch : Char) : Bool :=
  c.column == 0 && c.rest.take 3 == [ch, ch, ch] && c.spaceAt 3

/-- Whether a document begins or ends here. -/
def atDocumentMarker (c : Cursor) : Bool := c.atMarker '-' || c.atMarker '.'

/-- Skip blanks, a comment and the line separator behind them; refuse anything else. -/
def finishLine (c : Cursor) (error : Nat → Nat → Error) : Except Error Cursor :=
  let c := c.skipWhile isBlank
  let c := if c.startsWith '#' then c.skipWhile (fun ch => !isBreak ch) else c
  if c.breakAt 0 then .ok c.skipBreak else .error (error c.line c.column)

end Cursor

end ChipEight.Yaml
