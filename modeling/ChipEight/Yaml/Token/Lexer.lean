/-
# From text to tokens

The lexer keeps the indentation of the open collections and, for every level of brackets, the
place at which a key may have begun. Whether a scalar is a key shows only when a colon follows;
the tokens of the key and of its mapping are then put in front of it.
-/
import ChipEight.Yaml.Scalar.Block
import ChipEight.Yaml.Token.Tag

namespace ChipEight.Yaml

/-- A place at which a key may have begun. -/
structure Candidate where
  /-- The number of tokens in front of it. -/
  position : Nat
  /-- Whether nothing but a key may stand there. -/
  required : Bool
  /-- The place in the text. -/
  start : Cursor

/-- The state of the lexer. -/
structure Lexer where
  /-- What is left to read. -/
  cursor : Cursor
  /-- The tokens so far. -/
  tokens : Array Token := #[]
  /-- The first column that is inside of the innermost collection told by indentation; zero outside
  of all of them. -/
  margin : Nat := 0
  /-- The margins of the enclosing collections. -/
  outerMargins : List Nat := []
  /-- The candidate for a key at this level of brackets. -/
  candidate : Option Candidate := none
  /-- The candidates at the enclosing levels. -/
  outerCandidates : List (Option Candidate) := []
  /-- Whether a key may begin here. -/
  keyAllowed : Bool := true

namespace Lexer

/-- Whether the lexer is inside of brackets. -/
def inFlow (l : Lexer) : Bool := !l.outerCandidates.isEmpty

/-- Append a token. -/
def emit (l : Lexer) (t : Token) : Lexer := { l with tokens := l.tokens.push t }

/-- Insert a token behind the first `position` tokens. -/
def insert (l : Lexer) (position : Nat) (t : Token) : Lexer :=
  { l with tokens := l.tokens.insertIdxIfInBounds position t }

/-- Move to a place in the text. -/
def moveTo (l : Lexer) (c : Cursor) : Lexer := { l with cursor := c }

/-- Skip characters and append a token. -/
def take (l : Lexer) (k : Nat) (t : Token) : Lexer :=
  (l.moveTo (l.cursor.skip k)).emit t

/-! ## White space -/

/-- Skip white space and comments in front of a token. Tabs are skipped where they cannot be
mistaken for indentation. A new line outside of brackets is a place for a key. -/
def skipSpace : Nat → Lexer → Lexer
  | 0, l => l
  | fuel + 1, l =>
    let c := l.cursor
    let c := if c.column = 0 && c.startsWith '\ufeff' then c.skip 1 else c
    let c := c.skipWhile fun ch => ch == ' ' || (ch == '\t' && (l.inFlow || !l.keyAllowed))
    let c := if c.startsWith '#' then c.skipWhile (fun ch => !isBreak ch) else c
    if c.peek.any isBreak then
      skipSpace fuel { l with cursor := c.skipBreak, keyAllowed := l.keyAllowed || !l.inFlow }
    else
      l.moveTo c

/-! ## Candidates for keys -/

/-- The error of a key without a colon. -/
def missingColon (k : Candidate) : Error := .missingColon k.start.line k.start.column

/-- Forget the candidate of this level, unless only a key may stand there. -/
def dropCandidate (l : Lexer) : Except Error Lexer :=
  match l.candidate with
  | some k => if k.required then .error (missingColon k) else .ok { l with candidate := none }
  | none => .ok l

/-- Take the present place as the candidate for a key, if a key may begin here. -/
def saveCandidate (l : Lexer) : Except Error Lexer :=
  if l.keyAllowed then do
    let l ← l.dropCandidate
    return { l with
      candidate := some {
        position := l.tokens.size
        required := !l.inFlow && l.margin == l.cursor.column + 1
        start := l.cursor } }
  else
    .ok l

/-- Whether the text has moved too far beyond a candidate: to another line, or by more than 1024
bytes. -/
def isStale (c : Cursor) (k : Candidate) : Bool :=
  k.start.line < c.line || k.start.index + 1024 < c.index

/-- A candidate, unless it is stale. -/
def refresh (c : Cursor) : Option Candidate → Except Error (Option Candidate)
  | some k =>
    if isStale c k then
      if k.required then .error (missingColon k) else .ok none
    else
      .ok (some k)
  | none => .ok none

/-- Forget the stale candidates of all levels. -/
def dropStale (l : Lexer) : Except Error Lexer := do
  let candidate ← refresh l.cursor l.candidate
  let outerCandidates ← l.outerCandidates.mapM (refresh l.cursor)
  return { l with candidate, outerCandidates }

/-! ## Indentation -/

/-- Begin a collection at a column, if the column is right of the enclosing one. Its token goes to
a position among the tokens. -/
def indent (l : Lexer) (column position : Nat) (t : Token) : Lexer :=
  if !l.inFlow && l.margin ≤ column then
    { l.insert position t with margin := column + 1, outerMargins := l.margin :: l.outerMargins }
  else
    l

/-- End the collections whose content would begin right of the first `margin` columns. -/
def unindentFrom (margin current : Nat) (tokens : Array Token) :
    List Nat → Nat × List Nat × Array Token
  | [] => (current, [], tokens)
  | outer :: rest =>
    if margin < current then
      unindentFrom margin outer (tokens.push .blockEnd) rest
    else
      (current, outer :: rest, tokens)

/-- End the collections that a token at a margin is not part of. -/
def unindent (l : Lexer) (margin : Nat) : Lexer :=
  if l.inFlow then
    l
  else
    let (margin, outerMargins, tokens) := unindentFrom margin l.margin l.tokens l.outerMargins
    { l with margin, outerMargins, tokens }

/-! ## Tokens -/

/-- Refuse a collection where none may begin. -/
def requireKeyAllowed (l : Lexer) : Except Error Unit :=
  if l.inFlow || l.keyAllowed then .ok ()
  else .error (.misplacedEntry l.cursor.line l.cursor.column)

/-- Read an opening bracket. -/
def openBracket (l : Lexer) (t : Token) : Except Error Lexer := do
  let l ← l.saveCandidate
  return { l.take 1 t with
    candidate := none
    outerCandidates := l.candidate :: l.outerCandidates
    keyAllowed := true }

/-- Read a closing bracket. -/
def closeBracket (l : Lexer) (t : Token) : Except Error Lexer := do
  let l ← l.dropCandidate
  let l := { l.take 1 t with keyAllowed := false }
  match l.outerCandidates with
  | [] => return l
  | candidate :: outerCandidates => return { l with candidate, outerCandidates }

/-- Read the comma between entries. -/
def comma (l : Lexer) : Except Error Lexer := do
  let l ← l.dropCandidate
  return { l.take 1 .flowEntry with keyAllowed := true }

/-- Read the hyphen of an entry. -/
def hyphen (l : Lexer) : Except Error Lexer := do
  l.requireKeyAllowed
  let l := l.indent l.cursor.column l.tokens.size .blockSequenceStart
  let l ← l.dropCandidate
  return { l.take 1 .blockEntry with keyAllowed := true }

/-- Read the question mark in front of a key. -/
def questionMark (l : Lexer) : Except Error Lexer := do
  l.requireKeyAllowed
  let l := l.indent l.cursor.column l.tokens.size .blockMappingStart
  let l ← l.dropCandidate
  return { l.take 1 .key with keyAllowed := !l.inFlow }

/-- Read the colon in front of a value. The candidate, if there is one, is its key. -/
def colon (l : Lexer) : Except Error Lexer := do
  match l.candidate with
  | some k =>
    let l := (l.insert k.position .key).indent k.start.column k.position .blockMappingStart
    return { l.take 1 .value with candidate := none, keyAllowed := false }
  | none =>
    l.requireKeyAllowed
    let l := l.indent l.cursor.column l.tokens.size .blockMappingStart
    return { l.take 1 .value with keyAllowed := !l.inFlow }

/-- Read the marker at the start or at the end of a document. -/
def marker (l : Lexer) (t : Token) : Except Error Lexer := do
  let l ← (l.unindent 0).dropCandidate
  return { l.take 3 t with keyAllowed := false }

/-- Read a directive. -/
def directive (l : Lexer) : Except Error Lexer := do
  let l ← (l.unindent 0).dropCandidate
  let (t, next) ← Token.readDirective l.cursor
  return { (l.moveTo next).emit t with keyAllowed := false }

/-- Read a token at which a key may begin. -/
def word (l : Lexer) (read : Cursor → Except Error (Token × Cursor)) : Except Error Lexer := do
  let l ← l.saveCandidate
  let (t, next) ← read l.cursor
  return { (l.moveTo next).emit t with keyAllowed := false }

/-- Read a plain scalar. After the end of a line a key may begin again. -/
def plain (l : Lexer) : Except Error Lexer := do
  let l ← l.saveCandidate
  let (text, broken, next) ← Plain.read l.inFlow l.margin l.cursor
  return { (l.moveTo next).emit (.scalar .plain text) with keyAllowed := broken }

/-- Read a block scalar. -/
def block (l : Lexer) (style : Style) : Except Error Lexer := do
  let l ← l.dropCandidate
  let (text, next) ← Block.read style l.margin (l.cursor.skip 1)
  return { (l.moveTo next).emit (.scalar style text) with keyAllowed := true }

/-- Whether a plain scalar may begin here. -/
def beginsPlain (l : Lexer) (ch : Char) : Bool :=
  !(isBlank ch || isBreak ch || isIndicator ch) ||
    (ch == '-' && !(l.cursor.peekAt 1).any isBlank) ||
    (!l.inFlow && (ch == '?' || ch == ':') && !l.cursor.spaceAt 1)

/-- Read the token that begins with a character. -/
def token (l : Lexer) (ch : Char) : Except Error Lexer :=
  let c := l.cursor
  if c.column = 0 && ch == '%' then l.directive
  else if c.atMarker '-' then l.marker .documentStart
  else if c.atMarker '.' then l.marker .documentEnd
  else
    let spaced := c.spaceAt 1
    match ch with
    | '[' => l.openBracket .flowSequenceStart
    | '\x7b' => l.openBracket .flowMappingStart
    | ']' => l.closeBracket .flowSequenceEnd
    | '\x7d' => l.closeBracket .flowMappingEnd
    | ',' => l.comma
    | '*' => l.word fun c => do
      let (name, next) ← Token.readName (c.skip 1)
      return (.reference name, next)
    | '&' => l.word fun c => do
      let (name, next) ← Token.readName (c.skip 1)
      return (.anchor name, next)
    | '!' => l.word (Token.readTag l.inFlow)
    | '\x27' => l.word fun c => do
      let (text, next) ← Quoted.read ch (c.skip 1)
      return (.scalar .singleQuoted text, next)
    | '\x22' => l.word fun c => do
      let (text, next) ← Quoted.read ch (c.skip 1)
      return (.scalar .doubleQuoted text, next)
    | _ =>
      if ch == '-' && spaced then l.hyphen
      else if ch == '?' && (l.inFlow || spaced) then l.questionMark
      else if ch == ':' && (l.inFlow || spaced) then l.colon
      else if ch == '|' && !l.inFlow then l.block .literal
      else if ch == '>' && !l.inFlow then l.block .folded
      else if l.beginsPlain ch then l.plain
      else .error (.unexpectedCharacter ch c.line c.column)

/-- End all collections at the end of the text. -/
def finish (l : Lexer) : Except Error Lexer := (l.unindent 0).dropCandidate

/-- Read tokens up to the end of the text. -/
def run : Nat → Lexer → Except Error Lexer
  | 0, l => .error (.unexpectedEnd l.cursor.line l.cursor.column)
  | fuel + 1, l => do
    let l := l.skipSpace (l.cursor.rest.length + 1)
    let l ← l.dropStale
    let l := l.unindent (l.cursor.column + 1)
    match l.cursor.peek with
    | none => l.finish
    | some ch => run fuel (← l.token ch)

end Lexer

/-- The tokens of a text. -/
def Token.ofText (text : List Char) : Except Error (List Token) := do
  match text.find? (fun c => !isAllowed c) with
  | some c => throw (.forbiddenCharacter c)
  | none =>
    let l ← Lexer.run (2 * text.length + 2) { cursor := { rest := text } }
    return l.tokens.toList

end ChipEight.Yaml
