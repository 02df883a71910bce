/-
# Tags, anchors and directives

The tokens that stand in front of a node or of a document.
-/
import ChipEight.Yaml.Cursor
import ChipEight.Yaml.Scalar.Flow
import ChipEight.Yaml.Token

namespace ChipEight.Yaml.Token

/-! ## Anchors and aliases -/

/-- Whether the name of an anchor may end before a character. -/
def endsAnchor (ch : Char) : Bool :=
  isBlank ch || isBreak ch || ch ∈ ['?', ':', ',', ']', '}', '%', '@', '\x60']

/-- Read the name of an anchor or an alias. -/
def readName (c : Cursor) : Except Error (String × Cursor) :=
  let (name, next) := c.span isWordChar
  if name.isEmpty || !next.peek.all endsAnchor then
    .error (.badAnchor next.line next.column)
  else
    .ok (String.ofList name, next)

/-! ## Tags -/

/-- The number of bytes of a character, by the first of them. -/
def encodedLength? (lead : UInt8) : Option Nat :=
  if lead < 0x80 then some 1
  else if 0xC0 ≤ lead && lead < 0xE0 then some 2
  else if 0xE0 ≤ lead && lead < 0xF0 then some 3
  else if 0xF0 ≤ lead && lead < 0xF8 then some 4
  else none

/-- Read a byte that is written as a percent sign and two hexadecimal digits. -/
def escapedByte? (c : Cursor) : Option UInt8 :=
  match c.rest with
  | '%' :: high :: low :: _ => (Quoted.ofHex? [high, low]).map Nat.toUInt8
  | _ => none

/-- Read escaped bytes that continue a character, `count` of them. -/
def continuation? : Nat → Cursor → Option (List UInt8 × Cursor)
  | 0, c => some ([], c)
  | count + 1, c => do
    let byte ← escapedByte? c
    guard (0x80 ≤ byte && byte < 0xC0)
    let (bytes, next) ← continuation? count (c.skip 3)
    return (byte :: bytes, next)

/-- Read a character that is written as escaped bytes. Their number has to be the one that the first
of them asks for, but they need not stand for a character. -/
def escapedChar? (c : Cursor) : Option (List UInt8 × Cursor) := do
  let lead ← escapedByte? c
  let length ← encodedLength? lead
  let (bytes, next) ← continuation? (length - 1) (c.skip 3)
  return (lead :: bytes, next)

/-- Read the bytes of a tag, in which the characters that `p` holds of are written as they are. -/
def tagBytes (p : Char → Bool) : Nat → List UInt8 → Cursor → Except Error (List UInt8 × Cursor)
  | 0, bytes, c => .ok (bytes, c)
  | fuel + 1, bytes, c =>
    match c.peek with
    | some '%' =>
      match escapedChar? c with
      | some (escaped, next) => tagBytes p fuel (bytes ++ escaped) next
      | none => .error (.badTag c.line c.column)
    | some ch =>
      if p ch then tagBytes p fuel (bytes ++ String.utf8EncodeChar ch) (c.skip 1)
      else .ok (bytes, c)
    | none => .ok (bytes, c)

/-- Read the bytes of a tag behind those that are known, at least one if they are needed. -/
def readTagBytes (p : Char → Bool) (known : Tag) (needed : Bool) (c : Cursor) :
    Except Error (Tag × Cursor) := do
  let (bytes, next) ← tagBytes p (c.rest.length + 1) known.bytes c
  if bytes.isEmpty && needed then
    throw (.badTag next.line next.column)
  return (.ofBytes bytes, next)

/-- Read the handle of a tag: an exclamation mark, and maybe a word and another mark. -/
def readHandle (c : Cursor) : Except Error (List Char × Cursor) :=
  if c.startsWith '!' then
    let (name, next) := (c.skip 1).span isWordChar
    if next.startsWith '!' then
      .ok ('!' :: name ++ ['!'], next.skip 1)
    else
      .ok ('!' :: name, next)
  else
    .error (.badTag c.line c.column)

/-- Whether a handle is closed by a second exclamation mark. -/
def isClosedHandle (handle : List Char) : Bool :=
  decide (handle.length ≥ 2) && handle.getLast? == some '!'

/-- Read a tag: one written out in full, one with a handle, or one with the plain mark. A mark
alone is a tag of its own. -/
def readTag (inFlow : Bool) (c : Cursor) : Except Error (Token × Cursor) := do
  let (token, next) ←
    if c.peekAt 1 == some '<' then do
      let (suffix, next) ← readTagBytes isFullTagChar .empty true (c.skip 2)
      if !next.startsWith '>' then
        throw (.badTag next.line next.column)
      pure (tag "" suffix, next.skip 1)
    else do
      let (handle, next) ← readHandle c
      if isClosedHandle handle then do
        let (suffix, next) ← readTagBytes isTagChar .empty true next
        pure (tag (String.ofList handle) suffix, next)
      else do
        let known := Tag.ofText (String.ofList (handle.drop 1))
        let (suffix, next) ← readTagBytes isTagChar known false next
        pure (if suffix.isEmpty then tag "" .mark else tag "!" suffix, next)
  if next.spaceAt 0 || (inFlow && next.startsWith ',') then
    return (token, next)
  else
    throw (.badTag next.line next.column)

/-! ## Directives -/

/-- Read a number of at most nine digits. -/
def readNumber (c : Cursor) : Except Error (Nat × Cursor) :=
  let (digits, next) := c.span isDigit
  if digits.isEmpty || decide (digits.length > 9) then
    .error (.badDirective next.line next.column)
  else
    .ok (Nat.ofDigitChars 10 digits 0, next)

/-- Read the version in a directive: two numbers and a dot. -/
def readVersion (c : Cursor) : Except Error (Token × Cursor) := do
  let (major, next) ← readNumber (c.skipWhile isBlank)
  if !next.startsWith '.' then
    throw (.badDirective next.line next.column)
  let (minor, next) ← readNumber (next.skip 1)
  return (version major minor, next)

/-- Read the declaration of a tag handle. -/
def readTagHandle (c : Cursor) : Except Error (Token × Cursor) := do
  let (handle, next) ← readHandle (c.skipWhile isBlank)
  if !isClosedHandle handle && handle != ['!'] then
    throw (.badDirective next.line next.column)
  if !next.peek.any isBlank then
    throw (.badDirective next.line next.column)
  let (stem, next) ← readTagBytes isFullTagChar .empty true (next.skipWhile isBlank)
  if !next.spaceAt 0 then
    throw (.badDirective next.line next.column)
  return (tagHandle (String.ofList handle) stem, next)

/-- Read a directive with the rest of its line. -/
def readDirective (c : Cursor) : Except Error (Token × Cursor) := do
  let (name, next) := (c.skip 1).span isWordChar
  if name.isEmpty || !next.spaceAt 0 then
    throw (.badDirective next.line next.column)
  let (token, next) ←
    match String.ofList name with
    | "YAML" => readVersion next
    | "TAG" => readTagHandle next
    | _ => throw (.badDirective c.line c.column)
  return (token, ← next.finishLine .badDirective)

end ChipEight.Yaml.Token
