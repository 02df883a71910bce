/-
# Errors of YAML documents

Why a text is not a document, or why a document does not describe what is asked for.
-/

namespace ChipEight.Yaml

/-- Why a text is refused. -/
inductive Error where
  /-- The bytes are not text. -/
  | notText
  /-- The text holds a character that no document may hold. -/
  | forbiddenCharacter (c : Char)
  /-- A line stops in the middle of a mapping: a colon is missing. -/
  | missingColon (line column : Nat)
  /-- A collection begins where none may begin. -/
  | misplacedEntry (line column : Nat)
  /-- A character cannot begin a token. -/
  | unexpectedCharacter (c : Char) (line column : Nat)
  /-- The text ends inside of a token. -/
  | unexpectedEnd (line column : Nat)
  /-- A document ends or begins inside of a token. -/
  | unexpectedDocument (line column : Nat)
  /-- A tab stands where blanks have to indent. -/
  | tabIndentation (line column : Nat)
  /-- An escape sequence is unknown or names no character. -/
  | badEscape (line column : Nat)
  /-- The header of a block scalar is malformed. -/
  | badHeader (line column : Nat)
  /-- A directive is unknown, malformed or repeated. -/
  | badDirective (line column : Nat)
  /-- The name of an anchor or an alias is missing or ends wrongly. -/
  | badAnchor (line column : Nat)
  /-- A tag is malformed. -/
  | badTag (line column : Nat)
  /-- A tag has a handle that was not declared. -/
  | unknownHandle (handle : String)
  /-- A part of the document is missing: a value, an entry or the end of a collection. -/
  | unexpectedToken
  /-- The text holds a second document. -/
  | secondDocument
  /-- An alias names no anchor before it. -/
  | unknownAnchor (name : String)
  /-- Aliases lead to one another too often. -/
  | repetition
  /-- A value has the wrong form. -/
  | unexpectedForm (expected : String)
  /-- A field is given twice. -/
  | duplicateField (name : String)
  /-- A field is missing. -/
  | missingField (name : String)
  deriving DecidableEq, Repr

/-- A place in the text, counted from one. -/
def placeText (line column : Nat) : String :=
  " at line " ++ (line + 1).repr ++ " column " ++ (column + 1).repr

/-- The error in words. -/
def Error.message : Error → String
  | notText => "the file is not valid UTF-8"
  | forbiddenCharacter c => "control character " ++ c.toNat.repr ++ " is not allowed"
  | missingColon l c => "expected a colon" ++ placeText l c
  | misplacedEntry l c => "a collection may not begin" ++ placeText l c
  | unexpectedCharacter ch l c => "unexpected character " ++ ch.toString ++ placeText l c
  | unexpectedEnd l c => "unexpected end of the text in the token" ++ placeText l c
  | unexpectedDocument l c => "unexpected document marker" ++ placeText l c
  | tabIndentation l c => "a tab may not indent" ++ placeText l c
  | badEscape l c => "invalid escape sequence" ++ placeText l c
  | badHeader l c => "invalid block scalar header" ++ placeText l c
  | badDirective l c => "invalid directive" ++ placeText l c
  | badAnchor l c => "invalid anchor name" ++ placeText l c
  | badTag l c => "invalid tag" ++ placeText l c
  | unknownHandle handle => "undefined tag handle " ++ handle
  | unexpectedToken => "the structure of the document is incomplete"
  | secondDocument => "more than one document"
  | unknownAnchor name => "unknown anchor " ++ name
  | repetition => "repetition limit exceeded"
  | unexpectedForm expected => "expected " ++ expected
  | duplicateField name => "duplicate field " ++ name
  | missingField name => "missing field " ++ name

end ChipEight.Yaml
