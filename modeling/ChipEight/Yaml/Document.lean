/-
# Documents

A text holds at most one document. Its directives declare tag handles, and its aliases refer to
anchors in front of them. An empty text is the document of the empty scalar.
-/
import ChipEight.Yaml.Node.Parser
import ChipEight.Yaml.Token.Lexer

namespace ChipEight.Yaml

/-! ## Anchors -/

/-- The anchors of a document, up to some place in it. -/
structure Anchors where
  /-- The number that each name stands for at this place. -/
  ids : List (String × Nat) := []
  /-- The node that each number stands for. -/
  targets : List (Nat × Node Nat) := []

namespace Anchors

/-- Declare a name. It stands for the number of names known before, even if it was one of them, and
what its number stood for is forgotten. -/
def declare (a : Anchors) (name : String) : Nat × Anchors :=
  let id := a.ids.length
  (id,
    { ids := (name, id) :: a.ids.filter (·.1 != name)
      targets := a.targets.filter (·.1 != id) })

/-- Let a number stand for a node, unless a later node took the number. -/
def define (a : Anchors) (id : Nat) (node : Node Nat) : Anchors :=
  if (a.targets.lookup id).isSome then a else { a with targets := (id, node) :: a.targets }

/-- Declare the name of a node, if it has one. -/
def declare? (a : Anchors) : Option String → Option Nat × Anchors
  | some name =>
    let (id, a) := a.declare name
    (some id, a)
  | none => (none, a)

/-- Let a number, if there is one, stand for a node. -/
def define? (a : Anchors) (id : Option Nat) (node : Node Nat) : Node Nat × Anchors :=
  match id with
  | some id => (node, a.define id node)
  | none => (node, a)

end Anchors

namespace Node

mutual

/-- Replace the names in aliases by numbers, and note what the numbers stand for. -/
def resolve (a : Anchors) : Node String → Except Error (Node Nat × Anchors)
  | scalar properties style text =>
    let (id, a) := a.declare? properties.anchor
    .ok (a.define? id (scalar properties style text))
  | reference name =>
    match a.ids.lookup name with
    | some id => .ok (reference id, a)
    | none => .error (.unknownAnchor name)
  | sequence properties items => do
    let (id, a) := a.declare? properties.anchor
    let (items, a) ← resolveItems a items
    return a.define? id (sequence properties items)
  | mapping properties entries => do
    let (id, a) := a.declare? properties.anchor
    let (entries, a) ← resolveEntries a entries
    return a.define? id (mapping properties entries)

/-- Resolve the items of a sequence from left to right. -/
def resolveItems (a : Anchors) : List (Node String) → Except Error (List (Node Nat) × Anchors)
  | [] => .ok ([], a)
  | item :: items => do
    let (item, a) ← resolve a item
    let (items, a) ← resolveItems a items
    return (item :: items, a)

/-- Resolve the entries of a mapping from left to right. -/
def resolveEntries (a : Anchors) :
    List (Node String × Node String) → Except Error (List (Node Nat × Node Nat) × Anchors)
  | [] => .ok ([], a)
  | (key, value) :: entries => do
    let (key, a) ← resolve a key
    let (value, a) ← resolve a value
    let (entries, a) ← resolveEntries a entries
    return ((key, value) :: entries, a)

end

end Node

/-! ## Directives -/

/-- Read the directives in front of a document. A version or a handle may be declared once, and
the version has to be 1.1 or 1.2. -/
def directives (versioned : Bool) (handles : Handles) :
    List Token → Except Error (Handles × List Token)
  | .version major minor :: rest =>
    if versioned || major != 1 || (minor != 1 && minor != 2) then
      .error (.badDirective 0 0)
    else
      directives true handles rest
  | .tagHandle handle stem :: rest =>
    if (handles.lookup handle).isSome then
      .error (.badDirective 0 0)
    else
      directives versioned ((handle, stem) :: handles) rest
  | rest => .ok (handles ++ Handles.standard, rest)

/-! ## Documents -/

/-- A document. -/
structure Document where
  /-- The value that the document describes. -/
  root : Node Nat
  /-- The nodes that aliases refer to. -/
  targets : List (Nat × Node Nat) := []

namespace Document

/-- Whether a directive or a marker comes next. -/
def atMarker : List Token → Bool
  | .version .. :: _ | .tagHandle .. :: _ | .documentStart :: _ | .documentEnd :: _ | [] => true
  | _ => false

/-- Whether the next document begins with directives or a marker. -/
def isExplicit : List Token → Bool
  | .version .. :: _ | .tagHandle .. :: _ | .documentStart :: _ => true
  | _ => false

/-- Read the value of the first document. -/
def firstNode (tokens : List Token) : Except Error (Node String × List Token) := do
  if tokens.isEmpty then
    return (.empty, tokens)
  else if isExplicit tokens then
    let (handles, rest) ← directives false [] tokens
    match rest with
    | .documentStart :: rest =>
      if atMarker rest then return (.empty, rest) else Node.ofTokens handles rest
    | _ => throw .unexpectedToken
  else
    Node.ofTokens Handles.standard tokens

/-- The document of a list of tokens. -/
def ofTokens (tokens : List Token) : Except Error Document := do
  let (node, rest) ← firstNode tokens
  if !(rest.dropWhile (· == .documentEnd)).isEmpty then
    throw .secondDocument
  let (root, anchors) ← node.resolve {}
  return { root, targets := anchors.targets }

/-- The document of a text. -/
def ofText (text : String) : Except Error Document := do
  ofTokens (← Token.ofText text.toList)

/-- The document of a file. -/
def ofBytes (bytes : List UInt8) : Except Error Document :=
  match String.fromUTF8? ⟨bytes.toArray⟩ with
  | some text => ofText text
  | none => .error .notText

end Document

end ChipEight.Yaml
