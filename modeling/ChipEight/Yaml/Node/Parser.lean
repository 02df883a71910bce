/-
# From tokens to nodes

A recursive descent over the tokens of a document. Each function gets the tokens that are left and
gives back those that it did not use. The depth of the descent is bounded by a number that exceeds
what any list of tokens can ask for.
-/
import ChipEight.Yaml.Error
import ChipEight.Yaml.Node

namespace ChipEight.Yaml

/-- The tag handles that may be used, each with what it stands for. -/
abbrev Handles := List (String × Tag)

namespace Handles

/-- The handles that need no declaration. -/
def standard : Handles := [("!", Tag.mark), ("!!", Tag.core)]

/-- The tag that a handle and a suffix stand for. -/
def resolve (handles : Handles) (handle : String) (suffix : Tag) : Except Error Tag :=
  if handle.isEmpty then
    .ok suffix
  else
    match handles.lookup handle with
    | some stem => .ok (stem ++ suffix)
    | none => .error (.unknownHandle handle)

end Handles

namespace Node

/-- Read the anchor and the tag of a node, in either order, each at most once. -/
def properties (handles : Handles) : List Token → Except Error (Properties × List Token)
  | .anchor name :: .tag handle suffix :: rest
  | .tag handle suffix :: .anchor name :: rest => do
    return ({ anchor := some name, tag := some (← handles.resolve handle suffix) }, rest)
  | .anchor name :: rest => .ok ({ anchor := some name }, rest)
  | .tag handle suffix :: rest => do
    return ({ tag := some (← handles.resolve handle suffix) }, rest)
  | rest => .ok ({}, rest)

/-- The place of a node: only inside of a block collection may another one begin, and a key or a
value may be a sequence without indentation of its own. -/
inductive Place where
  | flow
  | block
  | blockEntry
  deriving DecidableEq

/-- Whether no node begins here because the next part of a block collection does. -/
def endsBlock : List Token → Bool
  | .key :: _ | .value :: _ | .blockEnd :: _ => true
  | _ => false

/-- Whether no node begins here because the next entry of a sequence does. -/
def endsItem : List Token → Bool
  | .blockEntry :: _ => true
  | _ => false

/-- Whether no node begins here because an entry of a flow collection ends. -/
def endsFlow (closing : Token) : List Token → Bool
  | t :: _ => t == .flowEntry || t == closing
  | [] => false

mutual

/-- Read a node. -/
def parse (handles : Handles) (place : Place) :
    Nat → List Token → Except Error (Node String × List Token)
  | 0, _ => .error .unexpectedToken
  | fuel + 1, tokens =>
    match tokens with
    | .reference name :: rest => .ok (.reference name, rest)
    | _ => do
      let (properties, rest) ← properties handles tokens
      match rest with
      | .scalar style text :: rest => return (.scalar properties style text, rest)
      | .flowSequenceStart :: rest =>
        let (items, rest) ← flowItems handles true fuel rest
        return (.sequence properties items, rest)
      | .flowMappingStart :: rest =>
        let (entries, rest) ← flowEntries handles true fuel rest
        return (.mapping properties entries, rest)
      | .blockSequenceStart :: rest =>
        if place = .flow then throw .unexpectedToken
        let (items, rest) ← blockItems handles fuel rest
        return (.sequence properties items, rest)
      | .blockMappingStart :: rest =>
        if place = .flow then throw .unexpectedToken
        let (entries, rest) ← blockEntries handles fuel rest
        return (.mapping properties entries, rest)
      | rest =>
        if place = .blockEntry && endsItem rest then
          let (items, rest) ← plainItems handles fuel rest
          return (.sequence properties items, rest)
        else if properties == {} then
          throw .unexpectedToken
        else
          return (.scalar properties .plain "", rest)

/-- Read a node, or the empty one if none begins here. -/
def parseUnless (handles : Handles) (place : Place) (missing : Bool) :
    Nat → List Token → Except Error (Node String × List Token)
  | 0, _ => .error .unexpectedToken
  | fuel + 1, tokens => if missing then .ok (.empty, tokens) else parse handles place fuel tokens

/-- Read the items of a sequence that is told by its indentation. -/
def blockItems (handles : Handles) :
    Nat → List Token → Except Error (List (Node String) × List Token)
  | fuel + 1, .blockEntry :: rest => do
    let missing := endsItem rest || rest.head? == some .blockEnd
    let (item, rest) ← parseUnless handles .block missing fuel rest
    let (items, rest) ← blockItems handles fuel rest
    return (item :: items, rest)
  | _ + 1, .blockEnd :: rest => .ok ([], rest)
  | _, _ => .error .unexpectedToken

/-- Read the items of a sequence that has no indentation of its own. -/
def plainItems (handles : Handles) :
    Nat → List Token → Except Error (List (Node String) × List Token)
  | fuel + 1, .blockEntry :: rest => do
    let (item, rest) ← parseUnless handles .block (endsItem rest || endsBlock rest) fuel rest
    let (items, rest) ← plainItems handles fuel rest
    return (item :: items, rest)
  | _ + 1, rest => .ok ([], rest)
  | 0, _ => .error .unexpectedToken

/-- Read the entries of a mapping that is told by its indentation. -/
def blockEntries (handles : Handles) :
    Nat → List Token → Except Error (List (Node String × Node String) × List Token)
  | fuel + 1, .key :: rest => do
    let (key, rest) ← parseUnless handles .blockEntry (endsBlock rest) fuel rest
    let (value, rest) ←
      match rest with
      | .value :: rest => parseUnless handles .blockEntry (endsBlock rest) fuel rest
      | _ => pure (.empty, rest)
    let (entries, rest) ← blockEntries handles fuel rest
    return ((key, value) :: entries, rest)
  | _ + 1, .blockEnd :: rest => .ok ([], rest)
  | _, _ => .error .unexpectedToken

/-- Read the items of a sequence in brackets. Every item but the first comes behind a comma, and a
comma may stand behind the last one. An item may be a single entry of a mapping. -/
def flowItems (handles : Handles) (isFirst : Bool) :
    Nat → List Token → Except Error (List (Node String) × List Token)
  | 0, _ => .error .unexpectedToken
  | _ + 1, .flowSequenceEnd :: rest => .ok ([], rest)
  | fuel + 1, tokens => do
    let tokens ←
      match isFirst, tokens with
      | true, tokens => pure tokens
      | false, .flowEntry :: rest => pure rest
      | false, _ => throw .unexpectedToken
    match tokens with
    | .flowSequenceEnd :: rest => return ([], rest)
    | .key :: rest =>
      let (entry, rest) ← flowPair handles fuel rest
      let (items, rest) ← flowItems handles false fuel rest
      return (.mapping {} [entry] :: items, rest)
    | tokens =>
      let (item, rest) ← parse handles .flow fuel tokens
      let (items, rest) ← flowItems handles false fuel rest
      return (item :: items, rest)

/-- Read the single entry of a mapping inside of a sequence in brackets. The token that stands in
the place of a missing key is passed over. -/
def flowPair (handles : Handles) :
    Nat → List Token → Except Error ((Node String × Node String) × List Token)
  | 0, _ => .error .unexpectedToken
  | fuel + 1, tokens => do
    let missing := endsFlow .flowSequenceEnd tokens || tokens.head? == some .value
    let (key, rest) ←
      parseUnless handles .flow missing fuel (if missing then tokens.drop 1 else tokens)
    let (value, rest) ←
      match rest with
      | .value :: rest => parseUnless handles .flow (endsFlow .flowSequenceEnd rest) fuel rest
      | _ => pure (.empty, rest)
    return ((key, value), rest)

/-- Read the entries of a mapping in braces. Every entry but the first comes behind a comma, and a
comma may stand behind the last one. -/
def flowEntries (handles : Handles) (isFirst : Bool) :
    Nat → List Token → Except Error (List (Node String × Node String) × List Token)
  | 0, _ => .error .unexpectedToken
  | _ + 1, .flowMappingEnd :: rest => .ok ([], rest)
  | fuel + 1, tokens => do
    let tokens ←
      match isFirst, tokens with
      | true, tokens => pure tokens
      | false, .flowEntry :: rest => pure rest
      | false, _ => throw .unexpectedToken
    match tokens with
    | .flowMappingEnd :: rest => return ([], rest)
    | .key :: rest =>
      let missing := endsFlow .flowMappingEnd rest || rest.head? == some .value
      let (key, rest) ← parseUnless handles .flow missing fuel rest
      let (value, rest) ←
        match rest with
        | .value :: rest => parseUnless handles .flow (endsFlow .flowMappingEnd rest) fuel rest
        | _ => pure (.empty, rest)
      let (entries, rest) ← flowEntries handles false fuel rest
      return ((key, value) :: entries, rest)
    | tokens =>
      let (key, rest) ← parse handles .flow fuel tokens
      let (entries, rest) ← flowEntries handles false fuel rest
      return ((key, .empty) :: entries, rest)

end

/-- Read a node that may be a block collection. -/
def ofTokens (handles : Handles) (tokens : List Token) :
    Except Error (Node String × List Token) :=
  parse handles .block (4 * tokens.length + 4) tokens

end Node

end ChipEight.Yaml
