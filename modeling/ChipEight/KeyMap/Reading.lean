/-
# Reading a key map

A key map file is a YAML sequence of definitions:

    - chip8: 5
      keyboard_keys: [w, k]
    - chip8: 8
      keyboard_keys: [s, j]
-/
import ChipEight.Key.Reading
import ChipEight.KeyMap
import ChipEight.Yaml.Reader

namespace ChipEight.KeyMap

open Yaml

/-- Read a key from a node. -/
def keyOfNode (node : Node Nat) : Reader Key := do
  match Key.ofSigned (← Reader.signed node) with
  | .ok key => return key
  | .error error => throw (.unexpectedForm error.message)

/-- Read a definition from a node. -/
def definitionOfNode (node : Node Nat) : Reader KeyDefinition := do
  let found ← Reader.fields ["chip8", "keyboard_keys"] node
  let key ← Reader.required found "chip8" keyOfNode
  let characters ← Reader.withDefault found "keyboard_keys" none <|
    Reader.optional fun node => do (← Reader.items node).mapM Reader.char
  return { key, characters }

/-- Read the definitions of a key map from a document. -/
def definitionsOfDocument (document : Document) : Except Error (List KeyDefinition) :=
  document.read fun node => do (← Reader.items node).mapM definitionOfNode

/-- Read the definitions of a key map file. -/
def definitionsOfBytes (bytes : List UInt8) : Except Error (List KeyDefinition) := do
  definitionsOfDocument (← Document.ofBytes bytes)

end ChipEight.KeyMap
