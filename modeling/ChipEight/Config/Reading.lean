/-
# Reading a configuration

A configuration file is a YAML mapping. Every field may be missing and has its default then; only
the seed may be given as absent.
-/
import ChipEight.Config
import ChipEight.Yaml.Reader

namespace ChipEight.Config

open Yaml

/-- Read a configuration from a node. -/
def ofNode (node : Node Nat) : Reader Config := do
  let found ← Reader.fields ["speed", "tone_frequency", "frame_rate", "stack_size", "seed"] node
  let standard : Config := {}
  return {
    speed := ← Reader.withDefault found "speed" standard.speed Reader.unsigned
    toneFrequency :=
      ← Reader.withDefault found "tone_frequency" standard.toneFrequency Reader.unsigned
    frameRate := ← Reader.withDefault found "frame_rate" standard.frameRate Reader.unsigned
    stackSize := ← Reader.withDefault found "stack_size" standard.stackSize Reader.unsigned
    seed := (← Reader.withDefault found "seed" none (Reader.optional Reader.unsigned)).map .ofNat }

/-- Read a configuration from a document. -/
def ofDocument (document : Document) : Except Error Config := document.read ofNode

/-- Read a configuration file. -/
def ofBytes (bytes : List UInt8) : Except Error Config := do
  ofDocument (← Document.ofBytes bytes)

end ChipEight.Config
