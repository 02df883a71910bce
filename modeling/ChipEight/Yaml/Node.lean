/-
# Nodes

The tree of values that a document describes. Aliases are leaves that refer to other nodes: by
name as they are written, or by number after the names have been resolved.
-/
import ChipEight.Yaml.Token

namespace ChipEight.Yaml

/-- What may stand in front of a node. -/
structure Properties where
  /-- The name that aliases refer to. -/
  anchor : Option String := none
  /-- The kind of value. -/
  tag : Option Tag := none
  deriving DecidableEq, Repr

/-- A node, in which aliases refer to other nodes by `ρ`. -/
inductive Node (ρ : Type) where
  /-- A text. -/
  | scalar (properties : Properties) (style : Style) (text : String)
  /-- A reference to another node. -/
  | reference (target : ρ)
  /-- A list of nodes. -/
  | sequence (properties : Properties) (items : List (Node ρ))
  /-- A list of pairs of a key and a value. -/
  | mapping (properties : Properties) (entries : List (Node ρ × Node ρ))

namespace Node

variable {ρ : Type}

/-- The scalar that stands for a missing node. -/
def empty : Node ρ := scalar {} .plain ""

mutual

/-- The number of signs that write a node: one for a leaf, and a pair of brackets for a
collection. -/
def weight : Node ρ → Nat
  | scalar .. => 1
  | reference _ => 1
  | sequence _ items => 2 + weightItems items
  | mapping _ entries => 2 + weightEntries entries

/-- The number of signs in the items of a sequence. -/
def weightItems : List (Node ρ) → Nat
  | [] => 0
  | item :: items => weight item + weightItems items

/-- The number of signs in the entries of a mapping. -/
def weightEntries : List (Node ρ × Node ρ) → Nat
  | [] => 0
  | (key, value) :: entries => weight key + weight value + weightEntries entries

end

end Node

end ChipEight.Yaml
