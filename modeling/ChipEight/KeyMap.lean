/-
# Key maps

A key map tells which key of the keypad a typed character stands for. It is built from
definitions, each of which binds a key to characters; the first binding of a character counts.
-/
import ChipEight.Key

namespace ChipEight

/-- A key and the characters that stand for it, if any are given. -/
structure KeyDefinition where
  /-- The key. -/
  key : Key
  /-- The characters. -/
  characters : Option (List Char)
  deriving DecidableEq, Repr

/-- Which key a character stands for. -/
structure KeyMap where
  /-- The bindings of lower-case characters, those that count first in front. -/
  bindings : List (Char × Key)
  deriving DecidableEq, Repr

namespace KeyMap

/-- The bindings of a definition. -/
def bindingsOf (d : KeyDefinition) : List (Char × Key) :=
  (d.characters.getD []).map fun c => (c.toLower, d.key)

/-- The key map of a list of definitions. -/
def ofDefinitions (definitions : List KeyDefinition) : KeyMap :=
  ⟨definitions.flatMap bindingsOf⟩

/-- The characters of the built-in key map. -/
def qwertyCharacters : List Char := "1234qwerasdfzxcv".toList

/-- The built-in key map: the left side of a QWERTY keyboard. -/
def qwerty : KeyMap :=
  ⟨qwertyCharacters.filterMap fun c => (Key.ofQwerty? c).map fun k => (c, k)⟩

/-- The key that a character stands for. Upper and lower case of ASCII letters are alike. -/
def find? (m : KeyMap) (c : Char) : Option Key := m.bindings.lookup c.toLower

end KeyMap

end ChipEight
