/-
# Reading typed values

A reader asks a node for a value of a certain form. It follows aliases on its way and counts them:
a document of `n` signs grants `100 * n` of them.
-/
import ChipEight.Yaml.Document
import ChipEight.Yaml.Number

namespace ChipEight.Yaml

/-- A computation that reads from a document and counts the aliases that it follows. -/
abbrev Reader := ReaderT Document (StateT Nat (Except Error))

namespace Reader

/-- The node that a node refers to if it is an alias, and the node itself otherwise. -/
def follow : Node Nat → Reader (Node Nat)
  | .reference id => do
    let document ← read
    modify (· + 1)
    if (← get) > 100 * document.root.weight then
      throw .repetition
    match document.targets.lookup id with
    | some node => return node
    | none => throw .repetition
  | node => return node

/-- The text of a scalar. -/
def text (node : Node Nat) : Reader String := do
  match ← follow node with
  | .scalar _ _ text => return text
  | _ => throw (.unexpectedForm "a text")

/-- A scalar of a single character. -/
def char (node : Node Nat) : Reader Char := do
  match (← text node).toList with
  | [c] => return c
  | _ => throw (.unexpectedForm "a character")

/-- Whether a scalar may stand for a number: a plain one, or a literal one that is tagged as a
number. -/
def isNumeric (properties : Properties) : Style → Bool
  | .plain => true
  | .literal => properties.tag == some Tag.integer
  | _ => false

/-- A number in one of the spellings that `parse` accepts. -/
def number {α : Type} (parse : List Char → Option α) (node : Node Nat) : Reader α := do
  match ← follow node with
  | .scalar properties style text =>
    match if isNumeric properties style then parse text.toList else none with
    | some value => return value
    | none => throw (.unexpectedForm "an integer")
  | _ => throw (.unexpectedForm "an integer")

/-- A number without sign. -/
def unsigned (node : Node Nat) : Reader Nat := number unsigned? node

/-- A number with or without sign. -/
def signed (node : Node Nat) : Reader Int64 := number signed? node

/-- The items of a sequence. An empty scalar has none. -/
def items (node : Node Nat) : Reader (List (Node Nat)) := do
  match ← follow node with
  | .sequence _ items => return items
  | .scalar _ .plain "" => return []
  | _ => throw (.unexpectedForm "a sequence")

/-- Whether a scalar stands for an absent value. -/
def isAbsent : Node Nat → Reader Bool
  | .scalar properties .plain text =>
    match properties.tag with
    | none => return text.isEmpty || isNull text
    | some tag =>
      if tag != Tag.absent then return false
      else if isNull text then return true
      else throw (.unexpectedForm "null")
  | _ => return false

/-- A value that may be absent. -/
def optional {α : Type} (reader : Node Nat → Reader α) (node : Node Nat) : Reader (Option α) := do
  let node ← follow node
  if ← isAbsent node then return none else return some (← reader node)

/-- The known fields of a mapping, by name. Other fields are passed over, and a known field may be
given once. An empty scalar has no fields. -/
def fields (known : List String) (node : Node Nat) : Reader (List (String × Node Nat)) := do
  match ← follow node with
  | .mapping _ entries =>
    entries.foldlM (fun found entry => do
      let name ← text entry.1
      if !known.contains name then return found
      else if (found.lookup name).isSome then throw (.duplicateField name)
      else return found ++ [(name, entry.2)]) []
  | .scalar _ .plain "" => return []
  | _ => throw (.unexpectedForm "a mapping")

/-- A field that has to be there. -/
def required {α : Type} (found : List (String × Node Nat)) (name : String)
    (reader : Node Nat → Reader α) : Reader α :=
  match found.lookup name with
  | some node => reader node
  | none => throw (.missingField name)

/-- A field with a value that stands in for it. -/
def withDefault {α : Type} (found : List (String × Node Nat)) (name : String) (value : α)
    (reader : Node Nat → Reader α) : Reader α :=
  match found.lookup name with
  | some node => reader node
  | none => return value

end Reader

/-- Read a value from the root of a document. -/
def Document.read {α : Type} (document : Document) (reader : Node Nat → Reader α) :
    Except Error α := do
  let (value, _) ← ((reader document.root).run document).run 0
  return value

end ChipEight.Yaml
