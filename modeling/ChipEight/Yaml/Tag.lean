/-
# Tags

The tag of a node names the kind of its value. A tag may be written byte by byte, and its bytes need
not be those of a text, so it is kept as bytes. A zero byte ends a tag and all that follows it is
left out.
-/

namespace ChipEight.Yaml

/-- The name of a kind of value, or a part of such a name. -/
structure Tag where
  /-- The bytes of the name. -/
  bytes : List UInt8
  /-- No byte is zero. -/
  zero_notMem : 0 ∉ bytes
  deriving DecidableEq, Repr

namespace Tag

/-! ## Building -/

/-- The tag that a sequence of bytes spells: those in front of the first zero. -/
def ofBytes (bytes : List UInt8) : Tag where
  bytes := bytes.takeWhile (· != 0)
  zero_notMem h := by simpa using List.all_eq_true.1 List.all_takeWhile _ h

/-- The tag that a text spells. -/
def ofText (text : String) : Tag := ofBytes text.toUTF8.data.toList

/-- The tag without bytes. -/
def empty : Tag := ⟨[], List.not_mem_nil⟩

/-- The tag that two parts make. -/
def append (stem suffix : Tag) : Tag where
  bytes := stem.bytes ++ suffix.bytes
  zero_notMem := by simp [stem.zero_notMem, suffix.zero_notMem]

instance : Append Tag where
  append := append

/-- Whether a tag has no bytes. -/
def isEmpty (t : Tag) : Bool := t.bytes.isEmpty

/-! ## Known tags -/

/-- The exclamation mark: the tag that a mark alone gives, and the stem that it stands for. -/
def mark : Tag := ofText "!"

/-- The stem of the tags that the language itself defines. -/
def core : Tag := ofText "tag:yaml.org,2002:"

/-- The tag of numbers. -/
def integer : Tag := core ++ ofText "int"

/-- The tag of absent values. -/
def absent : Tag := core ++ ofText "null"

/-! ## Bytes of a tag -/

/-- Bytes without a zero are all kept. -/
theorem bytes_ofBytes {bytes : List UInt8} (h : 0 ∉ bytes) : (ofBytes bytes).bytes = bytes := by
  induction bytes with
  | nil => rfl
  | cons b bytes ih =>
    obtain ⟨hb, hbs⟩ := List.ne_and_not_mem_of_not_mem_cons h
    have keep : (b != 0) = true := by simpa using Ne.symm hb
    simpa [ofBytes, keep] using ih hbs

/-- What follows a zero byte is left out. -/
theorem ofBytes_append_zero (bytes rest : List UInt8) :
    ofBytes (bytes ++ 0 :: rest) = ofBytes bytes := by
  induction bytes with
  | nil => simp [ofBytes]
  | cons b bytes ih => by_cases h : b = 0 <;> simp_all [ofBytes]

end Tag

end ChipEight.Yaml
