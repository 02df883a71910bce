/-
# Keys

The sixteen keys of the hexadecimal keypad and the place that each of them has on a QWERTY
keyboard:

    1 2 3 4      1 2 3 C
    Q W E R  =>  4 5 6 D
    A S D F      7 8 9 E
    Z X C V      A 0 B F
-/
import ChipEight.Text.Hexadecimal

namespace ChipEight

/-- A key of the keypad, by its number. -/
abbrev Key := Fin 16

namespace Key

/-- All keys in the order of their numbers. -/
def all : List Key := List.finRange 16

/-- The key with a given number, if there is one. -/
def ofByte? (b : UInt8) : Option Key :=
  if h : b.toNat < 16 then some ⟨b.toNat, h⟩ else none

/-- The number of a key as a byte. -/
def toByte (k : Key) : UInt8 := UInt8.ofNat k.val

/-- What numbers outside of the keypad are refused with. -/
def rangeMessage : String := "keycode must be in range 0 <= keycode < 16"

/-- The short name of a key, such as `ka`. -/
def name (k : Key) : String := "k" ++ Text.lowerHex k.val

/-- The key at the place of a character on a QWERTY keyboard. Upper and lower case are alike, and
letters outside of ASCII are no keys. -/
def ofQwerty? (c : Char) : Option Key :=
  match c.toLower with
  | '1' => ofByte? 0x1
  | '2' => ofByte? 0x2
  | '3' => ofByte? 0x3
  | '4' => ofByte? 0xC
  | 'q' => ofByte? 0x4
  | 'w' => ofByte? 0x5
  | 'e' => ofByte? 0x6
  | 'r' => ofByte? 0xD
  | 'a' => ofByte? 0x7
  | 's' => ofByte? 0x8
  | 'd' => ofByte? 0x9
  | 'f' => ofByte? 0xE
  | 'z' => ofByte? 0xA
  | 'x' => ofByte? 0x0
  | 'c' => ofByte? 0xB
  | 'v' => ofByte? 0xF
  | _ => none

/-- The number of a key, written as a byte and read back, is the key. -/
theorem ofByte?_toByte (k : Key) : ofByte? k.toByte = some k := by
  revert k
  decide

end Key

end ChipEight
