/-
# Instructions

The thirty-five instruction forms and how a 16-bit word is decoded into one of them. A word is
read as four hexadecimal digits: the first one selects the family, `x` and `y` in the middle select
registers, and `n`, `nn` and `nnn` are the last one, two and three digits.
-/

namespace ChipEight

/-- An instruction with its operands. -/
inductive Instruction where
  /-- Form `0nnn`: a call into the host computer, which does nothing here. -/
  | sys (address : UInt16)
  /-- Form `00E0`: turn all pixels off. -/
  | clearScreen
  /-- Form `00EE`: return from a subroutine. -/
  | ret
  /-- Form `1nnn`: continue at an address. -/
  | jump (address : UInt16)
  /-- Form `2nnn`: call the subroutine at an address. -/
  | call (address : UInt16)
  /-- Form `3xnn`: skip the next instruction if `Vx` is `nn`. -/
  | skipIfByte (vx nn : UInt8)
  /-- Form `4xnn`: skip the next instruction unless `Vx` is `nn`. -/
  | skipUnlessByte (vx nn : UInt8)
  /-- Form `5xy0`: skip the next instruction if `Vx` is `Vy`. -/
  | skipIfEqual (vx vy : UInt8)
  /-- Form `6xnn`: set `Vx` to `nn`. -/
  | setByte (vx nn : UInt8)
  /-- Form `7xnn`: add `nn` to `Vx`, without a carry. -/
  | addByte (vx nn : UInt8)
  /-- Form `8xy0`: set `Vx` to `Vy`. -/
  | copy (vx vy : UInt8)
  /-- Form `8xy1`: bitwise or of `Vx` and `Vy`. -/
  | or (vx vy : UInt8)
  /-- Form `8xy2`: bitwise and of `Vx` and `Vy`. -/
  | and (vx vy : UInt8)
  /-- Form `8xy3`: bitwise exclusive or of `Vx` and `Vy`. -/
  | xor (vx vy : UInt8)
  /-- Form `8xy4`: add `Vy` to `Vx`; the flag is the carry. -/
  | add (vx vy : UInt8)
  /-- Form `8xy5`: subtract `Vy` from `Vx`; the flag is set if nothing is borrowed. -/
  | sub (vx vy : UInt8)
  /-- Form `8xy6`: halve `Vx`; the flag is the bit that falls out. -/
  | shiftRight (vx : UInt8)
  /-- Form `8xy7`: set `Vx` to `Vy` less `Vx`; the flag is set if nothing is borrowed. -/
  | subFrom (vx vy : UInt8)
  /-- Form `8xyE`: double `Vx`; the flag is the bit that falls out. -/
  | shiftLeft (vx : UInt8)
  /-- Form `9xy0`: skip the next instruction unless `Vx` is `Vy`. -/
  | skipUnlessEqual (vx vy : UInt8)
  /-- Form `Annn`: set the index register. -/
  | setIndex (address : UInt16)
  /-- Form `Bnnn`: continue at an address plus `V0`. -/
  | jumpOffset (address : UInt16)
  /-- Form `Cxnn`: set `Vx` to a random byte masked by `nn`. -/
  | random (vx nn : UInt8)
  /-- Form `Dxyn`: draw the sprite of `n` rows at the index register to the position `Vx`, `Vy`. -/
  | draw (vx vy n : UInt8)
  /-- Form `Ex9E`: skip the next instruction if the key `Vx` is down. -/
  | skipIfKey (vx : UInt8)
  /-- Form `ExA1`: skip the next instruction unless the key `Vx` is down. -/
  | skipUnlessKey (vx : UInt8)
  /-- Form `Fx07`: set `Vx` to the delay timer. -/
  | readDelay (vx : UInt8)
  /-- Form `Fx0A`: wait for a key press and set `Vx` to the key. -/
  | awaitKey (vx : UInt8)
  /-- Form `Fx15`: set the delay timer to `Vx`. -/
  | setDelay (vx : UInt8)
  /-- Form `Fx18`: set the sound timer to `Vx`. -/
  | setSound (vx : UInt8)
  /-- Form `Fx1E`: add `Vx` to the index register. -/
  | addIndex (vx : UInt8)
  /-- Form `Fx29`: point the index register to the glyph of the last digit of `Vx`. -/
  | setGlyph (vx : UInt8)
  /-- Form `Fx33`: store the three decimal digits of `Vx` at the index register. -/
  | storeDecimal (vx : UInt8)
  /-- Form `Fx55`: store `V0` to `Vx` at the index register. -/
  | storeRegisters (vx : UInt8)
  /-- Form `Fx65`: load `V0` to `Vx` from the index register. -/
  | loadRegisters (vx : UInt8)
  deriving DecidableEq, Repr

/-! ## The digits of a word -/

namespace Opcode

/-- The first digit. -/
def family (w : UInt16) : Nat := w.toNat / 4096

/-- The second digit, which selects a register. -/
def x (w : UInt16) : UInt8 := UInt8.ofNat (w.toNat / 256 % 16)

/-- The third digit, which selects a register. -/
def y (w : UInt16) : UInt8 := UInt8.ofNat (w.toNat / 16 % 16)

/-- The last digit. -/
def n (w : UInt16) : UInt8 := UInt8.ofNat (w.toNat % 16)

/-- The last two digits. -/
def nn (w : UInt16) : UInt8 := UInt8.ofNat (w.toNat % 256)

/-- The last three digits, an address. -/
def nnn (w : UInt16) : UInt16 := UInt16.ofNat (w.toNat % 4096)

end Opcode

/-! ## Decoding -/

namespace Instruction

open Opcode

/-- The family `0`. -/
def decodeSystem (w : UInt16) : Instruction :=
  match w.toNat with
  | 0x00E0 => clearScreen
  | 0x00EE => ret
  | _ => sys (nnn w)

/-- The family `8`, told apart by the last digit. -/
def decodeArithmetic (w : UInt16) : Option Instruction :=
  match w.toNat % 16 with
  | 0x0 => some (copy (x w) (y w))
  | 0x1 => some (or (x w) (y w))
  | 0x2 => some (and (x w) (y w))
  | 0x3 => some (xor (x w) (y w))
  | 0x4 => some (add (x w) (y w))
  | 0x5 => some (sub (x w) (y w))
  | 0x6 => some (shiftRight (x w))
  | 0x7 => some (subFrom (x w) (y w))
  | 0xE => some (shiftLeft (x w))
  | _ => none

/-- The family `E`, told apart by the last two digits. -/
def decodeKey (w : UInt16) : Option Instruction :=
  match w.toNat % 256 with
  | 0x9E => some (skipIfKey (x w))
  | 0xA1 => some (skipUnlessKey (x w))
  | _ => none

/-- The family `F`, told apart by the last two digits. -/
def decodeDevice (w : UInt16) : Option Instruction :=
  match w.toNat % 256 with
  | 0x07 => some (readDelay (x w))
  | 0x0A => some (awaitKey (x w))
  | 0x15 => some (setDelay (x w))
  | 0x18 => some (setSound (x w))
  | 0x1E => some (addIndex (x w))
  | 0x29 => some (setGlyph (x w))
  | 0x33 => some (storeDecimal (x w))
  | 0x55 => some (storeRegisters (x w))
  | 0x65 => some (loadRegisters (x w))
  | _ => none

/-- The instruction that a word stands for, if it stands for one. -/
def decode? (w : UInt16) : Option Instruction :=
  match family w with
  | 0x0 => some (decodeSystem w)
  | 0x1 => some (jump (nnn w))
  | 0x2 => some (call (nnn w))
  | 0x3 => some (skipIfByte (x w) (nn w))
  | 0x4 => some (skipUnlessByte (x w) (nn w))
  | 0x5 => if w.toNat % 16 = 0 then some (skipIfEqual (x w) (y w)) else none
  | 0x6 => some (setByte (x w) (nn w))
  | 0x7 => some (addByte (x w) (nn w))
  | 0x8 => decodeArithmetic w
  | 0x9 => if w.toNat % 16 = 0 then some (skipUnlessEqual (x w) (y w)) else none
  | 0xA => some (setIndex (nnn w))
  | 0xB => some (jumpOffset (nnn w))
  | 0xC => some (random (x w) (nn w))
  | 0xD => some (draw (x w) (y w) (n w))
  | 0xE => decodeKey w
  | 0xF => decodeDevice w
  | _ => none

end Instruction

end ChipEight
