/-
# Mnemonics

The assembly text of an instruction, as it stands in the execution trace. Registers are `v` and an
upper-case hexadecimal digit, addresses are `0x` and at least three hexadecimal digits, and bytes
are decimal.
-/
import ChipEight.Instruction
import ChipEight.Text.Hexadecimal

namespace ChipEight.Instruction

open Text

/-- The name of a register. -/
def registerName (r : UInt8) : String := "v" ++ upperHex 1 r.toNat

/-- An address operand. -/
def addressText (a : UInt16) : String := "0x" ++ upperHex 3 a.toNat

/-- A decimal operand. -/
def byteText (b : UInt8) : String := b.toNat.repr

/-- A mnemonic with one operand. -/
def unary (word operand : String) : String := word ++ " " ++ operand

/-- A mnemonic with two operands. -/
def binary (word first second : String) : String := word ++ " " ++ first ++ ", " ++ second

/-- The assembly text of an instruction. -/
def mnemonic : Instruction → String
  | sys a => unary "SYS" (addressText a)
  | clearScreen => "CLS"
  | ret => "RET"
  | jump a => unary "JP" (addressText a)
  | call a => unary "CALL" (addressText a)
  | skipIfByte vx nn => binary "SE" (registerName vx) (byteText nn)
  | skipUnlessByte vx nn => binary "SNE" (registerName vx) (byteText nn)
  | skipIfEqual vx vy => binary "SE" (registerName vx) (registerName vy)
  | setByte vx nn => binary "LD" (registerName vx) (byteText nn)
  | addByte vx nn => binary "ADD" (registerName vx) (byteText nn)
  | copy vx vy => binary "LD" (registerName vx) (registerName vy)
  | or vx vy => binary "OR" (registerName vx) (registerName vy)
  | and vx vy => binary "AND" (registerName vx) (registerName vy)
  | xor vx vy => binary "XOR" (registerName vx) (registerName vy)
  | add vx vy => binary "ADD" (registerName vx) (registerName vy)
  | sub vx vy => binary "SUB" (registerName vx) (registerName vy)
  | shiftRight vx => unary "SHR" (registerName vx)
  | subFrom vx vy => binary "SUBN" (registerName vx) (registerName vy)
  | shiftLeft vx => unary "SHL" (registerName vx)
  | skipUnlessEqual vx vy => binary "SNE" (registerName vx) (registerName vy)
  | setIndex a => binary "LD" "I" (addressText a)
  | jumpOffset a => binary "JP" "v0" (addressText a)
  | random vx nn => binary "RND" (registerName vx) (byteText nn)
  | draw vx vy n => binary "DRW" (registerName vx) (registerName vy) ++ ", " ++ byteText n
  | skipIfKey vx => unary "SKP" (registerName vx)
  | skipUnlessKey vx => unary "SKNP" (registerName vx)
  | readDelay vx => binary "LD" (registerName vx) "DT"
  | awaitKey vx => binary "LD" (registerName vx) "K"
  | setDelay vx => binary "LD" "DT" (registerName vx)
  | setSound vx => binary "LD" "ST" (registerName vx)
  | addIndex vx => binary "ADD" "I" (registerName vx)
  | setGlyph vx => binary "LD" "F" (registerName vx)
  | storeDecimal vx => binary "LD" "B" (registerName vx)
  | storeRegisters vx => binary "LD" "[I]" (registerName vx)
  | loadRegisters vx => binary "LD" (registerName vx) "[I]"

end ChipEight.Instruction
