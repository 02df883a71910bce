/-
# The built-in font

Glyphs of the hexadecimal digits, eight pixels wide of which the left four are used, and five
pixels high. The font lies at the start of memory.
-/
import ChipEight.Failure

namespace ChipEight.Font

/-- The address of the first glyph. -/
def start : Nat := 0

/-- The address of the glyph of a digit. -/
def glyphAddress (digit : Nat) : Nat := start + digit * glyphHeight

/-- The rows of the built-in glyphs from `0` to `F`. -/
def builtin : List UInt8 :=
  [0xF0, 0x90, 0x90, 0x90, 0xF0,
   0x20, 0x60, 0x20, 0x20, 0x70,
   0xF0, 0x10, 0xF0, 0x80, 0xF0,
   0xF0, 0x10, 0xF0, 0x10, 0xF0,
   0x90, 0x90, 0xF0, 0x10, 0x10,
   0xF0, 0x80, 0xF0, 0x10, 0xF0,
   0xF0, 0x80, 0xF0, 0x90, 0xF0,
   0xF0, 0x10, 0x20, 0x40, 0x40,
   0xF0, 0x90, 0xF0, 0x90, 0xF0,
   0xF0, 0x90, 0xF0, 0x10, 0xF0,
   0xF0, 0x90, 0xF0, 0x90, 0x90,
   0xE0, 0x90, 0xE0, 0x90, 0xE0,
   0xF0, 0x80, 0x80, 0x80, 0xF0,
   0xE0, 0x90, 0x90, 0x90, 0xE0,
   0xF0, 0x80, 0xF0, 0x80, 0xF0,
   0xF0, 0x80, 0xF0, 0x80, 0x80]

/-- The built-in font has the size that is asked of every font. -/
theorem length_builtin : builtin.length = fontSize := rfl

end ChipEight.Font
