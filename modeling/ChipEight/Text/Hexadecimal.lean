/-
# Hexadecimal text

Numbers are shown in two hexadecimal spellings: upper case, filled up with zeros to a fixed least
width, for addresses, words and bytes; and lower case without filling, for key names and
character codes.
-/

namespace ChipEight.Text

/-- The upper-case hexadecimal digits of `n`, at least `width` of them. -/
def upperHexDigits (width n : Nat) : List Char :=
  ((Nat.toDigits 16 n).map Char.toUpper).leftpad width '0'

/-- The number `n` in upper-case hexadecimal, with zeros in front up to `width` digits. -/
def upperHex (width n : Nat) : String :=
  String.ofList (upperHexDigits width n)

/-- The number `n` in lower-case hexadecimal, without leading zeros. -/
def lowerHex (n : Nat) : String :=
  String.ofList (Nat.toDigits 16 n)

/-! ## Width -/

/-- A number takes at least as many digits as are asked for. -/
theorem le_length_upperHexDigits (width n : Nat) : width ≤ (upperHexDigits width n).length := by
  unfold upperHexDigits
  rw [List.length_leftpad]
  exact Nat.le_max_left _ _

end ChipEight.Text
