/-
# Shortest decimals

The decimal text of a 64-bit floating point number: the fewest digits that read back as the same
number, and of those the nearest to it, a tie going up. It is always written without an exponent
and always has a point.
-/

namespace ChipEight.Decimal

/-- A positive number `mantissa * 2 ^ exponent / 2 ^ 1074`. -/
structure Binary where
  /-- The digits. -/
  mantissa : Nat
  /-- The place of the digits. -/
  exponent : Nat
  /-- Whether the gap to the next smaller number is half of that to the next larger one. -/
  atPower : Bool
  deriving DecidableEq, Repr

/-- The parts of a finite number, from its bits without the sign. -/
def Binary.ofBits (bits : Nat) : Binary :=
  let fraction := bits % Nat.pow 2 52
  let biased := bits / Nat.pow 2 52
  if biased = 0 then ⟨fraction, 0, false⟩
  else ⟨Nat.pow 2 52 + fraction, biased - 1, fraction == 0 && decide (biased > 1)⟩

/-- A decimal `digits * 10 ^ place / 10 ^ 330`. -/
structure Digits where
  /-- The digits. -/
  digits : Nat
  /-- The place of the last digit. -/
  place : Nat
  deriving DecidableEq, Repr

/-- The place of the ones. -/
def onesPlace : Nat := 330

/-- A quarter of the mantissa's unit and the unit of a decimal place are both whole multiples of
`1 / (2 ^ 1076 * 10 ^ 330)`. This is the number of such parts in a count of quarters. -/
def ofQuarters (b : Binary) (quarters : Nat) : Nat :=
  quarters * Nat.pow 2 b.exponent * Nat.pow 10 onesPlace

/-- The number of such parts in a unit of a decimal place. -/
def ofPlace (place : Nat) : Nat := Nat.pow 10 place * Nat.pow 2 1076

/-- Whether a count of parts reads back as a number: it lies within half a gap of it, and on the
middle of a gap only if the mantissa is even. -/
def readsBack (b : Binary) (parts : Nat) : Bool :=
  let low := ofQuarters b (4 * b.mantissa - if b.atPower then 1 else 2)
  let high := ofQuarters b (4 * b.mantissa + 2)
  if b.mantissa % 2 = 0 then decide (low ≤ parts) && decide (parts ≤ high)
  else decide (low < parts) && decide (parts < high)

/-- The multiple of a decimal place that reads back as a number and is nearest to it, if there is
one: it is one of the two neighbours of the number. -/
def atPlace? (b : Binary) (place : Nat) : Option Nat :=
  let value := ofQuarters b (4 * b.mantissa)
  let unit := ofPlace place
  let below := value / unit
  match readsBack b (below * unit), readsBack b ((below + 1) * unit) with
  | true, true => some (if 2 * value < (2 * below + 1) * unit then below else below + 1)
  | true, false => some below
  | false, true => some (below + 1)
  | false, false => none

/-- The decimal with the fewest digits, looked for at the places below a given one, the highest
first. -/
def search (b : Binary) : Nat → Digits
  | 0 => ⟨0, 0⟩
  | place + 1 =>
    match atPlace? b place with
    | some digits => ⟨digits, place⟩
    | none => search b place

/-- The digits of a decimal with a point. -/
def Digits.text (d : Digits) : List Char :=
  let digits := Nat.toDigits 10 d.digits
  if onesPlace ≤ d.place then
    digits ++ List.replicate (d.place - onesPlace) '0' ++ ['.', '0']
  else
    let decimals := onesPlace - d.place
    let padded := digits.leftpad (decimals + 1) '0'
    padded.take (padded.length - decimals) ++ '.' :: padded.drop (padded.length - decimals)

/-- The text of a floating point number, given by its bits. -/
def text (bits : UInt64) : String :=
  let sign := if bits.toNat ≥ Nat.pow 2 63 then "-" else ""
  let rest := bits.toNat % Nat.pow 2 63
  if rest / Nat.pow 2 52 = 2047 then
    if rest % Nat.pow 2 52 = 0 then sign ++ "inf" else "NaN"
  else if rest = 0 then
    sign ++ "0.0"
  else
    sign ++ String.ofList (search (.ofBits rest) 640).text

end ChipEight.Decimal
