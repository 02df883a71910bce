/-
# Reading a key

A data file gives a key by its number. A number is accepted exactly if it is the number of a key,
however large it is, and any other kind of value is refused.
-/
import ChipEight.Decimal.Shortest
import ChipEight.Key
import ChipEight.Text.Quoted

namespace ChipEight.Key

/-- A value of a data file that was read where a key was expected. -/
inductive Datum where
  /-- An integer that may be negative. -/
  | signed (value : Int64)
  /-- An integer that may exceed the signed ones. -/
  | unsigned (value : UInt64)
  /-- A truth value. -/
  | truth (value : Bool)
  /-- A floating point number, by its bits. -/
  | real (bits : UInt64)
  /-- A text. -/
  | text (value : String)
  /-- The absent value. -/
  | absent
  deriving DecidableEq, Repr

/-- Why a value is no key. -/
inductive ReadError where
  /-- The number is not the number of a key. -/
  | outOfRange (value : Int)
  /-- The value is not an integer. -/
  | wrongKind (value : Datum)
  deriving DecidableEq, Repr

/-- Refuses a signed number that is too large for a byte or negative. -/
def checkByte (value : Int64) : Except ReadError Unit :=
  if value < 0 ∨ 255 < value then .error (.outOfRange value.toInt) else .ok ()

/-- Read a key from a signed number: once it is known to be a byte, the byte is looked up. -/
def ofSigned (value : Int64) : Except ReadError Key := do
  checkByte value
  match ofByte? value.toUInt64.toUInt8 with
  | some k => return k
  | none => throw (.outOfRange value.toInt)

/-- Read a key from an unsigned number, which has a bound of its own. -/
def ofUnsigned (value : UInt64) : Except ReadError Key :=
  if 255 < value then
    .error (.outOfRange value.toNat)
  else
    match ofByte? value.toUInt8 with
    | some k => .ok k
    | none => .error (.outOfRange value.toNat)

/-- Read a key from any value. -/
def ofDatum : Datum → Except ReadError Key
  | .signed value => ofSigned value
  | .unsigned value => ofUnsigned value
  | value => .error (.wrongKind value)

/-- A value with its kind, as error messages show it. -/
def Datum.describe : Datum → String
  | signed value => "integer `" ++ toString value.toInt ++ "`"
  | unsigned value => "integer `" ++ value.toNat.repr ++ "`"
  | truth value => "boolean `" ++ (if value then "true" else "false") ++ "`"
  | real bits => "floating point `" ++ Decimal.text bits ++ "`"
  | text value => "string " ++ Text.quote value
  | absent => "unit value"

/-- The error in words. -/
def ReadError.message : ReadError → String
  | outOfRange value =>
    "invalid value: integer `" ++ toString value ++ "`, expected " ++ rangeMessage
  | wrongKind value =>
    "invalid type: " ++ value.describe ++ ", expected an 8-bit integer between 0 and 16"

end ChipEight.Key
