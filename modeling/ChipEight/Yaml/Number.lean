/-
# Numbers in documents

The spelling of integers: decimal without leading zeros, or hexadecimal, octal and binary behind
`0x`, `0o` and `0b`, with an optional sign in front.
-/
import ChipEight.Yaml.Character

namespace ChipEight.Yaml

/-- The number that digits of a base stand for, if there are any and all of them are digits. -/
def ofDigits? (base : Nat) (digits : List Char) : Option Nat :=
  if digits.isEmpty then
    none
  else
    digits.foldlM (fun n d => do
      let v ← hexValue? d
      if v < base then some (base * n + v) else none) 0

/-- Decimal digits with a zero in front that is not the only one. -/
def hasLeadingZero (digits : List Char) : Bool :=
  digits.head? == some '0' && decide (digits.length > 1) && digits.all isDigit

/-- The number that a text without sign stands for. -/
def magnitude? : List Char → Option Nat
  | '0' :: 'x' :: digits => ofDigits? 16 digits
  | '0' :: 'o' :: digits => ofDigits? 8 digits
  | '0' :: 'b' :: digits => ofDigits? 2 digits
  | digits => if hasLeadingZero digits then none else ofDigits? 10 digits

/-- The 64-bit number that a text stands for; a plus sign may stand in front. -/
def unsigned? (text : List Char) : Option Nat :=
  let body := match text with
    | '+' :: rest => rest
    | _ => text
  (magnitude? body).filter (· < UInt64.size)

/-- The signed 64-bit number that a text stands for; a plus or a minus sign may stand in front. -/
def signed? (text : List Char) : Option Int64 :=
  match text with
  | '-' :: rest =>
    ((magnitude? rest).filter (· ≤ Int64.size / 2)).map fun n => Int64.ofInt (-(n : Int))
  | '+' :: rest => ((magnitude? rest).filter (· < Int64.size / 2)).map fun n => Int64.ofInt n
  | _ => ((magnitude? text).filter (· < Int64.size / 2)).map fun n => Int64.ofInt n

/-- The spellings of the absent value. -/
def isNull (text : String) : Bool := text ∈ ["null", "Null", "NULL", "~"]

end ChipEight.Yaml
