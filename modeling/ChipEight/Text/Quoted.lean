/-
# Quoted text

Texts and characters in quotes, as messages show what was read. The quote itself, the backslash
and the common controls are escaped by a backslash, and other characters that have no picture of
their own are shown by their code.
-/
import ChipEight.Text.Hexadecimal
import ChipEight.Text.Unpictured

namespace ChipEight.Text

/-- A character inside of quotes. -/
def escape (quote c : Char) : List Char :=
  match c with
  | '\x00' => ['\\', '0']
  | '\t' => ['\\', 't']
  | '\r' => ['\\', 'r']
  | '\n' => ['\\', 'n']
  | '\\' => ['\\', '\\']
  | _ =>
    if c == quote then ['\\', c]
    else if isUnpictured c then '\\' :: 'u' :: '\x7b' :: Nat.toDigits 16 c.toNat ++ ['\x7d']
    else [c]

/-- A text in double quotes. -/
def quote (text : String) : String :=
  String.ofList ('\x22' :: text.toList.flatMap (escape '\x22') ++ ['\x22'])

/-- A character in single quotes. -/
def quoteChar (c : Char) : String :=
  String.ofList ('\x27' :: escape '\x27' c ++ ['\x27'])

end ChipEight.Text
