/-
# Hexadecimal numerals

What it is to write a number in upper-case hexadecimal with a least width: the digits are of the
alphabet `0` to `F`, their value is the number, and no zero stands in front beyond the least width
(`Text.IsUpperHex`). The digits that are shown are such a numeral (`isUpperHex_upperHexDigits`), so
the number can be read back from them.
-/
import ChipEight.Text.Hexadecimal
import Mathlib.Algebra.Group.Nat.Defs
import Mathlib.Data.List.Basic
import Mathlib.Data.List.Induction

namespace ChipEight.Text

/-! ## Digits and values -/

/-- The upper-case hexadecimal digits, in the order of their values. -/
def hexAlphabet : List Char := "0123456789ABCDEF".toList

/-- The number that upper-case hexadecimal digits stand for. -/
def hexValue (digits : List Char) : Nat :=
  digits.foldl (fun value c => 16 * value + hexAlphabet.idxOf c) 0

/-- Digits that write a number in upper-case hexadecimal, with zeros in front up to a least
width. -/
structure IsUpperHex (width n : Nat) (digits : List Char) : Prop where
  /-- All digits are of the alphabet. -/
  digit : ∀ c ∈ digits, c ∈ hexAlphabet
  /-- Their value is the number. -/
  value : hexValue digits = n
  /-- There are as many as asked for. -/
  width_le : width ≤ digits.length
  /-- There are no more than needed. -/
  leading : width < digits.length → 1 < digits.length → digits.head? ≠ some '0'

/-- The last digit counts for itself, and the others for sixteen times their value. -/
theorem hexValue_concat (digits : List Char) (c : Char) :
    hexValue (digits ++ [c]) = 16 * hexValue digits + hexAlphabet.idxOf c := by
  rw [hexValue, List.foldl_append]
  rfl

/-- Each further digit makes those in front of it count sixteen times as much. -/
theorem hexValue_append (front rest : List Char) :
    hexValue (front ++ rest) = 16 ^ rest.length * hexValue front + hexValue rest := by
  induction rest using List.reverseRecOn with
  | nil => simp [hexValue]
  | append_singleton rest c ih =>
    rw [← List.append_assoc, hexValue_concat, hexValue_concat, ih, List.length_append,
      List.length_singleton, Nat.pow_succ', Nat.mul_assoc]
    omega

/-- Zeros in front do not count. -/
theorem hexValue_replicate_append (k : Nat) (digits : List Char) :
    hexValue (List.replicate k '0' ++ digits) = hexValue digits := by
  have hzeros : hexValue (List.replicate k '0') = 0 := by
    induction k with
    | zero => rfl
    | succ k ih =>
      rw [List.replicate_succ', hexValue_concat, ih]
      rfl
  rw [hexValue_append, hzeros, Nat.mul_zero, Nat.zero_add]

/-- The digit of a value is of the alphabet, in the place of its value, and zero is the only one
that is shown as zero. -/
theorem idxOf_digitChar : ∀ d < 16,
    d.digitChar.toUpper ∈ hexAlphabet ∧ hexAlphabet.idxOf d.digitChar.toUpper = d ∧
      (d.digitChar.toUpper = '0' → d = 0) := by
  decide

/-- In any base, the first digit of a positive number has a positive value. -/
theorem exists_head?_toDigits {b n : Nat} (hb : 1 < b) (hn : 0 < n) :
    ∃ d < b, 0 < d ∧ (Nat.toDigits b n).head? = some d.digitChar := by
  induction n using Nat.strongRecOn with
  | ind n ih =>
    rcases Nat.lt_or_ge n b with h | h
    · refine ⟨n, h, hn, ?_⟩
      rw [Nat.toDigits_of_lt_base h, List.head?_cons]
    · -- all digits but the last are those of the quotient, which is smaller
      rw [Nat.toDigits_of_base_le hb h, List.head?_append_of_ne_nil _ Nat.toDigits_ne_nil]
      exact ih (n / b) (Nat.div_lt_self hn hb) (Nat.div_pos h (Nat.zero_lt_of_lt hb))

/-! ## Numerals without filling -/

/-- The digits of a number, as far as they are needed. -/
def plainDigits (n : Nat) : List Char := (Nat.toDigits 16 n).map Char.toUpper

/-- A number below sixteen has a single digit. -/
theorem plainDigits_of_lt {n : Nat} (h : n < 16) : plainDigits n = [n.digitChar.toUpper] := by
  rw [plainDigits, Nat.toDigits_of_lt_base h]
  rfl

/-- The last digit of a larger number comes behind the digits of its sixteenth part. -/
theorem plainDigits_of_le {n : Nat} (h : 16 ≤ n) :
    plainDigits n = plainDigits (n / 16) ++ [(n % 16).digitChar.toUpper] := by
  rw [plainDigits, Nat.toDigits_of_base_le (by decide) h, List.map_append]
  rfl

/-- The digits of a number are of the alphabet. -/
theorem mem_plainDigits (n : Nat) : ∀ c ∈ plainDigits n, c ∈ hexAlphabet := by
  induction n using Nat.strongRecOn with
  | ind n ih =>
    rcases Nat.lt_or_ge n 16 with h | h
    · rw [plainDigits_of_lt h, List.forall_mem_singleton]
      exact (idxOf_digitChar n h).1
    · rw [plainDigits_of_le h, List.forall_mem_append, List.forall_mem_singleton]
      exact ⟨ih (n / 16) (by omega), (idxOf_digitChar (n % 16) (by omega)).1⟩

/-- The value of the digits of a number is the number. -/
theorem hexValue_plainDigits (n : Nat) : hexValue (plainDigits n) = n := by
  induction n using Nat.strongRecOn with
  | ind n ih =>
    rcases Nat.lt_or_ge n 16 with h | h
    · rw [plainDigits_of_lt h]
      simpa [hexValue] using (idxOf_digitChar n h).2.1
    · rw [plainDigits_of_le h, hexValue_concat, ih (n / 16) (by omega),
        (idxOf_digitChar (n % 16) (by omega)).2.1]
      omega

/-- The first digit of a number is not zero, unless the number is. -/
theorem head?_plainDigits {n : Nat} (hn : 0 < n) : (plainDigits n).head? ≠ some '0' := by
  obtain ⟨d, hd, hpos, hhead⟩ := exists_head?_toDigits (b := 16) (by decide) hn
  rw [plainDigits, List.head?_map, hhead, Option.map_some, ne_eq, Option.some_inj]
  intro hzero
  exact absurd ((idxOf_digitChar d hd).2.2 hzero) (Nat.ne_of_gt hpos)

/-! ## Numerals with filling -/

/-- The digits that are shown are those of the number, behind zeros that fill them up. -/
theorem upperHexDigits_eq (width n : Nat) :
    upperHexDigits width n =
      List.replicate (width - (plainDigits n).length) '0' ++ plainDigits n := rfl

/-- The digits that are shown write the number. -/
theorem isUpperHex_upperHexDigits (width n : Nat) :
    IsUpperHex width n (upperHexDigits width n) where
  digit := by
    intro c hc
    rw [upperHexDigits_eq, List.mem_append] at hc
    rcases hc with hc | hc
    · rw [List.eq_of_mem_replicate hc]
      decide
    · exact mem_plainDigits n c hc
  value := by
    rw [upperHexDigits_eq, hexValue_replicate_append, hexValue_plainDigits]
  width_le := le_length_upperHexDigits width n
  leading := by
    intro hwidth hlength
    rw [upperHexDigits_eq, List.length_append, List.length_replicate] at hwidth hlength
    -- more digits than asked for are digits of the number, and then they are not filled up
    have hnone : width - (plainDigits n).length = 0 := by omega
    rw [upperHexDigits_eq, hnone, List.replicate_zero, List.nil_append]
    apply head?_plainDigits
    by_contra hn
    rw [plainDigits_of_lt (by omega)] at hlength hwidth
    simp only [List.length_singleton] at hlength hwidth
    omega

/-- A number takes no more digits than asked for if it has no more. -/
theorem length_upperHexDigits {width n : Nat} (hwidth : 0 < width) (hn : n < 16 ^ width) :
    (upperHexDigits width n).length = width := by
  have hplain : (plainDigits n).length ≤ width := by
    rw [plainDigits, List.length_map]
    exact (Nat.length_toDigits_le_iff (by decide) hwidth).2 hn
  rw [upperHexDigits_eq, List.length_append, List.length_replicate]
  omega

end ChipEight.Text
