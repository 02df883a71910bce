/-
# Numbers of keys are never truncated

A key is read from a signed or from an unsigned number of 64 bits. Each of the two has a bound of
its own, narrows the number to a byte, and looks the byte up among the keys. The bounds come first,
so narrowing never loses anything (`Key.toNat_byte_of_signed`), and both ways come to what is read
from the number itself, however large it is (`Key.ofSigned_eq`, `Key.ofUnsigned_eq`). The main
statement is `Key.number_never_truncated`.
-/
import ChipEight.Key.Reading
import ChipEight.Proofs.Hexadecimal

namespace ChipEight

/-! ## Decimal numerals -/

namespace Text

/-- A text that writes an integer in decimal. -/
structure IsDecimal (n : Int) (text : String) : Prop where
  /-- It is digits, behind a minus sign if the integer is negative. There is at least one digit,
  their value is the size of the integer, and no zero stands in front of another digit. -/
  digits : ∃ digits : List Char, text.toList = (if n < 0 then '-' :: digits else digits) ∧
    digits ≠ [] ∧ (∀ c ∈ digits, c.isDigit = true) ∧ Nat.ofDigitChars 10 digits 0 = n.natAbs ∧
    (1 < digits.length → digits.head? ≠ some '0')

/-- The digits of a number have no zero in front of another digit. -/
theorem head?_toDigits {n : Nat} (h : 1 < (Nat.toDigits 10 n).length) :
    (Nat.toDigits 10 n).head? ≠ some '0' := by
  have hn : 10 ≤ n := by
    by_contra hlt
    rw [Nat.toDigits_of_lt_base (Nat.lt_of_not_le hlt)] at h
    exact absurd h (by simp)
  have hdigit : ∀ d < 10, 0 < d → d.digitChar ≠ '0' := by decide
  obtain ⟨d, hd, hpos, hhead⟩ := exists_head?_toDigits (b := 10) (n := n) (by decide) (by omega)
  rw [hhead, ne_eq, Option.some_inj]
  exact hdigit d hd hpos

/-- The text of an integer writes it in decimal. -/
theorem isDecimal_toString (n : Int) : IsDecimal n (toString n) where
  digits := by
    refine ⟨Nat.toDigits 10 n.natAbs, ?_, Nat.toDigits_ne_nil, ?_, ?_, head?_toDigits⟩
    · cases n with
      | ofNat n =>
        have hsign : ¬ Int.ofNat n < 0 := Int.not_lt.2 (Int.natCast_nonneg n)
        rw [if_neg hsign]
        exact Nat.toList_repr
      | negSucc n =>
        rw [if_pos (Int.negSucc_lt_zero n)]
        show ("-" ++ (n + 1).repr).toList = _
        rw [String.toList_append, Nat.toList_repr]
        rfl
    · intro c hc
      exact Nat.isDigit_of_mem_toDigits (by decide) (by decide) hc
    · exact Nat.ofDigitChars_ten_toDigits

end Text

namespace Key

variable {k : Key}

/-! ## Narrowing -/

/-- The key of a byte is the one with its number. -/
theorem ofByte?_eq_some_iff {b : UInt8} : ofByte? b = some k ↔ b.toNat = k.val := by
  rw [ofByte?]
  by_cases h : b.toNat < 16
  · rw [dif_pos h, Option.some_inj, Fin.ext_iff]
  · rw [dif_neg h]
    have hne : b.toNat ≠ k.val := by
      have := k.isLt
      omega
    simp [hne]

/-- A byte beyond the keys has none. -/
theorem ofByte?_eq_none {b : UInt8} (h : 16 ≤ b.toNat) : ofByte? b = none :=
  dif_neg (Nat.not_lt_of_le h)

/-- The number of a key, as a byte, is the number of the key. -/
theorem toNat_toByte (k : Key) : k.toByte.toNat = k.val :=
  ofByte?_eq_some_iff.1 (ofByte?_toByte k)

/-- A signed number that passed its bounds is kept by narrowing. -/
theorem toNat_byte_of_signed {v : Int64} (hlow : 0 ≤ v.toInt) (hhigh : v.toInt ≤ 255) :
    v.toUInt64.toUInt8.toNat = v.toInt.toNat := by
  have hsame : v.toUInt64.toNat = v.toInt.toNat := by
    rw [Int64.toNat_toUInt64_of_le (Int64.le_iff_toInt_le.2 hlow), Int64.toNat_toInt]
  rw [UInt64.toNat_toUInt8, hsame]
  omega

/-- An unsigned number that passed its bound is kept by narrowing. -/
theorem toNat_byte_of_unsigned {v : UInt64} (h : v.toNat ≤ 255) :
    v.toUInt8.toNat = v.toNat := by
  rw [UInt64.toNat_toUInt8]
  omega

/-! ## Reading without bounds -/

/-- The key with a number, or the refusal of the number, whatever the number is. -/
def ofNumber (n : Int) : Except ReadError Key :=
  if h : 0 ≤ n ∧ n ≤ 15 then .ok ⟨n.toNat, by omega⟩ else .error (.outOfRange n)

/-- What is looked up for a number that fits into a byte is read from the number. -/
theorem ofByte?_of_number {b : UInt8} {n : Int} (h : (b.toNat : Int) = n) :
    (match ofByte? b with
      | some k => .ok k
      | none => .error (.outOfRange n)) = ofNumber n := by
  rw [ofNumber]
  by_cases hn : 0 ≤ n ∧ n ≤ 15
  · have hk : ofByte? b = some ⟨n.toNat, by omega⟩ := by
      rw [ofByte?_eq_some_iff]
      show b.toNat = n.toNat
      omega
    rw [hk, dif_pos hn]
  · rw [ofByte?_eq_none (by omega), dif_neg hn]

/-- The bounds of a signed number are those of a byte. -/
theorem checkByte_eq (v : Int64) :
    checkByte v = if v.toInt < 0 ∨ 255 < v.toInt then .error (.outOfRange v.toInt) else .ok () := by
  rw [checkByte]
  exact if_congr (or_congr Int64.lt_iff_toInt_lt Int64.lt_iff_toInt_lt) rfl rfl

/-- A key is read from a signed number as from the number itself. -/
theorem ofSigned_eq (v : Int64) : ofSigned v = ofNumber v.toInt := by
  rw [ofSigned, checkByte_eq]
  by_cases h : v.toInt < 0 ∨ 255 < v.toInt
  · rw [if_pos h, ofNumber, dif_neg (by omega)]
    rfl
  · have hbyte := toNat_byte_of_signed (v := v) (by omega) (by omega)
    rw [if_neg h]
    exact ofByte?_of_number (by omega)

/-- A key is read from an unsigned number as from the number itself. -/
theorem ofUnsigned_eq (v : UInt64) : ofUnsigned v = ofNumber v.toNat := by
  have hbound : 255 < v ↔ 255 < v.toNat := UInt64.lt_iff_toNat_lt
  rw [ofUnsigned]
  by_cases h : 255 < v.toNat
  · rw [if_pos (hbound.2 h), ofNumber, dif_neg (by omega)]
  · rw [if_neg (mt hbound.1 h)]
    exact ofByte?_of_number (congrArg Int.ofNat (toNat_byte_of_unsigned (by omega)))

/-! ## What is read -/

/-- What it is to read a key from a number without truncating the number. -/
structure ReadsExactly (n : Int) (result : Except ReadError Key) : Prop where
  /-- A key is read exactly from the numbers 0 to 15. -/
  isOk_iff : result.isOk ↔ 0 ≤ n ∧ n ≤ 15
  /-- It is the key with that number. -/
  key : ∀ k, result = .ok k → (k.toByte.toNat : Int) = n
  /-- Any other number is refused, and the message names it in decimal, and the range of keys. -/
  refusal : ∀ error, result = .error error → error = .outOfRange n ∧
    ∃ numeral, Text.IsDecimal n numeral ∧
      error.message = "invalid value: integer `" ++ numeral ++
        "`, expected keycode must be in range 0 <= keycode < 16"

/-- The refusal of a number names the number and the range of keys. -/
theorem message_outOfRange (n : Int) :
    (ReadError.outOfRange n).message = "invalid value: integer `" ++ toString n ++
      "`, expected keycode must be in range 0 <= keycode < 16" := by
  have hrange : "`, expected " ++ rangeMessage =
      "`, expected keycode must be in range 0 <= keycode < 16" := by decide
  show "invalid value: integer `" ++ toString n ++ "`, expected " ++ rangeMessage = _
  rw [String.append_assoc, hrange]

/-- Without bounds, a number is read exactly. -/
theorem readsExactly_ofNumber (n : Int) : ReadsExactly n (ofNumber n) where
  isOk_iff := by
    by_cases h : 0 ≤ n ∧ n ≤ 15
    · simp [ofNumber, h, Except.isOk, Except.toBool]
    · simp [ofNumber, h, Except.isOk, Except.toBool]
  key := by
    intro k hk
    rw [ofNumber] at hk
    split at hk
    next h =>
      rw [toNat_toByte, ← Except.ok.inj hk]
      exact Int.toNat_of_nonneg h.1
    next => cases hk
  refusal := by
    intro error herror
    rw [ofNumber] at herror
    split at herror
    next => cases herror
    next =>
      rw [← Except.error.inj herror]
      exact ⟨rfl, toString n, Text.isDecimal_toString n, message_outOfRange n⟩

/-- Numbers of keys are never truncated.

* From a signed number of 64 bits, and from an unsigned one, the key with that number is read if
  there is one, from 0 to 15, and any other number is refused with a message that names it.
* So on the numbers that are both, the two give the same key or the same refusal. -/
theorem number_never_truncated :
    (∀ v : Int64, ReadsExactly v.toInt (ofSigned v)) ∧
    (∀ v : UInt64, ReadsExactly v.toNat (ofUnsigned v)) ∧
    ∀ (v : Int64) (w : UInt64), v.toInt = w.toNat → ofSigned v = ofUnsigned w := by
  refine ⟨?_, ?_, ?_⟩
  · intro v
    rw [ofSigned_eq]
    exact readsExactly_ofNumber v.toInt
  · intro v
    rw [ofUnsigned_eq]
    exact readsExactly_ofNumber v.toNat
  · intro v w h
    rw [ofSigned_eq, ofUnsigned_eq, h]

/-- The low byte of 2 ^ 32 + 5 is the number of a key, and yet the number is refused either way. -/
theorem number_never_truncated_low_byte :
    let v : Int64 := 4294967301
    let w : UInt64 := 4294967301
    v.toInt = w.toNat ∧ ofSigned v = ofUnsigned w ∧ ¬ (ofSigned v).isOk ∧
      ofByte? v.toUInt64.toUInt8 = some 5 := by
  intro v w
  obtain ⟨hsigned, -, hsame⟩ := number_never_truncated
  have h : v.toInt = w.toNat := by decide
  refine ⟨h, hsame v w h, ?_, by decide⟩
  rw [(hsigned v).isOk_iff]
  decide

end Key

end ChipEight
