/-
# Operands of decoded instructions

The operands of an instruction that was decoded from a word are digits of that word: a register is
one digit, an address is three, and the height of a sprite is one. So every register exists, every
address lies in memory, and a sprite has at most fifteen rows.
-/
import ChipEight.Instruction

namespace ChipEight

/-! ## The digits of a word -/

namespace Opcode

/-- The second digit of a word as a number. -/
theorem toNat_x (w : UInt16) : (x w).toNat = w.toNat / 256 % 16 := by
  unfold x
  rw [UInt8.toNat_ofNat']
  omega

/-- The third digit of a word as a number. -/
theorem toNat_y (w : UInt16) : (y w).toNat = w.toNat / 16 % 16 := by
  unfold y
  rw [UInt8.toNat_ofNat']
  omega

/-- The last digit of a word as a number. -/
theorem toNat_n (w : UInt16) : (n w).toNat = w.toNat % 16 := by
  unfold n
  rw [UInt8.toNat_ofNat']
  omega

/-- The second digit of a word is a digit. -/
theorem x_lt (w : UInt16) : (x w).toNat < 16 := by
  rw [toNat_x]
  exact Nat.mod_lt _ (by decide)

/-- The third digit of a word is a digit. -/
theorem y_lt (w : UInt16) : (y w).toNat < 16 := by
  rw [toNat_y]
  exact Nat.mod_lt _ (by decide)

/-- The last digit of a word is a digit. -/
theorem n_lt (w : UInt16) : (n w).toNat < 16 := by
  rw [toNat_n]
  exact Nat.mod_lt _ (by decide)

/-- The last three digits of a word are an address in memory. -/
theorem nnn_lt (w : UInt16) : (nnn w).toNat < 4096 := by
  unfold nnn
  rw [UInt16.toNat_ofNat']
  omega

end Opcode

/-! ## Instructions whose operands are digits -/

namespace Instruction

open Opcode

/-- The operands of an instruction are the digits of a word, as its form says. -/
def OperandsOf (w : UInt16) : Instruction → Prop
  | clearScreen | ret => True
  | sys a | jump a | call a | setIndex a | jumpOffset a => a = nnn w
  | draw vx vy rows => vx = x w ∧ vy = y w ∧ rows = n w
  | skipIfEqual vx vy | skipUnlessEqual vx vy | copy vx vy | or vx vy | and vx vy | xor vx vy
  | add vx vy | sub vx vy | subFrom vx vy => vx = x w ∧ vy = y w
  | skipIfByte vx b | skipUnlessByte vx b | setByte vx b | addByte vx b | random vx b =>
    vx = x w ∧ b = nn w
  | shiftRight vx | shiftLeft vx | skipIfKey vx | skipUnlessKey vx | readDelay vx | awaitKey vx
  | setDelay vx | setSound vx | addIndex vx | setGlyph vx | storeDecimal vx | storeRegisters vx
  | loadRegisters vx => vx = x w

/-- The registers and the height of an instruction are single digits, and its address has three. -/
def Fits : Instruction → Prop
  | clearScreen | ret => True
  | sys a | jump a | call a | setIndex a | jumpOffset a => a.toNat < 4096
  | draw x y n => x.toNat < 16 ∧ y.toNat < 16 ∧ n.toNat < 16
  | skipIfEqual x y | skipUnlessEqual x y | copy x y | or x y | and x y | xor x y | add x y
  | sub x y | subFrom x y => x.toNat < 16 ∧ y.toNat < 16
  | skipIfByte x _ | skipUnlessByte x _ | setByte x _ | addByte x _ | random x _
  | shiftRight x | shiftLeft x | skipIfKey x | skipUnlessKey x | readDelay x | awaitKey x
  | setDelay x | setSound x | addIndex x | setGlyph x | storeDecimal x | storeRegisters x
  | loadRegisters x => x.toNat < 16

variable {w : UInt16} {i : Instruction}

/-- The operands of the family `0`. -/
theorem operands_decodeSystem (w : UInt16) : (decodeSystem w).OperandsOf w := by
  unfold decodeSystem
  split
  · exact trivial
  · exact trivial
  · exact rfl

/-- The operands of the family `8`. -/
theorem operands_of_decodeArithmetic (h : decodeArithmetic w = some i) : i.OperandsOf w := by
  unfold decodeArithmetic at h
  split at h <;> cases h
  all_goals first
    | exact ⟨rfl, rfl⟩
    | exact rfl

/-- The operands of the family `E`. -/
theorem operands_of_decodeKey (h : decodeKey w = some i) : i.OperandsOf w := by
  unfold decodeKey at h
  split at h <;> cases h
  all_goals exact rfl

/-- The operands of the family `F`. -/
theorem operands_of_decodeDevice (h : decodeDevice w = some i) : i.OperandsOf w := by
  unfold decodeDevice at h
  split at h <;> cases h
  all_goals exact rfl

/-- The operands of an instruction are the digits of the word that it was decoded from. -/
theorem operands_of_decode? (h : decode? w = some i) : i.OperandsOf w := by
  unfold decode? at h
  split at h
  case h_1 =>
    cases h
    exact operands_decodeSystem w
  case h_6 | h_10 =>
    split at h <;> cases h
    exact ⟨rfl, rfl⟩
  case h_9 => exact operands_of_decodeArithmetic h
  case h_14 =>
    cases h
    exact ⟨rfl, rfl, rfl⟩
  case h_15 => exact operands_of_decodeKey h
  case h_16 => exact operands_of_decodeDevice h
  all_goals cases h
  all_goals first
    | exact rfl
    | exact ⟨rfl, rfl⟩

/-- An instruction whose operands are the digits of a word fits. -/
theorem OperandsOf.fits (h : i.OperandsOf w) : i.Fits := by
  cases i with
  | clearScreen | ret => exact trivial
  | sys | jump | call | setIndex | jumpOffset =>
    obtain rfl := h
    exact nnn_lt w
  | draw =>
    obtain ⟨rfl, rfl, rfl⟩ := h
    exact ⟨x_lt w, y_lt w, n_lt w⟩
  | skipIfEqual | skipUnlessEqual | copy | or | and | xor | add | sub | subFrom =>
    obtain ⟨rfl, rfl⟩ := h
    exact ⟨x_lt w, y_lt w⟩
  | skipIfByte | skipUnlessByte | setByte | addByte | random =>
    obtain ⟨rfl, rfl⟩ := h
    exact x_lt w
  | _ =>
    obtain rfl := h
    exact x_lt w

/-- Every instruction that a word stands for fits. -/
theorem fits_of_decode? (h : decode? w = some i) : i.Fits := (operands_of_decode? h).fits

end Instruction

end ChipEight
