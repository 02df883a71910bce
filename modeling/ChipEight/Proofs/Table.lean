/-
# The instruction table

The form of an instruction as a row of digits. A row names the digits that the words of a form have
in common, and leaves the digits open that are operands. A word is decoded exactly if it matches the
row of some form (`decode?_eq_none_iff`), and then it matches the row of the instruction that it
stands for (`matches_of_decode?`). Row and operands together determine the instruction
(`decode?_of_matches`).
-/
import ChipEight.Proofs.Operands

namespace ChipEight

/-! ## Rows -/

namespace Opcode

/-- A row of the instruction table: the digits that the words of a form have in common. -/
structure Row where
  /-- The first digit. -/
  first : Nat
  /-- The second digit, unless it is an operand. -/
  second : Option Nat := none
  /-- The third digit, unless it is an operand. -/
  third : Option Nat := none
  /-- The last digit, unless it is an operand. -/
  last : Option Nat := none
  deriving DecidableEq, Repr

/-- A word has the digits of a row. -/
structure Row.Matches (row : Row) (w : UInt16) : Prop where
  /-- The first digit is that of the row. -/
  first : family w = row.first
  /-- The second digit is that of the row, if the row has one. -/
  second : ∀ digit ∈ row.second, (x w).toNat = digit
  /-- The third digit is that of the row, if the row has one. -/
  third : ∀ digit ∈ row.third, (y w).toNat = digit
  /-- The last digit is that of the row, if the row has one. -/
  last : ∀ digit ∈ row.last, (n w).toNat = digit

variable {w : UInt16} {first digit low : Nat}

/-- Words of a row that names the first digit only. -/
theorem Row.matches_first : Row.Matches { first } w ↔ family w = first :=
  ⟨fun h => h.first, fun h => ⟨h, nofun, nofun, nofun⟩⟩

/-- Words of a row that names the first digit and the last one. -/
theorem Row.matches_last :
    Row.Matches { first, last := some digit } w ↔
      family w = first ∧ w.toNat % 16 = digit := by
  rw [← toNat_n]
  constructor
  · intro h
    exact ⟨h.first, h.last digit rfl⟩
  · rintro ⟨hfirst, hlast⟩
    exact ⟨hfirst, nofun, nofun, fun _ hd => hlast.trans (Option.some.inj hd)⟩

/-- Words of a row that names the first digit and the last two. -/
theorem Row.matches_lastTwo (hlow : low < 16) :
    Row.Matches { first, third := some digit, last := some low } w ↔
      family w = first ∧ w.toNat % 256 = 16 * digit + low := by
  have hsplit : w.toNat % 256 = 16 * (y w).toNat + (n w).toNat := by
    rw [toNat_y, toNat_n]
    omega
  have hn := n_lt w
  constructor
  · intro h
    have hthird := h.third digit rfl
    have hlast := h.last low rfl
    exact ⟨h.first, by omega⟩
  · rintro ⟨hfirst, hnn⟩
    have hthird : (y w).toNat = digit := by omega
    have hlast : (n w).toNat = low := by omega
    exact ⟨hfirst, nofun, fun _ hd => hthird.trans (Option.some.inj hd),
      fun _ hd => hlast.trans (Option.some.inj hd)⟩

/-- Words of a row that names all digits. -/
theorem Row.matches_all {second third last : Nat} (hsecond : second < 16) (hthird : third < 16)
    (hlast : last < 16) :
    Row.Matches { first, second := some second, third := some third, last := some last } w ↔
      w.toNat = 4096 * first + 256 * second + 16 * third + last := by
  have hdigits : w.toNat =
      4096 * family w + 256 * (x w).toNat + 16 * (y w).toNat + (n w).toNat := by
    rw [family, toNat_x, toNat_y, toNat_n]
    omega
  have hx := x_lt w
  have hy := y_lt w
  have hn := n_lt w
  constructor
  · intro h
    rw [hdigits, h.first, h.second second rfl, h.third third rfl, h.last last rfl]
  · intro h
    have h₁ : family w = first := by omega
    have h₂ : (x w).toNat = second := by omega
    have h₃ : (y w).toNat = third := by omega
    have h₄ : (n w).toNat = last := by omega
    exact ⟨h₁, fun _ hd => h₂.trans (Option.some.inj hd),
      fun _ hd => h₃.trans (Option.some.inj hd), fun _ hd => h₄.trans (Option.some.inj hd)⟩

end Opcode

/-! ## The rows of all forms -/

namespace Instruction

open Opcode

/-- The row of the form of an instruction. -/
def row : Instruction → Row
  | sys _ => { first := 0x0 }
  | clearScreen => { first := 0x0, second := some 0x0, third := some 0xE, last := some 0x0 }
  | ret => { first := 0x0, second := some 0x0, third := some 0xE, last := some 0xE }
  | jump _ => { first := 0x1 }
  | call _ => { first := 0x2 }
  | skipIfByte _ _ => { first := 0x3 }
  | skipUnlessByte _ _ => { first := 0x4 }
  | skipIfEqual _ _ => { first := 0x5, last := some 0x0 }
  | setByte _ _ => { first := 0x6 }
  | addByte _ _ => { first := 0x7 }
  | copy _ _ => { first := 0x8, last := some 0x0 }
  | or _ _ => { first := 0x8, last := some 0x1 }
  | and _ _ => { first := 0x8, last := some 0x2 }
  | xor _ _ => { first := 0x8, last := some 0x3 }
  | add _ _ => { first := 0x8, last := some 0x4 }
  | sub _ _ => { first := 0x8, last := some 0x5 }
  | shiftRight _ => { first := 0x8, last := some 0x6 }
  | subFrom _ _ => { first := 0x8, last := some 0x7 }
  | shiftLeft _ => { first := 0x8, last := some 0xE }
  | skipUnlessEqual _ _ => { first := 0x9, last := some 0x0 }
  | setIndex _ => { first := 0xA }
  | jumpOffset _ => { first := 0xB }
  | random _ _ => { first := 0xC }
  | draw _ _ _ => { first := 0xD }
  | skipIfKey _ => { first := 0xE, third := some 0x9, last := some 0xE }
  | skipUnlessKey _ => { first := 0xE, third := some 0xA, last := some 0x1 }
  | readDelay _ => { first := 0xF, third := some 0x0, last := some 0x7 }
  | awaitKey _ => { first := 0xF, third := some 0x0, last := some 0xA }
  | setDelay _ => { first := 0xF, third := some 0x1, last := some 0x5 }
  | setSound _ => { first := 0xF, third := some 0x1, last := some 0x8 }
  | addIndex _ => { first := 0xF, third := some 0x1, last := some 0xE }
  | setGlyph _ => { first := 0xF, third := some 0x2, last := some 0x9 }
  | storeDecimal _ => { first := 0xF, third := some 0x3, last := some 0x3 }
  | storeRegisters _ => { first := 0xF, third := some 0x5, last := some 0x5 }
  | loadRegisters _ => { first := 0xF, third := some 0x6, last := some 0x5 }

variable {w : UInt16} {i : Instruction}

/-- The form `00E0` has a single word. -/
theorem matches_clearScreen : clearScreen.row.Matches w ↔ w = 0x00E0 := by
  rw [row, Row.matches_all (by decide) (by decide) (by decide), ← UInt16.toNat_inj]
  exact Iff.rfl

/-- The form `00EE` has a single word. -/
theorem matches_ret : ret.row.Matches w ↔ w = 0x00EE := by
  rw [row, Row.matches_all (by decide) (by decide) (by decide), ← UInt16.toNat_inj]
  exact Iff.rfl

/-- Instructions of the family `0` stand for words of their rows. -/
theorem matches_decodeSystem (hf : family w = 0x0) : (decodeSystem w).row.Matches w := by
  unfold decodeSystem
  split
  next h => exact matches_clearScreen.2 (UInt16.toNat_inj.1 h)
  next h => exact matches_ret.2 (UInt16.toNat_inj.1 h)
  next => exact Row.matches_first.2 hf

/-- Instructions of the family `8` stand for words of their rows. -/
theorem matches_of_decodeArithmetic (hf : family w = 0x8) (h : decodeArithmetic w = some i) :
    i.row.Matches w := by
  unfold decodeArithmetic at h
  split at h <;> cases h
  all_goals
    next hn => exact Row.matches_last.2 ⟨hf, hn⟩

/-- Instructions of the family `E` stand for words of their rows. -/
theorem matches_of_decodeKey (hf : family w = 0xE) (h : decodeKey w = some i) :
    i.row.Matches w := by
  unfold decodeKey at h
  split at h <;> cases h
  all_goals
    next hnn => exact (Row.matches_lastTwo (by decide)).2 ⟨hf, hnn⟩

/-- Instructions of the family `F` stand for words of their rows. -/
theorem matches_of_decodeDevice (hf : family w = 0xF) (h : decodeDevice w = some i) :
    i.row.Matches w := by
  unfold decodeDevice at h
  split at h <;> cases h
  all_goals
    next hnn => exact (Row.matches_lastTwo (by decide)).2 ⟨hf, hnn⟩

/-- A word matches the row of the instruction that it stands for. -/
theorem matches_of_decode? (h : decode? w = some i) : i.row.Matches w := by
  unfold decode? at h
  split at h
  case h_1 hf =>
    cases h
    exact matches_decodeSystem hf
  case h_6 hf | h_10 hf =>
    split at h <;> cases h
    next hn => exact Row.matches_last.2 ⟨hf, hn⟩
  case h_9 hf => exact matches_of_decodeArithmetic hf h
  case h_15 hf => exact matches_of_decodeKey hf h
  case h_16 hf => exact matches_of_decodeDevice hf h
  case h_17 => cases h
  all_goals
    cases h
    exact Row.matches_first.2 (by assumption)

/-- A word of the family `0` stands for an instruction. -/
theorem decode?_of_system (hf : family w = 0x0) : decode? w = some (decodeSystem w) := by
  simp only [decode?, hf]

/-- A word that matches the row of some form stands for an instruction of that form. Only the row of
the form `0nnn` has words of other forms. -/
theorem exists_decode?_of_matches (h : i.row.Matches w) (hi : i.row ≠ { first := 0x0 }) :
    ∃ j, decode? w = some j ∧ j.row = i.row := by
  -- the first digit selects the family, the other digits of the row the member of the family
  have hf := h.first
  cases i with
  | sys => exact absurd rfl hi
  | clearScreen =>
    obtain rfl := matches_clearScreen.1 h
    exact ⟨_, rfl, rfl⟩
  | ret =>
    obtain rfl := matches_ret.1 h
    exact ⟨_, rfl, rfl⟩
  | copy | or | and | xor | add | sub | shiftRight | subFrom | shiftLeft =>
    have hn := (Row.matches_last.1 h).2
    simp only [row] at hf
    simp only [decode?, hf, decodeArithmetic, hn]
    exact ⟨_, rfl, rfl⟩
  | skipIfEqual | skipUnlessEqual =>
    have hn := (Row.matches_last.1 h).2
    simp only [row] at hf
    simp only [decode?, hf, hn, if_true]
    exact ⟨_, rfl, rfl⟩
  | skipIfKey | skipUnlessKey =>
    have hnn := ((Row.matches_lastTwo (by decide)).1 h).2
    simp only [row] at hf
    simp only [decode?, hf, decodeKey, hnn]
    exact ⟨_, rfl, rfl⟩
  | readDelay | awaitKey | setDelay | setSound | addIndex | setGlyph | storeDecimal
  | storeRegisters | loadRegisters =>
    have hnn := ((Row.matches_lastTwo (by decide)).1 h).2
    simp only [row] at hf
    simp only [decode?, hf, decodeDevice, hnn]
    exact ⟨_, rfl, rfl⟩
  | _ =>
    simp only [row] at hf
    simp only [decode?, hf]
    exact ⟨_, rfl, rfl⟩

/-- No two instructions have the same row and the same operands. -/
theorem eq_of_row_eq {j : Instruction} (hrow : j.row = i.row) (hj : j.OperandsOf w)
    (hi : i.OperandsOf w) : j = i := by
  -- of two different forms the rows differ already
  cases i <;> cases j <;> cases hrow
  all_goals
    simp only [OperandsOf] at hi hj
    simp only [hi, hj]

/-- A word stands for the instruction whose row it matches and whose operands are its digits. -/
theorem decode?_of_matches (h : i.row.Matches w) (hops : i.OperandsOf w)
    (hi : i.row ≠ { first := 0x0 }) : decode? w = some i := by
  obtain ⟨j, hd, hrow⟩ := exists_decode?_of_matches h hi
  rw [hd, eq_of_row_eq hrow (operands_of_decode? hd) hops]

/-- A word of the family `0` that stands for nothing else is a call into the host computer. -/
theorem decode?_of_host (hf : family w = 0x0) (hclear : w ≠ 0x00E0) (hret : w ≠ 0x00EE) :
    decode? w = some (sys (nnn w)) := by
  rw [decode?_of_system hf, decodeSystem]
  split
  next h => exact absurd (UInt16.toNat_inj.1 h) hclear
  next h => exact absurd (UInt16.toNat_inj.1 h) hret
  next => rfl

/-- A word is refused exactly if it matches the row of no form. -/
theorem decode?_eq_none_iff : decode? w = none ↔ ∀ i : Instruction, ¬ i.row.Matches w := by
  constructor
  · intro h i hi
    by_cases hrow : i.row = { first := 0x0 }
    · rw [hrow, Row.matches_first] at hi
      rw [decode?_of_system hi] at h
      cases h
    · obtain ⟨j, hj, -⟩ := exists_decode?_of_matches hi hrow
      rw [hj] at h
      cases h
  · intro h
    cases hd : decode? w with
    | none => rfl
    | some i => exact absurd (matches_of_decode? hd) (h i)

end Instruction

end ChipEight
