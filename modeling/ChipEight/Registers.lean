/-
# Registers

The sixteen general registers `V0` to `VF`. The last one doubles as the flag that arithmetic and
drawing report through.
-/

namespace ChipEight

/-- The contents of the registers. -/
structure Registers where
  /-- The bytes by register number. -/
  cells : Vector UInt8 16
  deriving DecidableEq

namespace Registers

/-- Registers of zeros. -/
def empty : Registers := ⟨Vector.replicate 16 0⟩

/-- The number of the flag register. -/
def flag : UInt8 := 0xF

/-- The register that an operand selects: its last hexadecimal digit counts. -/
def select (r : UInt8) : Nat := r.toNat % 16

/-- Every operand selects one of the sixteen registers. -/
theorem select_lt (r : UInt8) : select r < 16 := Nat.mod_lt _ (by decide)

/-- Different digits select different registers. -/
theorem select_ne {r s : UInt8} (hr : r.toNat < 16) (hs : s.toNat < 16) (h : r ≠ s) :
    select r ≠ select s := by
  intro hselect
  rw [select, select, Nat.mod_eq_of_lt hr, Nat.mod_eq_of_lt hs] at hselect
  exact h (UInt8.toNat_inj.1 hselect)

/-- The value of a register. -/
def get (v : Registers) (r : UInt8) : UInt8 :=
  have h := select_lt r
  v.cells[select r]

/-- Set one register. -/
def set (v : Registers) (r b : UInt8) : Registers :=
  ⟨v.cells.set (select r) b (select_lt r)⟩

/-- Set the flag and then a register, so that the register wins if it is the flag itself. -/
def setWithFlag (v : Registers) (r b f : UInt8) : Registers :=
  (v.set flag f).set r b

/-- The first `count` registers. -/
def take (v : Registers) (count : Nat) : List UInt8 := v.cells.toList.take count

/-- Set the registers from number `r` on to the given bytes. -/
def fill (v : Registers) (r : Nat) : List UInt8 → Registers
  | [] => v
  | b :: bytes => fill (if h : r < 16 then ⟨v.cells.set r b h⟩ else v) (r + 1) bytes

/-- All registers in order. -/
def toList (v : Registers) : List UInt8 := v.cells.toList

/-! ## Setting and getting -/

/-- A register that was set reads back, and all others stay as they are. -/
theorem get_set (v : Registers) (r s b : UInt8) :
    (v.set r b).get s = if select r = select s then b else v.get s := by
  simp only [get, set, Vector.getElem_set]

/-- A register that was set reads back. -/
theorem get_set_self (v : Registers) (r b : UInt8) : (v.set r b).get r = b := by
  rw [get_set, if_pos rfl]

/-- Setting a register leaves the others alone. -/
theorem get_set_of_ne (v : Registers) (r s b : UInt8) (h : select r ≠ select s) :
    (v.set r b).get s = v.get s := by
  rw [get_set, if_neg h]

/-- Registers that were filled read back in order, and all others stay as they are. -/
theorem get_fill (v : Registers) (k : Nat) (bytes : List UInt8) (r : UInt8) :
    (v.fill k bytes).get r =
      if h : k ≤ select r ∧ select r < k + bytes.length then
        bytes[select r - k]
      else
        v.get r := by
  have hr := select_lt r
  induction bytes generalizing v k with
  | nil =>
    have h : ¬ (k ≤ select r ∧ select r < k + ([] : List UInt8).length) := by
      simp only [List.length_nil]
      omega
    rw [fill, dif_neg h]
  | cons b bytes ih =>
    rw [fill, ih]
    by_cases h : k + 1 ≤ select r ∧ select r < k + 1 + bytes.length
    · have h' : k ≤ select r ∧ select r < k + (b :: bytes).length := by
        simp only [List.length_cons]
        omega
      have hk : select r - k = select r - (k + 1) + 1 := by omega
      rw [dif_pos h, dif_pos h']
      simp only [hk, List.getElem_cons_succ]
    · rw [dif_neg h]
      by_cases hk : k = select r
      · have h' : k ≤ select r ∧ select r < k + (b :: bytes).length := by
          simp only [List.length_cons]
          omega
        rw [dif_pos h']
        subst hk
        simp [get, hr]
      · have h' : ¬ (k ≤ select r ∧ select r < k + (b :: bytes).length) := by
          simp only [List.length_cons]
          omega
        rw [dif_neg h']
        split
        · simp only [get, Vector.getElem_set, if_neg hk]
        · rfl

/-- Register `k` is the one at place `k` among the first registers. -/
theorem getElem_take (v : Registers) {count k : Nat} (h : k < (v.take count).length) (r : UInt8)
    (hr : select r = k) : (v.take count)[k] = v.get r := by
  subst hr
  simp [take, get]

/-- The first registers are as many as were asked for. -/
theorem length_take (v : Registers) {count : Nat} (h : count ≤ 16) :
    (v.take count).length = count := by
  rw [take, List.length_take, Vector.length_toList, Nat.min_eq_left h]

/-- The first registers, once they were filled, are what they were filled with. -/
theorem take_fill (v : Registers) {bytes : List UInt8} {count : Nat}
    (hlen : bytes.length = count) (h : count ≤ 16) : (v.fill 0 bytes).take count = bytes := by
  subst hlen
  apply List.ext_getElem (length_take _ h)
  intro k hk hk'
  have hselect : select (UInt8.ofNat k) = k := by
    unfold select
    rw [UInt8.toNat_ofNat']
    omega
  have hin : 0 ≤ select (UInt8.ofNat k) ∧ select (UInt8.ofNat k) < 0 + bytes.length := by
    omega
  rw [getElem_take _ hk _ hselect, get_fill, dif_pos hin]
  simp only [hselect, Nat.sub_zero]

/-- The first registers, filled with those of another file, are those of the other file. -/
theorem get_fill_take (v w : Registers) {count : Nat} (h : count ≤ 16) (r : UInt8) :
    (v.fill 0 (w.take count)).get r = if select r < count then w.get r else v.get r := by
  rw [get_fill]
  by_cases hr : select r < count
  · have hin : 0 ≤ select r ∧ select r < 0 + (w.take count).length := by
      rw [length_take w h]
      omega
    rw [dif_pos hin, if_pos hr]
    exact getElem_take w _ r (Nat.sub_zero _).symm
  · have hout : ¬ (0 ≤ select r ∧ select r < 0 + (w.take count).length) := by
      rw [length_take w h]
      omega
    rw [dif_neg hout, if_neg hr]

end Registers

end ChipEight
