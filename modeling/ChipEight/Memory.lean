/-
# Memory

The 4096 bytes of the machine. Nothing lies past the end: reading there gives zeros, and writing
there does nothing. Whether an access may be made at all is up to the machine.
-/
import ChipEight.Failure

namespace ChipEight

/-- The contents of memory. -/
structure Memory where
  /-- The bytes by address. -/
  cells : Vector UInt8 memorySize
  deriving DecidableEq

namespace Memory

/-- Memory of zeros. -/
def empty : Memory := ⟨Vector.replicate memorySize 0⟩

/-- The byte at an address, zero outside of memory. -/
def byte (m : Memory) (a : Nat) : UInt8 :=
  if h : a < memorySize then m.cells[a] else 0

/-- The bytes from `start` on, `len` of them. -/
def slice (m : Memory) (start len : Nat) : List UInt8 :=
  (List.range len).map fun k => m.byte (start + k)

/-- Set the byte at an address; outside of memory nothing happens. -/
def set (m : Memory) (a : Nat) (b : UInt8) : Memory :=
  if h : a < memorySize then ⟨m.cells.set a b h⟩ else m

/-- Set the bytes from `start` on. -/
def overwrite (m : Memory) (start : Nat) : List UInt8 → Memory
  | [] => m
  | b :: bytes => (m.set start b).overwrite (start + 1) bytes

/-- Bytes two by two. A byte that is left over is dropped. -/
def pairs : List UInt8 → List (UInt8 × UInt8)
  | high :: low :: rest => (high, low) :: pairs rest
  | _ => []

/-- The word at an address, high byte first. -/
def word (m : Memory) (a : Nat) : UInt16 :=
  UInt16.ofNat ((m.byte a).toNat * 256 + (m.byte (a + 1)).toNat)

/-! ## Bytes -/

/-- Empty memory holds zeros. -/
theorem byte_empty (a : Nat) : empty.byte a = 0 := by
  unfold byte empty
  by_cases h : a < memorySize
  · rw [dif_pos h]
    exact Vector.getElem_replicate _
  · rw [dif_neg h]

/-- A byte that was set reads back, and all others stay as they are. -/
theorem byte_set (m : Memory) (a b : Nat) (v : UInt8) :
    (m.set a v).byte b = if a = b ∧ a < memorySize then v else m.byte b := by
  unfold byte set
  by_cases ha : a < memorySize
  · by_cases hb : b < memorySize
    · simp [ha, hb, Vector.getElem_set]
    · have hab : a ≠ b := by omega
      simp [ha, hb, hab]
  · simp [ha]

/-- Bytes that were overwritten read back in order, and all others stay as they are. -/
theorem byte_overwrite (m : Memory) (start : Nat) (bytes : List UInt8) (a : Nat) :
    (m.overwrite start bytes).byte a =
      if h : start ≤ a ∧ a < start + bytes.length ∧ a < memorySize then
        bytes[a - start]
      else
        m.byte a := by
  induction bytes generalizing m start with
  | nil =>
    have h : ¬ (start ≤ a ∧ a < start + ([] : List UInt8).length ∧ a < memorySize) := by
      simp only [List.length_nil]
      omega
    rw [overwrite, dif_neg h]
  | cons b bytes ih =>
    rw [overwrite, ih (m.set start b) (start + 1), byte_set]
    by_cases h : start + 1 ≤ a ∧ a < start + 1 + bytes.length ∧ a < memorySize
    · have h' : start ≤ a ∧ a < start + (b :: bytes).length ∧ a < memorySize := by
        simp only [List.length_cons]
        omega
      rw [dif_pos h, dif_pos h']
      have hk : a - start = a - (start + 1) + 1 := by omega
      simp only [hk, List.getElem_cons_succ]
    · rw [dif_neg h]
      by_cases ha : start = a ∧ start < memorySize
      · have h' : start ≤ a ∧ a < start + (b :: bytes).length ∧ a < memorySize := by
          simp only [List.length_cons]
          omega
        have hk : a - start = 0 := by omega
        rw [if_pos ha, dif_pos h']
        simp only [hk, List.getElem_cons_zero]
      · have h' : ¬ (start ≤ a ∧ a < start + (b :: bytes).length ∧ a < memorySize) := by
          simp only [List.length_cons]
          omega
        rw [if_neg ha, dif_neg h']

/-- Memories with the same bytes are equal. -/
theorem ext_byte {m m' : Memory} (h : ∀ a, m.byte a = m'.byte a) : m = m' := by
  cases m with
  | mk cells =>
    cases m' with
    | mk cells' =>
      congr 1
      apply Vector.ext
      intro a ha
      have hbyte := h a
      unfold byte at hbyte
      rwa [dif_pos ha, dif_pos ha] at hbyte

/-! ## Slices -/

/-- A slice has as many bytes as were asked for. -/
theorem length_slice (m : Memory) (start len : Nat) : (m.slice start len).length = len := by
  rw [slice, List.length_map, List.length_range]

/-- Byte `k` of a slice is the byte `k` behind its start. -/
theorem getElem_slice (m : Memory) (start len k : Nat) (h : k < (m.slice start len).length) :
    (m.slice start len)[k] = m.byte (start + k) := by
  simp [slice]

/-- The first bytes that were written are what the memory holds there. -/
theorem slice_overwrite (m : Memory) (start len : Nat) (bytes : List UInt8)
    (hlen : len ≤ bytes.length) (hfit : start + bytes.length ≤ memorySize) :
    (m.overwrite start bytes).slice start len = bytes.take len := by
  apply List.ext_getElem
  · rw [length_slice, List.length_take, Nat.min_eq_left hlen]
  · intro k hk _
    rw [length_slice] at hk
    have hin : start ≤ start + k ∧ start + k < start + bytes.length ∧ start + k < memorySize := by
      omega
    rw [getElem_slice, byte_overwrite, dif_pos hin, List.getElem_take]
    simp only [Nat.add_sub_cancel_left]

/-- Writing back what the memory holds changes nothing. -/
theorem overwrite_slice (m : Memory) (start len : Nat) :
    m.overwrite start (m.slice start len) = m := by
  apply ext_byte
  intro a
  rw [byte_overwrite]
  split
  next h =>
    rw [getElem_slice, Nat.add_sub_cancel' h.1]
  next => rfl

end Memory

end ChipEight
