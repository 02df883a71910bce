/-
# The screen

A grid of 64 by 32 pixels. A pixel is addressed by column and row, and lies at the cell
`column + 64 * row`; coordinates beyond the edge fold into later cells. Cells past the end of the
grid are never shown and are kept in a set, but they turn on and off like all others.
-/
import Std.Data.TreeSet.Basic
import Std.Data.TreeSet.Lemmas

namespace ChipEight

namespace Screen

/-- The number of columns. -/
def width : Nat := 64

/-- The number of rows. -/
def height : Nat := 32

/-- The number of cells in the grid. -/
def size : Nat := width * height

/-- The cell of a pixel. -/
def cell (x y : Nat) : Nat := x + width * y

end Screen

/-- The state of the screen. -/
structure Screen where
  /-- Whether the cells of the grid are on, row by row. -/
  grid : Vector Bool Screen.size := Vector.replicate Screen.size false
  /-- The cells past the end of the grid that are on. -/
  beyond : Std.TreeSet Nat := {}
  /-- How often the screen was presented. -/
  frames : Nat := 0

namespace Screen

/-- Whether a cell is on. -/
def isLit (s : Screen) (c : Nat) : Bool :=
  if h : c < size then s.grid[c] else s.beyond.contains c

/-- Toggle a cell. -/
def toggleCell (s : Screen) (c : Nat) : Screen :=
  { s with
    grid := if h : c < size then s.grid.set c (!s.grid[c]) else s.grid
    beyond :=
      if c < size then s.beyond
      else if s.beyond.contains c then s.beyond.erase c
      else s.beyond.insert c }

/-- Toggle the pixel at a column and a row, and tell whether it is off now. In the grid its cell
tells so afterwards, and past the end of the grid it is off if it was taken out of the set. -/
def toggle (s : Screen) (x y : Nat) : Bool × Screen :=
  let toggled := s.toggleCell (cell x y)
  (if h : cell x y < size then !toggled.grid[cell x y] else s.beyond.contains (cell x y), toggled)

/-- Toggle pixels one after the other, and tell for each whether it was off then. -/
def toggleAll : Screen → List (Nat × Nat) → List Bool × Screen
  | s, [] => ([], s)
  | s, (x, y) :: rest =>
    let (off, s) := s.toggle x y
    let (offs, s) := s.toggleAll rest
    (off :: offs, s)

/-- Turn all cells off. -/
def clear (s : Screen) : Screen :=
  { s with grid := Vector.replicate size false, beyond := {} }

/-- Present the screen. -/
def render (s : Screen) : Screen := { s with frames := s.frames + 1 }

/-- Whether the pixel at a column and a row is shown as on; outside of the grid nothing is. -/
def pixel (s : Screen) (x y : Nat) : Bool :=
  decide (x < width) && decide (y < height) && s.isLit (cell x y)

/-- The number of cells that are on, shown or not. -/
def litCount (s : Screen) : Nat := s.grid.toList.count true + s.beyond.size

/-! ## The picture as text -/

/-- The sign for a pixel. -/
def sign (on : Bool) : Char := if on then '#' else '.'

/-- Cells in rows, as far as they go: a row may be shorter only if it is the last one. -/
def rows : List Bool → List (List Bool)
  | [] => []
  | c :: cells => (c :: cells).take width :: rows ((c :: cells).drop width)
termination_by cells => cells.length
decreasing_by
  rw [List.length_drop, List.length_cons]
  exact Nat.sub_lt (Nat.succ_pos _) (by decide)

/-- The picture: the grid row by row, each row ended by a line feed. -/
def dump (s : Screen) : String :=
  String.ofList ((rows s.grid.toList).flatMap fun row => row.map sign ++ ['\n'])

/-! ## What the operations change -/

/-- A cell of the grid is on if its place in the grid says so. -/
theorem isLit_of_lt (s : Screen) {c : Nat} (h : c < size) : s.isLit c = s.grid[c] := dif_pos h

/-- A cell past the end of the grid is on if it is in the set. -/
theorem isLit_of_le (s : Screen) {c : Nat} (h : size ≤ c) : s.isLit c = s.beyond.contains c :=
  dif_neg (Nat.not_lt_of_le h)

/-- The cells of the grid after a toggle. -/
theorem grid_toggleCell (s : Screen) (c : Nat) :
    (s.toggleCell c).grid = if h : c < size then s.grid.set c (!s.grid[c]) else s.grid := rfl

/-- The cells past the end of the grid that are on after a toggle. -/
theorem beyond_toggleCell (s : Screen) (c : Nat) :
    (s.toggleCell c).beyond =
      if c < size then s.beyond
      else if s.beyond.contains c then s.beyond.erase c
      else s.beyond.insert c := rfl

/-- A toggle changes its own cell and no other. -/
theorem isLit_toggleCell (s : Screen) (c d : Nat) :
    (s.toggleCell c).isLit d = (if c = d then !s.isLit d else s.isLit d) := by
  by_cases hd : d < size
  · rw [isLit_of_lt _ hd, isLit_of_lt _ hd]
    simp only [grid_toggleCell]
    by_cases hc : c < size
    · simp only [dif_pos hc, Vector.getElem_set]
      by_cases hcd : c = d <;> simp [hcd]
    · have hcd : c ≠ d := fun h => hc (h ▸ hd)
      simp only [dif_neg hc, if_neg hcd]
  · have hd' := Nat.le_of_not_lt hd
    rw [isLit_of_le _ hd', isLit_of_le _ hd', beyond_toggleCell]
    by_cases hc : c < size
    · have hcd : c ≠ d := fun h => hd (h ▸ hc)
      rw [if_pos hc, if_neg hcd]
    · rw [if_neg hc]
      by_cases hcd : c = d
      · subst hcd
        by_cases h : s.beyond.contains c <;> simp [h]
      · by_cases h : s.beyond.contains c <;>
          simp [h, hcd, Std.TreeSet.contains_insert, Std.TreeSet.contains_erase]

/-- A toggle tells that its pixel is off now if its cell was on before. -/
theorem toggle_eq (s : Screen) (x y : Nat) :
    s.toggle x y = (s.isLit (cell x y), s.toggleCell (cell x y)) := by
  refine Prod.ext ?_ rfl
  show (if h : cell x y < size then !(s.toggleCell (cell x y)).grid[cell x y]
    else s.beyond.contains (cell x y)) = s.isLit (cell x y)
  by_cases h : cell x y < size
  · rw [dif_pos h, isLit_of_lt _ h]
    simp only [grid_toggleCell, dif_pos h, Vector.getElem_set_self, Bool.not_not]
  · rw [dif_neg h, isLit_of_le _ (Nat.le_of_not_lt h)]

/-- A cleared screen is off everywhere. -/
theorem isLit_clear (s : Screen) (c : Nat) : s.clear.isLit c = false := by
  unfold clear isLit
  split
  · exact Vector.getElem_replicate _
  · exact Std.TreeSet.contains_emptyc

/-- Presenting the screen leaves its cells alone. -/
theorem isLit_render (s : Screen) (c : Nat) : s.render.isLit c = s.isLit c := rfl

/-- A grid with a cell that is on has a positive number of them. -/
theorem count_grid_pos {s : Screen} {c : Nat} (hc : c < size) (h : s.grid[c] = true) :
    0 < s.grid.count true :=
  Vector.count_pos_iff.2 (h ▸ Vector.getElem_mem hc)

/-- A set that contains a cell is not empty. -/
theorem size_beyond_pos {s : Screen} {c : Nat} (h : s.beyond.contains c = true) :
    0 < s.beyond.size := by
  have hne : s.beyond.isEmpty = false := Std.TreeSet.isEmpty_eq_false_of_contains h
  rw [Std.TreeSet.isEmpty_eq_size_eq_zero] at hne
  exact Nat.pos_of_ne_zero (beq_eq_false_iff_ne.1 hne)

/-- A screen with a lit cell has a positive number of them. -/
theorem litCount_pos {s : Screen} {c : Nat} (h : s.isLit c = true) : 0 < s.litCount := by
  rw [litCount, Vector.count_toList]
  by_cases hc : c < size
  · rw [isLit_of_lt _ hc] at h
    exact Nat.add_pos_left (count_grid_pos hc h) _
  · rw [isLit_of_le _ (Nat.le_of_not_lt hc)] at h
    exact Nat.add_pos_right _ (size_beyond_pos h)

/-- A toggle changes the number of lit cells by one. -/
theorem litCount_toggleCell (s : Screen) (c : Nat) :
    (s.toggleCell c).litCount = if s.isLit c then s.litCount - 1 else s.litCount + 1 := by
  unfold litCount
  rw [grid_toggleCell, beyond_toggleCell, Vector.count_toList, Vector.count_toList]
  by_cases hc : c < size
  · rw [dif_pos hc, if_pos hc, isLit_of_lt _ hc, Vector.count_set hc, beq_true, beq_true]
    by_cases h : s.grid[c]
    · have hpos := count_grid_pos hc h
      rw [if_pos h, if_pos h, h, if_neg (by decide)]
      omega
    · rw [Bool.not_eq_true] at h
      rw [h, if_neg Bool.false_ne_true, if_neg Bool.false_ne_true, Bool.not_false, if_pos rfl]
      omega
  · rw [dif_neg hc, if_neg hc, isLit_of_le _ (Nat.le_of_not_lt hc)]
    by_cases h : s.beyond.contains c
    · have hpos := size_beyond_pos h
      rw [if_pos h, if_pos h, Std.TreeSet.size_erase, if_pos h]
      omega
    · rw [if_neg h, if_neg h, Std.TreeSet.size_insert, if_neg h, Nat.add_assoc]

end Screen

end ChipEight
