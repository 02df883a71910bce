/-
# The picture shows the visible pixels

The picture of a screen is its grid cut into rows (`Screen.rows_eq`), with a sign for each cell. Its
lines can be cut apart again (`Screen.lines_dump`), so a picture tells which pixels are on
(`Screen.shown_dump`), and tells nothing else: screens look alike exactly if their visible pixels
agree (`Screen.dump_eq_dump_iff`). The main statement is `Screen.picture_shows_pixels`.
-/
import ChipEight.Proofs.Bitmap
import ChipEight.Proofs.Lines

namespace ChipEight.Screen

variable {s t : Screen} {x y : Nat}

/-! ## Rows of the grid -/

/-- Cells that fill up `n` rows are cut into these. -/
theorem rows_eq {n : Nat} {cells : List Bool} (h : cells.length = width * n) :
    rows cells = (List.range n).map fun y => (cells.drop (width * y)).take width := by
  induction n generalizing cells with
  | zero =>
    rw [List.length_eq_zero_iff.1 h, rows]
    rfl
  | succ n ih =>
    cases cells with
    | nil =>
      rw [List.length_nil, Nat.mul_succ, width] at h
      omega
    | cons c cells =>
      have hrest : ((c :: cells).drop width).length = width * n := by
        rw [List.length_drop, h, Nat.mul_succ, Nat.add_sub_cancel]
      rw [rows, ih hrest, List.range_succ_eq_map, List.map_cons, List.map_map, Nat.mul_zero,
        List.drop_zero]
      congr 1
      apply List.map_congr_left
      intro y _
      rw [List.drop_drop, Function.comp_apply, Nat.mul_succ, Nat.add_comm]

/-- The grid in rows. -/
theorem rows_grid (s : Screen) :
    rows s.grid.toList =
      (List.range height).map fun y => (s.grid.toList.drop (width * y)).take width :=
  rows_eq s.grid.length_toList

/-- The rows of the grid are full. -/
theorem length_of_mem_rows_grid {row : List Bool} (h : row ∈ rows s.grid.toList) :
    row.length = width := by
  rw [rows_grid, List.mem_map] at h
  obtain ⟨y, hy, rfl⟩ := h
  have hlt := List.mem_range.1 hy
  rw [List.length_take, List.length_drop, Vector.length_toList, size]
  simp only [width, height] at hlt ⊢
  omega

/-- A visible pixel is a cell of the grid. -/
theorem cell_lt_size (hx : x < width) (hy : y < height) : cell x y < size := by
  simp only [cell, size, width, height] at hx hy ⊢
  omega

/-- A visible pixel is on if its cell is. -/
theorem pixel_of_lt (hx : x < width) (hy : y < height) : s.pixel x y = s.isLit (cell x y) := by
  rw [pixel, decide_eq_true hx, decide_eq_true hy]
  rfl

/-- Nothing is on outside of the visible pixels. -/
theorem pixel_of_not_lt (h : ¬ (x < width ∧ y < height)) : s.pixel x y = false := by
  rw [pixel, ← Bool.decide_and, decide_eq_false h, Bool.false_and]

/-- Each visible pixel has its place in the rows of the grid. -/
theorem getElem?_rows_grid (hx : x < width) (hy : y < height) :
    (rows s.grid.toList)[y]?.bind (·[x]?) = some (s.pixel x y) := by
  have hcell := cell_lt_size hx hy
  rw [rows_grid, List.getElem?_map, List.getElem?_range hy, Option.map_some, Option.bind_some,
    List.getElem?_take_of_lt hx, List.getElem?_drop, Nat.add_comm, ← cell, pixel_of_lt hx hy,
    isLit_of_lt s hcell, Vector.getElem?_toList, Vector.getElem?_eq_getElem hcell]

/-! ## Lines of the picture -/

/-- The lines of the picture are the rows of the grid. -/
theorem toList_dump (s : Screen) :
    s.dump.toList = Text.unlines ((rows s.grid.toList).map (·.map sign)) := by
  rw [dump, String.toList_ofList, Text.unlines, List.flatMap_map]

/-- The lines of the picture can be cut apart again. -/
theorem lines_dump (s : Screen) :
    Text.lines s.dump.toList = (rows s.grid.toList).map (·.map sign) := by
  rw [toList_dump, Text.lines_unlines]
  simp only [List.forall_mem_map]
  intro row _ hfeed
  obtain ⟨on, -, hon⟩ := List.mem_map.1 hfeed
  cases on <;> exact absurd hon (by decide)

/-- Each visible pixel has its sign in the picture. -/
theorem getElem?_lines_dump (hx : x < width) (hy : y < height) :
    (Text.lines s.dump.toList)[y]?.bind (·[x]?) = some (sign (s.pixel x y)) := by
  rw [← Option.map_some, ← getElem?_rows_grid hx hy, lines_dump, List.getElem?_map,
    Option.bind_map, Option.map_bind]
  exact Option.bind_congr fun row _ => List.getElem?_map

/-- Beyond the visible pixels there is no sign in the picture. -/
theorem getElem?_lines_dump_eq_none (h : ¬ (x < width ∧ y < height)) :
    (Text.lines s.dump.toList)[y]?.bind (·[x]?) = none := by
  rw [lines_dump, List.getElem?_map, Option.bind_map]
  cases hrow : (rows s.grid.toList)[y]? with
  | none => rfl
  | some row =>
    have hy : y < height := by
      obtain ⟨hlt, -⟩ := List.getElem?_eq_some_iff.1 hrow
      rwa [rows_grid, List.length_map, List.length_range] at hlt
    rw [Option.bind_some, Function.comp_apply, List.getElem?_eq_none_iff, List.length_map,
      length_of_mem_rows_grid (List.mem_of_getElem? hrow)]
    omega

/-! ## Reading a picture -/

/-- Whether a picture shows the pixel at a column and a row as on. -/
def shown (picture : String) (x y : Nat) : Bool :=
  (Text.lines picture.toList)[y]?.bind (·[x]?) == some '#'

/-- A picture shows the pixels that are on. -/
theorem shown_dump (s : Screen) (x y : Nat) : shown s.dump x y = s.pixel x y := by
  rw [shown]
  by_cases h : x < width ∧ y < height
  · rw [getElem?_lines_dump h.1 h.2]
    cases s.pixel x y <;> rfl
  · rw [getElem?_lines_dump_eq_none h, pixel_of_not_lt h]
    rfl

/-- Screens with the same visible pixels have the same grid. -/
theorem grid_eq_of_pixel_eq (h : ∀ x y, s.pixel x y = t.pixel x y) : s.grid = t.grid := by
  apply Vector.ext
  intro c hc
  -- every cell of the grid is a pixel, in the column and the row that division by the width gives
  have hx : c % width < width := Nat.mod_lt c (by decide)
  have hy : c / width < height := Nat.div_lt_of_lt_mul hc
  have hpixel := h (c % width) (c / width)
  rwa [pixel_of_lt hx hy, pixel_of_lt hx hy, cell, Nat.mod_add_div, isLit_of_lt s hc,
    isLit_of_lt t hc] at hpixel

/-- Screens look alike exactly if the same visible pixels are on. -/
theorem dump_eq_dump_iff : s.dump = t.dump ↔ ∀ x y, s.pixel x y = t.pixel x y := by
  constructor
  · intro h x y
    rw [← shown_dump, ← shown_dump, h]
  · intro h
    rw [dump, dump, grid_eq_of_pixel_eq h]

/-- The picture of every screen shows exactly its visible pixels.

* It consists of 32 lines of 64 characters, each line ended by a line feed.
* The character in a column of a line is `#` if the pixel there is on, and `.` otherwise.
* So all pixels can be read back. Whatever calls a new screen has seen, the picture shows a pixel of
  the grid as on exactly if its cell was toggled an odd number of times since the last clearing.
* Two screens have the same picture exactly if their visible pixels agree, however many cells are
  lit past the end of the grid and however often the screens were presented. -/
theorem picture_shows_pixels (s : Screen) :
    let lines := Text.lines s.dump.toList
    (s.dump.toList = Text.unlines lines ∧ lines.length = 32 ∧ ∀ line ∈ lines, line.length = 64) ∧
    (∀ x < 64, ∀ y < 32,
      lines[y]?.bind (·[x]?) = some (if s.pixel x y then '#' else '.')) ∧
    (∀ x y, shown s.dump x y = s.pixel x y) ∧
    (∀ calls x y, shown (after {} calls).dump x y ↔
      (x < 64 ∧ y < 32) ∧ Odd ((toggled calls).count (x + 64 * y))) ∧
    ∀ t : Screen, s.dump = t.dump ↔ ∀ x y, s.pixel x y = t.pixel x y := by
  intro lines
  have hlines : lines = (rows s.grid.toList).map (·.map sign) := lines_dump s
  refine ⟨⟨?_, ?_, ?_⟩, fun x hx y hy => getElem?_lines_dump hx hy, shown_dump s, ?_,
    fun t => dump_eq_dump_iff⟩
  · rw [hlines, toList_dump]
  · rw [hlines, List.length_map, rows_grid, List.length_map, List.length_range]
    rfl
  · intro line hline
    rw [hlines] at hline
    obtain ⟨row, hrow, rfl⟩ := List.mem_map.1 hline
    rw [List.length_map]
    exact length_of_mem_rows_grid hrow
  · intro calls x y
    rw [shown_dump, pixel, Bool.and_eq_true, isLit_after, ← Bool.decide_and, decide_eq_true_iff]
    rfl

/-- A pixel in the far corner of the grid and one in its middle are shown, a pixel past its end is
not, and nothing is shown where column and row are exchanged. -/
theorem picture_shows_pixels_corner :
    let s := after {} [.toggle 20 10, .toggle 63 31, .toggle 10 35, .render]
    let lines := Text.lines s.dump.toList
    (63 < 64 ∧ 31 < 32 ∧ lines[31]?.bind (·[63]?) = some '#') ∧
      (10 < 64 ∧ 20 < 32 ∧ lines[20]?.bind (·[10]?) = some '.') := by
  intro s lines
  obtain ⟨-, hsign, hshown, htoggled, -⟩ := picture_shows_pixels s
  have hcorner : s.pixel 63 31 = true := by
    rw [← hshown, htoggled]
    decide
  have hexchanged : s.pixel 10 20 = false := by
    rw [← hshown, Bool.eq_false_iff, ne_eq, htoggled]
    decide
  refine ⟨⟨by decide, by decide, ?_⟩, by decide, by decide, ?_⟩
  · rw [hsign 63 (by decide) 31 (by decide), hcorner]
    rfl
  · rw [hsign 10 (by decide) 20 (by decide), hexchanged]
    rfl

end ChipEight.Screen
