/-
# The screen is one bitmap

A screen keeps the cells of its grid in an array, and those past the end of the grid in a set. Seen
from outside there is no seam between the two: whatever pixels are toggled, a cell is lit exactly if
it was toggled an odd number of times since the screen was last cleared (`Screen.isLit_after`). So
neither the order of the toggles nor the coordinates that name a cell matter
(`Screen.one_bitmap`).
-/
import ChipEight.Screen
import Mathlib.Algebra.Ring.Parity
import Mathlib.Data.Finset.Card
import Mathlib.Data.List.DropRight
import Mathlib.Data.List.Induction

namespace ChipEight.Screen

/-! ## Calls on a screen -/

/-- A call on a screen. -/
inductive Call where
  /-- Toggle the pixel at a column and a row. -/
  | toggle (x y : Nat)
  /-- Turn all cells off. -/
  | clear
  /-- Present the screen. -/
  | render
  deriving DecidableEq, Repr

/-- The cell that a call toggles, if it toggles one. -/
def Call.cell? : Call → Option Nat
  | toggle x y => some (cell x y)
  | clear | render => none

/-- The cells that were toggled since the screen was last cleared, one after the other. -/
def toggled (calls : List Call) : List Nat :=
  (calls.rtakeWhile (· ≠ .clear)).filterMap Call.cell?

/-- Clearing the screen forgets the cells that were toggled, and another call may toggle one. -/
theorem toggled_concat (calls : List Call) (a : Call) :
    toggled (calls ++ [a]) = if a = .clear then [] else toggled calls ++ a.cell?.toList := by
  unfold toggled
  split
  next ha =>
    subst ha
    rw [List.rtakeWhile_concat_neg _ _ _ (by simp)]
    rfl
  next ha =>
    rw [List.rtakeWhile_concat_pos _ _ _ (by simp [ha]), List.filterMap_append]
    cases a <;> rfl

/-- The screen after a call. -/
def call (s : Screen) : Call → Screen
  | .toggle x y => (s.toggle x y).2
  | .clear => s.clear
  | .render => s.render

/-- The screen after calls. -/
def after (s : Screen) (calls : List Call) : Screen := calls.foldl call s

/-- The last call comes after the others. -/
theorem after_concat (s : Screen) (calls : List Call) (a : Call) :
    s.after (calls ++ [a]) = (s.after calls).call a := by
  simp [after]

/-! ## The parity of toggles -/

/-- A call toggles its cell, turns all cells off, or leaves them alone. -/
theorem isLit_call (s : Screen) (a : Call) (c : Nat) :
    (s.call a).isLit c =
      if a = .clear then false else (s.isLit c ^^ decide (a.cell? = some c)) := by
  cases a with
  | toggle x y =>
    rw [call, toggle_eq, isLit_toggleCell, Call.cell?]
    by_cases h : cell x y = c <;> simp [h]
  | clear => simp [call, isLit_clear]
  | render => simp [call, isLit_render, Call.cell?]

/-- A cell is lit if it was toggled an odd number of times since the screen was last cleared. -/
theorem isLit_after (calls : List Call) (c : Nat) :
    (after {} calls).isLit c ↔ Odd ((toggled calls).count c) := by
  -- the last call decides what counts, so the induction is from the end
  induction calls using List.reverseRecOn with
  | nil =>
    have hnew : (after {} []).isLit c = false := isLit_clear {} c
    simp [hnew, toggled]
  | append_singleton calls a ih =>
    rw [after_concat, isLit_call, toggled_concat]
    by_cases ha : a = .clear
    · simp [ha]
    · rw [if_neg ha, if_neg ha, List.count_append]
      cases hcell : a.cell? with
      | none => simp [ih]
      | some d =>
        by_cases hd : d = c
        · simp [hd, Nat.odd_add_one, ← ih]
        · simp [hd, ih]

/-! ## What screens keep -/

/-- What is true of every screen that calls lead to. -/
structure Regular (s : Screen) : Prop where
  /-- Only cells past the end of the grid are in the set. -/
  size_le : ∀ c ∈ s.beyond, size ≤ c
  /-- The count of lit cells is the number of cells that are lit. -/
  counted : ∃ lit : Finset Nat, (∀ c, c ∈ lit ↔ s.isLit c) ∧ lit.card = s.litCount

/-- A cleared screen counts no lit cell. -/
theorem litCount_clear (s : Screen) : s.clear.litCount = 0 := by
  unfold litCount clear
  simp [List.count_replicate]

/-- A cleared screen is regular. -/
theorem regular_clear (s : Screen) : s.clear.Regular where
  size_le := by simp [clear]
  counted := ⟨∅, by simp [isLit_clear], by simp [litCount_clear]⟩

/-- A toggle puts a cell into the set only if it lies past the end of the grid, and adds a cell to
those that count or takes it away. -/
theorem Regular.toggleCell {s : Screen} (h : s.Regular) (c : Nat) : (s.toggleCell c).Regular where
  size_le := by
    intro d hd
    rw [beyond_toggleCell] at hd
    split at hd
    · exact h.size_le d hd
    · split at hd
      · exact h.size_le d (Std.TreeSet.mem_of_mem_erase hd)
      · rcases Std.TreeSet.mem_insert.1 hd with heq | hmem
        · have hcd : c = d := by simpa using heq
          omega
        · exact h.size_le d hmem
  counted := by
    obtain ⟨lit, hlit, hcard⟩ := h.counted
    by_cases hc : s.isLit c
    · refine ⟨lit.erase c, ?_, ?_⟩
      · intro d
        rw [Finset.mem_erase, hlit, isLit_toggleCell]
        by_cases hcd : c = d
        · simp [← hcd, hc]
        · simp [hcd, Ne.symm hcd]
      · rw [Finset.card_erase_of_mem ((hlit c).2 hc), litCount_toggleCell, if_pos hc, hcard]
    · refine ⟨insert c lit, ?_, ?_⟩
      · intro d
        rw [Finset.mem_insert, hlit, isLit_toggleCell]
        by_cases hcd : c = d
        · simp [← hcd, hc]
        · simp [hcd, Ne.symm hcd]
      · rw [Finset.card_insert_of_notMem (mt (hlit c).1 hc), litCount_toggleCell, if_neg hc, hcard]

/-- Every call keeps a screen regular. -/
theorem Regular.call {s : Screen} (h : s.Regular) (a : Call) : (s.call a).Regular := by
  cases a with
  | toggle x y =>
    rw [Screen.call, toggle_eq]
    exact h.toggleCell (cell x y)
  | clear => exact regular_clear s
  | render => exact ⟨h.size_le, h.counted⟩

/-- Every screen that calls lead to is regular. -/
theorem regular_after (calls : List Call) : (after {} calls).Regular := by
  induction calls using List.reverseRecOn with
  | nil => exact regular_clear {}
  | append_singleton calls a ih =>
    rw [after_concat]
    exact ih.call a

/-- Calls present the screen as often as they ask for it. -/
theorem frames_after (calls : List Call) : (after {} calls).frames = calls.count .render := by
  induction calls using List.reverseRecOn with
  | nil => rfl
  | append_singleton calls a ih =>
    rw [after_concat, List.count_append, List.count_singleton, ← ih]
    cases a <;> rfl

/-- Regular screens with the same lit cells count as many of them. -/
theorem Regular.litCount_eq {s t : Screen} (hs : s.Regular) (ht : t.Regular)
    (h : ∀ c, s.isLit c = t.isLit c) : s.litCount = t.litCount := by
  obtain ⟨lit, hlit, hcard⟩ := hs.counted
  obtain ⟨lit', hlit', hcard'⟩ := ht.counted
  have hsame : lit = lit' := by
    ext c
    rw [hlit, hlit', h]
  rw [← hcard, ← hcard', hsame]

/-- Screens with the same lit cells look alike. -/
theorem dump_eq {s t : Screen} (h : ∀ c, s.isLit c = t.isLit c) : s.dump = t.dump := by
  have hgrid : s.grid = t.grid := by
    apply Vector.ext
    intro c hc
    rw [← isLit_of_lt s hc, ← isLit_of_lt t hc, h]
  rw [dump, dump, hgrid]

/-! ## One bitmap -/

/-- A screen that was new is one bitmap over all cells, after any calls.

* A cell is lit exactly if it was toggled an odd number of times since the screen was last cleared.
* So calls that have toggled the same cells since then, in whatever order, leave the same cells lit,
  as many of them, and the same picture.
* A toggle tells that its pixel is off now exactly if it turned the cell of the pixel off.
* The set holds cells past the end of the grid only, and the array tells of the cells of the grid.
* The lit cells are counted, be they in the grid or past its end.
* A pixel in the grid is shown as its cell is, and outside of the grid nothing is shown.
* Presenting the screen counts, and leaves all cells alone. -/
theorem one_bitmap (calls : List Call) :
    let s := after {} calls
    (∀ c, s.isLit c ↔ Odd ((toggled calls).count c)) ∧
    (∀ others, (toggled others).Perm (toggled calls) →
      let t := after {} others
      (∀ c, t.isLit c = s.isLit c) ∧ t.litCount = s.litCount ∧ t.dump = s.dump) ∧
    (∀ x y, (s.toggle x y).1 ↔
      s.isLit (x + 64 * y) ∧ ¬ (s.toggle x y).2.isLit (x + 64 * y)) ∧
    ((∀ c ∈ s.beyond, 2048 ≤ c) ∧ ∀ c (h : c < 2048), s.grid[c] = s.isLit c) ∧
    (∃ lit : Finset Nat, (∀ c, c ∈ lit ↔ s.isLit c) ∧ lit.card = s.litCount) ∧
    (∀ x y, s.pixel x y = if x < 64 ∧ y < 32 then s.isLit (x + 64 * y) else false) ∧
    s.frames = calls.count .render ∧ s.render.frames = s.frames + 1 ∧
      ∀ c, s.render.isLit c = s.isLit c := by
  intro s
  have hs : s.Regular := regular_after calls
  refine ⟨isLit_after calls, ?_, ?_, ⟨hs.size_le, ?_⟩, hs.counted, ?_, frames_after calls, rfl,
    s.isLit_render⟩
  · intro others hperm t
    have hsame : ∀ c, t.isLit c = s.isLit c := by
      intro c
      rw [Bool.eq_iff_iff, isLit_after, isLit_after, hperm.count_eq]
    exact ⟨hsame, (regular_after others).litCount_eq hs hsame, dump_eq hsame⟩
  · intro x y
    rw [toggle_eq]
    show s.isLit (cell x y) ↔ s.isLit (cell x y) ∧ ¬ (s.toggleCell (cell x y)).isLit (cell x y)
    rw [isLit_toggleCell, if_pos rfl]
    simp
  · intro c h
    exact (s.isLit_of_lt h).symm
  · intro x y
    rw [pixel]
    by_cases hx : x < 64 <;> by_cases hy : y < 32 <;> simp [hx, hy, width, height, cell]

/-- The pixels 64, 0 and 0, 1 are the same cell, and so are 70, 40 and 6, 41 past the end of the
grid. Toggled once more after the screen was cleared, in another order and under other coordinates,
the first cell is off and the second one is lit. -/
theorem one_bitmap_folded :
    let calls := [Call.toggle 64 0, .clear, .toggle 64 0, .toggle 70 40, .render, .toggle 0 1]
    let others := [Call.toggle 6 41, .toggle 0 1, .toggle 0 1]
    (toggled others).Perm (toggled calls) ∧
      ¬ (after {} calls).isLit 64 ∧ (after {} others).isLit 2630 ∧
      (after {} others).litCount = (after {} calls).litCount ∧
      (after {} others).dump = (after {} calls).dump := by
  intro calls others
  have hperm : (toggled others).Perm (toggled calls) := by decide
  obtain ⟨hlit, hother, -⟩ := one_bitmap calls
  obtain ⟨hsame, hcount, hdump⟩ := hother others hperm
  refine ⟨hperm, ?_, ?_, hcount, hdump⟩
  · rw [hlit]
    decide
  · rw [hsame, hlit]
    decide

end ChipEight.Screen
