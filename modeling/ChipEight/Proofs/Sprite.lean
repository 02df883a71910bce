/-
# Drawing sprites

A sprite toggles one cell of the screen for each of its set bits, and no cell twice: coordinates
wrap at most once, and columns beyond the edge fold into later rows, but within the width and the
height of a sprite two bits never meet (`Sprite.nodup_cells`). So the flag, which collects the
collisions while the screen is changing, tells about the screen before the instruction.

* `step_draw` : the screen, the flag and the device calls after an instruction `Dxyn`.
-/
import ChipEight.Proofs.Operands
import ChipEight.Proofs.Running
import Mathlib.Data.List.Nodup
import Mathlib.Tactic.Ring

namespace ChipEight

/-! ## Toggling many cells -/

namespace Screen

/-- The cells of pixels. -/
def cells (pixels : List (Nat × Nat)) : List Nat := pixels.map fun p => cell p.1 p.2

/-- The cells of a pixel before others. -/
theorem cells_cons (x y : Nat) (pixels : List (Nat × Nat)) :
    cells ((x, y) :: pixels) = cell x y :: cells pixels := rfl

/-- The first pixel is toggled before the others. -/
theorem toggleAll_cons (s : Screen) (x y : Nat) (pixels : List (Nat × Nat)) :
    s.toggleAll ((x, y) :: pixels) =
      (s.isLit (cell x y) :: ((s.toggleCell (cell x y)).toggleAll pixels).1,
        ((s.toggleCell (cell x y)).toggleAll pixels).2) := by
  rw [toggleAll, toggle_eq]

/-- A cell changes if it is toggled an odd number of times. -/
theorem isLit_toggleAll (s : Screen) (pixels : List (Nat × Nat)) (c : Nat) :
    (s.toggleAll pixels).2.isLit c = (s.isLit c ^^ decide ((cells pixels).count c % 2 = 1)) := by
  induction pixels generalizing s with
  | nil => simp [toggleAll, cells]
  | cons p pixels ih =>
    obtain ⟨x, y⟩ := p
    rw [toggleAll_cons, ih, isLit_toggleCell, cells_cons, List.count_cons]
    by_cases hc : cell x y = c
    · have hodd : decide (((cells pixels).count c + 1) % 2 = 1) =
          !decide ((cells pixels).count c % 2 = 1) := by
        rw [← decide_not, decide_eq_decide]
        omega
      rw [if_pos hc, if_pos (beq_iff_eq.2 hc), hodd, Bool.not_xor, Bool.xor_not]
    · rw [if_neg hc, if_neg (by simpa using hc), Nat.add_zero]

/-- A cell changes exactly if it is among cells that are toggled once each. -/
theorem isLit_toggleAll_of_nodup (s : Screen) {pixels : List (Nat × Nat)}
    (h : (cells pixels).Nodup) (c : Nat) :
    (s.toggleAll pixels).2.isLit c = (s.isLit c ^^ decide (c ∈ cells pixels)) := by
  rw [isLit_toggleAll]
  by_cases hc : c ∈ cells pixels
  · simp [hc, List.count_eq_one_of_mem h hc]
  · simp [hc, List.count_eq_zero_of_not_mem hc]

/-- Toggling a cell leaves all others as they are. -/
theorem isLit_toggleCell_of_not_mem (s : Screen) {c : Nat} {others : List Nat} (h : c ∉ others) :
    ∀ d ∈ others, (s.toggleCell c).isLit d = s.isLit d := by
  intro d hd
  have hne : c ≠ d := fun he => h (he ▸ hd)
  rw [isLit_toggleCell, if_neg hne]

/-- Cells that are toggled once each collide exactly if they were lit in the beginning. -/
theorem toggleAll_fst_of_nodup (s : Screen) {pixels : List (Nat × Nat)}
    (h : (cells pixels).Nodup) : (s.toggleAll pixels).1 = (cells pixels).map s.isLit := by
  induction pixels generalizing s with
  | nil => rfl
  | cons p pixels ih =>
    obtain ⟨x, y⟩ := p
    rw [cells_cons, List.nodup_cons] at h
    -- the screen is changing, but not in the cells that are still to come
    have hrest : (cells pixels).map (s.toggleCell (cell x y)).isLit =
        (cells pixels).map s.isLit :=
      List.map_congr_left (s.isLit_toggleCell_of_not_mem h.1)
    rw [toggleAll_cons, cells_cons, List.map_cons, ih _ h.2, hrest]

/-- Cells that are toggled once each add to the number of lit cells, or take away from it if they
were lit in the beginning. -/
theorem litCount_toggleAll_of_nodup (s : Screen) {pixels : List (Nat × Nat)}
    (h : (cells pixels).Nodup) :
    (s.toggleAll pixels).2.litCount + 2 * ((cells pixels).filter s.isLit).length =
      s.litCount + (cells pixels).length := by
  induction pixels generalizing s with
  | nil => rfl
  | cons p pixels ih =>
    obtain ⟨x, y⟩ := p
    rw [cells_cons, List.nodup_cons] at h
    have hrest : (cells pixels).filter (s.toggleCell (cell x y)).isLit =
        (cells pixels).filter s.isLit :=
      List.filter_congr (s.isLit_toggleCell_of_not_mem h.1)
    have hih := ih (s.toggleCell (cell x y)) h.2
    rw [hrest, litCount_toggleCell] at hih
    rw [toggleAll_cons, cells_cons, List.filter_cons]
    by_cases hlit : s.isLit (cell x y) = true
    · have hpos := litCount_pos hlit
      simp only [hlit, if_true, List.length_cons] at hih ⊢
      omega
    · simp only [hlit, if_false, List.length_cons, Bool.false_eq_true] at hih ⊢
      omega

end Screen

/-! ## The cells of a sprite -/

namespace Sprite

/-- The cells that a sprite of `n` rows toggles at a position, when its rows begin at an address:
for every set bit, from the highest to the lowest, the cell of its wrapped coordinates. -/
def cells (memory : Memory) (start n x y : Nat) : List Nat :=
  (List.range n).flatMap fun r =>
    ((List.range width).filter fun c =>
        (memory.byte (start + r)).toNat.testBit (width - 1 - c)).map fun c =>
      Screen.cell (wrap (x + c) Screen.width) (wrap (y + r) Screen.height)

/-- The pixels of rows that are given by their numbers. -/
theorem pixelsFrom_map (x y r n : Nat) (row : Nat → UInt8) :
    pixelsFrom x y r ((List.range' r n).map row) =
      (List.range' r n).flatMap fun k =>
        (columns (row k)).map fun c => (wrap (x + c) Screen.width, wrap (y + k) Screen.height) := by
  induction n generalizing r with
  | zero => rfl
  | succ n ih =>
    rw [List.range'_succ, List.map_cons, List.flatMap_cons, pixelsFrom, ih]

/-- The cells of a sprite are those of its pixels. -/
theorem cells_pixels (memory : Memory) (start n x y : Nat) :
    Screen.cells (pixels x y (memory.slice start n)) = cells memory start n x y := by
  rw [pixels, Memory.slice, List.range_eq_range', pixelsFrom_map, Screen.cells, List.map_flatMap,
    cells, List.range_eq_range' (n := n)]
  simp only [List.map_map]
  rfl

/-- A coordinate wraps exactly if it is strictly past the edge. -/
theorem wrap_cases (a bound : Nat) :
    a ≤ bound ∧ wrap a bound = a ∨ bound < a ∧ wrap a bound = a - bound := by
  by_cases h : bound < a
  · exact Or.inr ⟨h, if_pos h⟩
  · exact Or.inl ⟨Nat.le_of_not_lt h, if_neg h⟩

/-- Two bits of a sprite never meet: neither at the edge, where coordinates wrap, nor in the columns
that fold into later rows. -/
theorem cell_inj {x y c d r k : Nat} (hc : c < width) (hd : d < width) (hr : r < 16) (hk : k < 16)
    (h : Screen.cell (wrap (x + c) Screen.width) (wrap (y + r) Screen.height) =
      Screen.cell (wrap (x + d) Screen.width) (wrap (y + k) Screen.height)) :
    c = d ∧ r = k := by
  simp only [width] at hc hd
  simp only [Screen.cell, Screen.width, Screen.height] at h
  -- columns differ by less than a row and rows by less than the height, however they wrap
  rcases wrap_cases (x + c) 64 with ⟨h₁, e₁⟩ | ⟨h₁, e₁⟩ <;>
    rcases wrap_cases (x + d) 64 with ⟨h₂, e₂⟩ | ⟨h₂, e₂⟩ <;>
    rcases wrap_cases (y + r) 32 with ⟨h₃, e₃⟩ | ⟨h₃, e₃⟩ <;>
    rcases wrap_cases (y + k) 32 with ⟨h₄, e₄⟩ | ⟨h₄, e₄⟩ <;>
    rw [e₁, e₂, e₃, e₄] at h <;>
    omega

/-- A sprite toggles no cell twice. -/
theorem nodup_cells (memory : Memory) (start x y : Nat) {n : Nat} (hn : n < 16) :
    (cells memory start n x y).Nodup := by
  rw [cells, List.nodup_flatMap]
  constructor
  · intro r hr
    have hr16 : r < 16 := (List.mem_range.1 hr).trans hn
    apply List.Nodup.map_on
    · intro c hc d hd h
      have hc8 := List.mem_range.1 (List.mem_of_mem_filter hc)
      have hd8 := List.mem_range.1 (List.mem_of_mem_filter hd)
      exact (cell_inj hc8 hd8 hr16 hr16 h).1
    · exact List.nodup_range.filter _
  · refine List.Pairwise.imp_of_mem ?_ List.nodup_range
    intro r k hr hk hne c hcr hck
    obtain ⟨c₁, hc₁, rfl⟩ := List.mem_map.1 hcr
    obtain ⟨c₂, hc₂, h⟩ := List.mem_map.1 hck
    have hr16 : r < 16 := (List.mem_range.1 hr).trans hn
    have hk16 : k < 16 := (List.mem_range.1 hk).trans hn
    have h₁ := List.mem_range.1 (List.mem_of_mem_filter hc₁)
    have h₂ := List.mem_range.1 (List.mem_of_mem_filter hc₂)
    exact hne (cell_inj h₂ h₁ hk16 hr16 h).2.symm

/-- The pixels of a sprite lie where a byte, the width and the height of a sprite can reach. -/
theorem pixel_le {memory : Memory} {start n : Nat} {x y : UInt8} (hn : n < 16) {p : Nat × Nat}
    (hp : p ∈ pixels x.toNat y.toNat (memory.slice start n)) : p.1 ≤ 198 ∧ p.2 ≤ 237 := by
  rw [pixels, Memory.slice, List.range_eq_range', pixelsFrom_map] at hp
  obtain ⟨r, hr, hp⟩ := List.mem_flatMap.1 hp
  obtain ⟨c, hc, rfl⟩ := List.mem_map.1 hp
  have hr' : r < n := by simpa using hr
  have hc' : c < 8 := List.mem_range.1 (List.mem_of_mem_filter hc)
  have hx := x.toNat_lt
  have hy := y.toNat_lt
  have h64 := wrap_cases (x.toNat + c) 64
  have h32 := wrap_cases (y.toNat + r) 32
  simp only [Screen.width, Screen.height]
  omega

end Sprite

/-! ## The instruction that draws -/

/-- The pixel that an event toggles, if it toggles one. -/
def Event.pixel? : Event → Option (Nat × Nat)
  | setPixel x y _ => some (x, y)
  | _ => none

/-- The pixels of the calls that toggle pixels, in order. -/
theorem Event.filterMap_pixel?_zipWith {pixels : List (Nat × Nat)} {erased : List Bool}
    (h : erased.length = pixels.length) :
    (List.zipWith (fun p off => Event.setPixel p.1 p.2 off) pixels erased).filterMap
      Event.pixel? = pixels := by
  induction pixels generalizing erased with
  | nil => simp
  | cons p pixels ih =>
    cases erased with
    | nil => simp at h
    | cons off erased =>
      rw [List.zipWith_cons_cons, List.filterMap_cons, ih (Nat.succ.inj h)]
      rfl

namespace Machine

/-- The step of a machine that comes to a sprite whose rows lie in memory. -/
theorem step_of_draw {m : Machine} {vx vy n : UInt8} (hf : m.fault = none) (hk : m.keyWait = none)
    (hi : m.AboutTo (.draw vx vy n)) (hn : m.index.toNat + n.toNat ≤ memorySize) :
    let pixels :=
      Sprite.pixels (m.reg vx).toNat (m.reg vy).toNat (m.memory.slice m.index.toNat n.toNat)
    let (erased, screen) := m.screen.toggleAll pixels
    m.step =
      { result := .ok .draw
        machine := { m.advanced with
          screen
          registers := m.registers.set Registers.flag (if erased.any id then 1 else 0) }
        events := m.traced (.draw vx vy n) ::
          List.zipWith (fun p off => .setPixel p.1 p.2 off) pixels erased } := by
  have he : m.advanced.effect m.pc (.draw vx vy n) = .ok _ := reaching_of_le hn _
  rw [step_of_running hf hk]
  exact fetchExecute_of_ok hi he

/-- A machine that neither is halted nor waits and comes to a sprite whose rows lie in memory draws
it. The cells of the sprite are distinct; the screen changes in exactly these cells; the flag tells
whether one of them was lit before; the number of lit cells grows by the number of cells less twice
the number of those that were lit; and the calls on the screen are one for each cell, with
coordinates that stay within 198 and 237. -/
theorem step_draw {m : Machine} {vx vy n : UInt8} (hf : m.fault = none) (hk : m.keyWait = none)
    (hi : m.AboutTo (.draw vx vy n)) (hn : m.index.toNat + n.toNat ≤ memorySize) :
    let cells := Sprite.cells m.memory m.index.toNat n.toNat (m.reg vx).toNat (m.reg vy).toNat
    let drawn := m.step.machine
    m.step.result = .ok .draw ∧
    cells.Nodup ∧
    (∀ c, drawn.screen.isLit c = (m.screen.isLit c ^^ decide (c ∈ cells))) ∧
    drawn.reg Registers.flag = (if cells.any m.screen.isLit then 1 else 0) ∧
    (drawn.screen.litCount : ℤ) =
      m.screen.litCount + cells.length - 2 * (cells.filter m.screen.isLit).length ∧
    Screen.cells (m.step.events.filterMap Event.pixel?) = cells ∧
    ∀ p ∈ m.step.events.filterMap Event.pixel?, p.1 ≤ 198 ∧ p.2 ≤ 237 := by
  intro cells drawn
  have hn16 : n.toNat < 16 := (Instruction.fits_of_decode? hi.2).2.2
  have hnodup : cells.Nodup := Sprite.nodup_cells _ _ _ _ hn16
  have hstep := step_of_draw hf hk hi hn
  have hcells :=
    Sprite.cells_pixels m.memory m.index.toNat n.toNat (m.reg vx).toNat (m.reg vy).toNat
  have hle := @Sprite.pixel_le m.memory m.index.toNat n.toNat (m.reg vx) (m.reg vy) hn16
  simp only [drawn, hstep]
  generalize Sprite.pixels (m.reg vx).toNat (m.reg vy).toNat
    (m.memory.slice m.index.toNat n.toNat) = pixels at hcells hle ⊢
  have hpixels : (Screen.cells pixels).Nodup := hcells ▸ hnodup
  have herased := Screen.toggleAll_fst_of_nodup m.screen hpixels
  have hcalls : (m.traced (.draw vx vy n) ::
      List.zipWith (fun p off => Event.setPixel p.1 p.2 off) pixels
        (m.screen.toggleAll pixels).1).filterMap Event.pixel? = pixels := by
    rw [List.filterMap_cons]
    apply Event.filterMap_pixel?_zipWith
    rw [herased, List.length_map, Screen.cells, List.length_map]
  refine ⟨trivial, hnodup, ?_, ?_, ?_, ?_, ?_⟩
  · intro c
    rw [Screen.isLit_toggleAll_of_nodup _ hpixels, hcells]
  · simp only [reg, Registers.get_set_self]
    rw [herased, hcells, List.any_map]
    rfl
  · have hcount := Screen.litCount_toggleAll_of_nodup m.screen hpixels
    rw [hcells] at hcount
    simp only [cells]
    omega
  · rw [hcalls, hcells]
  · rw [hcalls]
    exact fun p hp => hle hp

/-- Column 64 is no column of the screen, but a sprite reaches it: two pixels in the last corner,
whose coordinates are both in the flag register, light the last cell of the screen and the one
behind it. -/
theorem step_draw_edge :
    let m := (new {} (.ofSeed 0)).after
      [.load [0x6F, 0x3F, 0xA2, 0x06, 0xDF, 0xF1, 0xC0], .runSteps 2]
    (m.fault = none ∧ m.keyWait = none ∧ m.AboutTo (.draw 15 15 1) ∧
      m.index.toNat + (1 : UInt8).toNat ≤ memorySize) ∧
    Sprite.cells m.memory m.index.toNat 1 (m.reg 15).toNat (m.reg 15).toNat = [2047, 2048] ∧
    (m.step.machine.screen.isLit 2048 = true) ∧
    (m.step.machine.reg Registers.flag = 0) := by
  intro m
  have hf : m.fault = none := by decide +kernel
  have hk : m.keyWait = none := by decide +kernel
  have hi : m.AboutTo (.draw 15 15 1) := by decide +kernel
  have hn : m.index.toNat + (1 : UInt8).toNat ≤ memorySize := by decide +kernel
  have hcells : Sprite.cells m.memory m.index.toNat 1 (m.reg 15).toNat (m.reg 15).toNat =
      [2047, 2048] := by
    decide +kernel
  have hlit : m.screen.isLit 2047 = false ∧ m.screen.isLit 2048 = false := by decide +kernel
  obtain ⟨-, -, hscreen, hflag, -⟩ := step_draw hf hk hi hn
  simp only [show (1 : UInt8).toNat = 1 from rfl, hcells] at hscreen hflag
  refine ⟨⟨hf, hk, hi, hn⟩, hcells, ?_, ?_⟩
  · rw [hscreen, hlit.2]
    decide
  · rw [hflag, List.any_cons, List.any_cons, hlit.1, hlit.2]
    decide

end Machine

end ChipEight
