/-
# Drawing twice

A sprite that is drawn a second time undoes itself: each of its cells is toggled once by each of the
two draws, so all cells are as they were, and the second flag tells whether a cell of the sprite was
off in the beginning. Between the two draws frames may end and keys may move, since nothing that a
draw reads changes then (`Machine.SameScene`).

* `redraw_restores` : the screen and the flags after a sprite was drawn twice in a row.
-/
import ChipEight.Proofs.Sprite
import ChipEight.Proofs.Tick

namespace ChipEight

/-! ## Cells -/

/-- A sprite has cells exactly if one of its rows has a bit. -/
theorem Sprite.exists_mem_cells_iff {memory : Memory} {start n x y : Nat} :
    (∃ c, c ∈ cells memory start n x y) ↔
      ∃ r < n, ∃ bit < 8, (memory.byte (start + r)).toNat.testBit bit := by
  constructor
  · rintro ⟨c, hc⟩
    obtain ⟨r, hr, hc⟩ := List.mem_flatMap.1 hc
    obtain ⟨column, hcolumn, -⟩ := List.mem_map.1 hc
    obtain ⟨-, hbit⟩ := List.mem_filter.1 hcolumn
    have hlt : width - 1 - column < 8 := Nat.lt_of_le_of_lt (Nat.sub_le _ _) (by decide)
    exact ⟨r, List.mem_range.1 hr, width - 1 - column, hlt, hbit⟩
  · rintro ⟨r, hr, bit, hlt, hbit⟩
    -- bits are counted from the right and columns from the left
    have hback : width - 1 - (width - 1 - bit) = bit := Nat.sub_sub_self (Nat.le_of_lt_succ hlt)
    have hcolumn : width - 1 - bit ∈ (List.range width).filter fun column =>
        (memory.byte (start + r)).toNat.testBit (width - 1 - column) := by
      refine List.mem_filter.2 ⟨List.mem_range.2 ?_, ?_⟩
      · exact Nat.lt_of_le_of_lt (Nat.sub_le _ _) (by decide)
      · rw [hback]
        exact hbit
    exact ⟨_, List.mem_flatMap.2 ⟨r, List.mem_range.2 hr, List.mem_map_of_mem hcolumn⟩⟩

/-- One of the cells that were toggled is lit exactly if it was dark before. -/
theorem Screen.any_isLit_toggled {s t : Screen} {cells : List Nat}
    (h : ∀ c, t.isLit c = (s.isLit c ^^ decide (c ∈ cells))) :
    cells.any t.isLit = cells.any fun c => !s.isLit c := by
  rw [Bool.eq_iff_iff, List.any_eq_true, List.any_eq_true]
  refine exists_congr fun c => and_congr_right fun hc => ?_
  rw [h, decide_eq_true hc, Bool.xor_true]

/-- Of cells that are all dark none is lit, and one is dark if there is any. -/
theorem Screen.any_of_dark {s : Screen} {cells : List Nat} (h : ∀ c ∈ cells, s.isLit c = false) :
    cells.any s.isLit = false ∧ ((cells.any fun c => !s.isLit c) = true ↔ ∃ c, c ∈ cells) := by
  constructor
  · rw [List.any_eq_false]
    intro c hc
    rw [h c hc]
    exact Bool.false_ne_true
  · rw [List.any_eq_true]
    refine exists_congr fun c => and_iff_left_of_imp fun hc => ?_
    rw [h c hc]
    rfl

namespace Machine

variable {m m' m'' : Machine} {vx vy n : UInt8}

/-- The cells of the sprite that an instruction draws. -/
def spriteCells (m : Machine) (vx vy n : UInt8) : List Nat :=
  Sprite.cells m.memory m.index.toNat n.toNat (m.reg vx).toNat (m.reg vy).toNat

/-- A draw toggles the cells of its sprite and sets the flag if one of them was lit. -/
theorem ComesTo.draws (h : m.ComesTo (.draw vx vy n))
    (hn : m.index.toNat + n.toNat ≤ memorySize) :
    m.step.result = .ok .draw ∧
      ∃ screen : Screen,
        m.step.machine = { m.advanced with
          screen
          registers := m.registers.set Registers.flag
            (if (m.spriteCells vx vy n).any m.screen.isLit then 1 else 0) } ∧
        ∀ c, screen.isLit c = (m.screen.isLit c ^^ decide (c ∈ m.spriteCells vx vy n)) := by
  have hn16 : n.toNat < 16 := (Instruction.fits_of_decode? h.aboutTo.2).2.2
  have hcells : Screen.cells (Sprite.pixels (m.reg vx).toNat (m.reg vy).toNat
      (m.memory.slice m.index.toNat n.toNat)) = m.spriteCells vx vy n :=
    Sprite.cells_pixels _ _ _ _ _
  have hstep := step_of_draw h.fault h.keyWait h.aboutTo hn
  generalize Sprite.pixels (m.reg vx).toNat (m.reg vy).toNat
    (m.memory.slice m.index.toNat n.toNat) = pixels at hcells hstep
  have hnodup : (Screen.cells pixels).Nodup := by
    rw [hcells]
    exact Sprite.nodup_cells _ _ _ _ hn16
  rw [hstep, Screen.toggleAll_fst_of_nodup m.screen hnodup, hcells, List.any_map]
  refine ⟨rfl, (m.screen.toggleAll pixels).2, rfl, ?_⟩
  intro c
  rw [Screen.isLit_toggleAll_of_nodup m.screen hnodup, hcells]

/-! ## What may happen between two draws -/

/-- Two machines are alike in all that the drawing of a sprite depends on. -/
structure SameScene (m m' : Machine) : Prop where
  /-- The next instruction is at the same address. -/
  pc : m'.pc = m.pc
  /-- Both machines are halted or neither. -/
  fault : m'.fault = m.fault
  /-- Both machines wait for a key or neither. -/
  keyWait : m'.keyWait = m.keyWait
  /-- The coordinates are the same. -/
  registers : m'.registers = m.registers
  /-- The rows of the sprite begin at the same address. -/
  index : m'.index = m.index
  /-- The rows of the sprite are the same, and so is the program. -/
  memory : m'.memory = m.memory
  /-- The same cells are lit. -/
  isLit : ∀ c, m'.screen.isLit c = m.screen.isLit c

/-- Scenes that follow on each other without a change. -/
theorem SameScene.trans (h : m.SameScene m') (h' : m'.SameScene m'') : m.SameScene m'' where
  pc := h'.pc.trans h.pc
  fault := h'.fault.trans h.fault
  keyWait := h'.keyWait.trans h.keyWait
  registers := h'.registers.trans h.registers
  index := h'.index.trans h.index
  memory := h'.memory.trans h.memory
  isLit c := (h'.isLit c).trans (h.isLit c)

end Machine

/-- Whether an action concerns nothing but keys and the presentation of the screen. -/
def Action.keepsScene : Action → Bool
  | renderScreen | pressKey _ | releaseKey _ | releaseKeys | awaitKey | takeKey => true
  | _ => false

/-- Whether a tick is the end of a frame or such an action. -/
def Tick.keepsScene : Tick → Bool
  | step _ => false
  | endFrame _ => true
  | act _ a => a.keepsScene

namespace Machine

variable {m m' : Machine} {vx vy n : UInt8}

/-- The end of a frame leaves the scene as it is, and so do keys. -/
theorem sameScene_of_keepsScene {t : Tick} (h : t.keepsScene) : t.before.SameScene t.after := by
  cases t with
  | step m => cases h
  | endFrame m =>
    show m.SameScene m.endFrame.1
    unfold endFrame
    cases m.isPaused <;> exact ⟨rfl, rfl, rfl, rfl, rfl, rfl, Screen.isLit_render _⟩
  | act m a =>
    cases a with
    | renderScreen | pressKey | releaseKey | releaseKeys | awaitKey | takeKey =>
      exact ⟨rfl, rfl, rfl, rfl, rfl, rfl, fun _ => rfl⟩
    | _ => cases h

/-- Any number of frames that end and keys that move leave the scene as it is. -/
theorem Ticks.sameScene {ticks : List Tick} {events : List Event} (h : Ticks m ticks events m')
    (hkeeps : ∀ t ∈ ticks, t.keepsScene) : m.SameScene m' := by
  have hrefl : m.SameScene m := ⟨rfl, rfl, rfl, rfl, rfl, rfl, fun _ => rfl⟩
  exact (h.preserves (P := m.SameScene)
    (fun t ht hm => hm.trans (sameScene_of_keepsScene (hkeeps t ht))) hrefl).1

/-! ## Two draws -/

/-- A machine that draws and then comes to the same sprite again, with the flag register in neither
coordinate, draws the same cells. -/
theorem ComesTo.again (h : m.ComesTo (.draw vx vy n)) (hn : m.index.toNat + n.toNat ≤ memorySize)
    (hagain : m.advanced.AboutTo (.draw vx vy n)) (hx : vx ≠ Registers.flag)
    (hy : vy ≠ Registers.flag) (hscene : m.step.machine.SameScene m') :
    m'.ComesTo (.draw vx vy n) ∧ m'.index = m.index ∧
      m'.spriteCells vx vy n = m.spriteCells vx vy n := by
  obtain ⟨-, screen, hstep, -⟩ := h.draws hn
  rw [hstep] at hscene
  have hreg : ∀ r : UInt8, r.toNat < 16 → r ≠ Registers.flag → m'.reg r = m.reg r := by
    intro r hr hne
    rw [reg, hscene.registers]
    exact Registers.get_set_of_ne _ _ _ _ (Registers.select_ne hr (by decide) hne).symm
  obtain ⟨hx16, hy16, -⟩ := Instruction.fits_of_decode? h.aboutTo.2
  refine ⟨⟨hscene.fault.trans h.fault, hscene.keyWait.trans h.keyWait, ?_⟩, hscene.index, ?_⟩
  · rw [AboutTo, hscene.pc, hscene.memory]
    exact hagain
  · rw [spriteCells, hscene.memory, hscene.index, hreg vx hx16 hx, hreg vy hy16 hy]
    rfl

/-- A machine draws a sprite whose rows lie in memory and whose coordinates are not in the flag
register, and then, without another instruction in between, draws it again. In between exactly the
cells of the sprite are changed. After that all cells of the screen are as they were before, shown
or not, and the flag tells whether a cell of the sprite was dark then. If all of them were dark, the
first draw clears the flag, and the second one sets it exactly if the sprite has a bit. -/
theorem redraw_restores {ticks : List Tick} {events : List Event}
    (h : m.ComesTo (.draw vx vy n)) (hn : m.index.toNat + n.toNat ≤ memorySize)
    (hagain : m.advanced.AboutTo (.draw vx vy n)) (hx : vx ≠ Registers.flag)
    (hy : vy ≠ Registers.flag) (hticks : Ticks m.step.machine ticks events m')
    (hkeeps : ∀ t ∈ ticks, t.keepsScene) :
    let cells := m.spriteCells vx vy n
    let drawn := m.step.machine
    let redrawn := m'.step.machine
    m.step.result = .ok .draw ∧ m'.step.result = .ok .draw ∧
    (∀ c, drawn.screen.isLit c = (m.screen.isLit c ^^ decide (c ∈ cells))) ∧
    (∀ c, redrawn.screen.isLit c = m.screen.isLit c) ∧
    redrawn.reg Registers.flag = (if cells.any (fun c => !m.screen.isLit c) then 1 else 0) ∧
    ((∀ c ∈ cells, m.screen.isLit c = false) →
      drawn.reg Registers.flag = 0 ∧
      (redrawn.reg Registers.flag = 1 ↔
        ∃ r < n.toNat, ∃ bit < 8, (m.memory.byte (m.index.toNat + r)).toNat.testBit bit)) := by
  intro cells drawn redrawn
  have hscene := hticks.sameScene hkeeps
  obtain ⟨h', hindex, hcells⟩ := h.again hn hagain hx hy hscene
  obtain ⟨hfirst, screen, hstep, hlit⟩ := h.draws hn
  obtain ⟨hsecond, screen', hstep', hlit'⟩ := h'.draws (hindex.symm ▸ hn)
  have hdrawn : ∀ c, drawn.screen.isLit c = (m.screen.isLit c ^^ decide (c ∈ cells)) := by
    intro c
    simp only [drawn, hstep]
    exact hlit c
  -- what happens between the draws leaves the cells as the first one left them
  have hbetween : ∀ c, m'.screen.isLit c = (m.screen.isLit c ^^ decide (c ∈ cells)) :=
    fun c => (hscene.isLit c).trans (hdrawn c)
  have hflag : redrawn.reg Registers.flag =
      if cells.any (fun c => !m.screen.isLit c) then 1 else 0 := by
    simp only [redrawn, hstep', reg, Registers.get_set_self]
    rw [hcells, Screen.any_isLit_toggled hbetween]
  refine ⟨hfirst, hsecond, hdrawn, ?_, hflag, ?_⟩
  · intro c
    simp only [redrawn, hstep']
    rw [hlit', hcells, hbetween, Bool.xor_assoc, Bool.xor_self, Bool.xor_false]
  · intro hdark
    obtain ⟨hnone, hany⟩ := Screen.any_of_dark hdark
    constructor
    · simp only [drawn, hstep, reg, Registers.get_set_self]
      rw [hnone]
      rfl
    · have hbits : (∃ c, c ∈ cells) ↔ ∃ r < n.toNat, ∃ bit < 8,
          (m.memory.byte (m.index.toNat + r)).toNat.testBit bit :=
        Sprite.exists_mem_cells_iff
      rw [hflag, ← hbits, ← hany]
      split
      next hlit => exact iff_of_true rfl hlit
      next hlit => exact iff_of_false (by decide) hlit

/-- A sprite that is drawn to row 32 has its two cells behind the grid. A frame ends and a key goes
down between the draws, and nothing remains but the second flag. -/
theorem redraw_restores_beyond :
    let m := (new {} (.ofSeed 0)).after
      [.load [0x60, 0x20, 0xA2, 0x00, 0xD0, 0x01, 0xD0, 0x01], .runSteps 2]
    let m' := (m.step.machine.endFrame.1.perform (.pressKey 5)).machine
    m.spriteCells 0 0 1 = [2081, 2082] ∧ m.screen.isLit 2081 = false ∧
    m.step.machine.reg Registers.flag = 0 ∧ m.step.machine.screen.isLit 2081 = true ∧
    m'.step.machine.reg Registers.flag = 1 ∧ m'.step.machine.screen.isLit 2081 = false := by
  intro m m'
  -- one evaluation of the machine gives all that is needed of it
  obtain ⟨hcomes, hfit, hagain, hcells, hbit⟩ : m.ComesTo (.draw 0 0 1) ∧
      m.index.toNat + (1 : UInt8).toNat ≤ memorySize ∧ m.advanced.AboutTo (.draw 0 0 1) ∧
      m.spriteCells 0 0 1 = [2081, 2082] ∧
      (m.memory.byte (m.index.toNat + 0)).toNat.testBit 6 = true := by
    decide +kernel
  have hdark : ∀ c ∈ m.spriteCells 0 0 1, m.screen.isLit c = false := by decide +kernel
  have hticks : Ticks m.step.machine
      [.endFrame m.step.machine, .act m.step.machine.endFrame.1 (.pressKey 5)] _ m' :=
    .head (.endFrame m.step.machine) (.single (.act m.step.machine.endFrame.1 (.pressKey 5)))
  have hmem : 2081 ∈ m.spriteCells 0 0 1 := hcells ▸ List.mem_cons_self
  obtain ⟨-, -, hdrawn, hredrawn, -, hflags⟩ :=
    redraw_restores hcomes hfit hagain (by decide) (by decide) hticks
      (by simp [Tick.keepsScene, Action.keepsScene])
  obtain ⟨hfirst, hsecond⟩ := hflags hdark
  refine ⟨hcells, hdark 2081 hmem, hfirst, ?_, hsecond.2 ⟨0, by decide, 6, by decide, hbit⟩, ?_⟩
  · rw [hdrawn, hdark 2081 hmem, decide_eq_true hmem]
    rfl
  · rw [hredrawn, hdark 2081 hmem]

end Machine

end ChipEight
