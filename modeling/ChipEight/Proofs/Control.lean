/-
# Where a program goes on

The word at the program counter says where a program goes on after its instruction. `Opcode.Ends`
lists the words that end a step in a way of their own, `Machine.Skips` those that skip the next
instruction, and `Machine.Continues` the program counters that follow. Every step that succeeds
continues in this way (`Machine.step_continues`), where a key counts as held if the last call of the
host that moves it is a press.
-/
import ChipEight.Proofs.Fault
import ChipEight.Proofs.Held
import ChipEight.Proofs.Table

namespace ChipEight

open Instruction Opcode

/-! ## How steps end -/

/-- How a step ends that executes an instruction. -/
def Instruction.flow : Instruction → Flow
  | ret | jump _ | call _ | jumpOffset _ => .jump
  | clearScreen | draw _ _ _ => .draw
  | setSound _ => .sound
  | awaitKey _ => .keyWait
  | _ => .ok

/-- The words that end a step in a way of their own. -/
inductive Opcode.Ends (w : UInt16) : Flow → Prop
  /-- Form `00EE`. -/
  | ret (h : w = 0x00EE) : Ends w .jump
  /-- Form `1nnn`. -/
  | jump (h : Row.Matches { first := 0x1 } w) : Ends w .jump
  /-- Form `2nnn`. -/
  | call (h : Row.Matches { first := 0x2 } w) : Ends w .jump
  /-- Form `Bnnn`. -/
  | jumpOffset (h : Row.Matches { first := 0xB } w) : Ends w .jump
  /-- Form `00E0`. -/
  | clear (h : w = 0x00E0) : Ends w .draw
  /-- Form `Dxyn`. -/
  | sprite (h : Row.Matches { first := 0xD } w) : Ends w .draw
  /-- Form `Fx18`. -/
  | setSound (h : Row.Matches { first := 0xF, third := some 0x1, last := some 0x8 } w) :
      Ends w .sound
  /-- Form `Fx0A`. -/
  | awaitKey (h : Row.Matches { first := 0xF, third := some 0x0, last := some 0xA } w) :
      Ends w .keyWait

variable {w : UInt16} {i : Instruction} {flow : Flow}

/-- A word that ends a step in a way of its own stands for an instruction that does. -/
theorem Opcode.Ends.flow_eq (h : Ends w flow) (hd : decode? w = some i) : i.flow = flow := by
  cases h with
  | ret h | clear h =>
    subst h
    cases hd
    rfl
  | jump h =>
    rw [decode?_of_matches (i := .jump (nnn w)) h rfl nofun] at hd
    cases hd
    rfl
  | call h =>
    rw [decode?_of_matches (i := .call (nnn w)) h rfl nofun] at hd
    cases hd
    rfl
  | jumpOffset h =>
    rw [decode?_of_matches (i := .jumpOffset (nnn w)) h rfl nofun] at hd
    cases hd
    rfl
  | sprite h =>
    rw [decode?_of_matches (i := .draw (x w) (y w) (n w)) h ⟨rfl, rfl, rfl⟩ nofun] at hd
    cases hd
    rfl
  | setSound h =>
    rw [decode?_of_matches (i := .setSound (x w)) h rfl nofun] at hd
    cases hd
    rfl
  | awaitKey h =>
    rw [decode?_of_matches (i := .awaitKey (x w)) h rfl nofun] at hd
    cases hd
    rfl

/-- An instruction that ends a step in a way of its own has such a word. -/
theorem Opcode.ends_of_decode? (hd : decode? w = some i) (hflow : i.flow ≠ .ok) :
    Ends w i.flow := by
  have hw := matches_of_decode? hd
  cases i with
  | ret => exact .ret (matches_ret.1 hw)
  | clearScreen => exact .clear (matches_clearScreen.1 hw)
  | jump => exact .jump hw
  | call => exact .call hw
  | jumpOffset => exact .jumpOffset hw
  | draw => exact .sprite hw
  | setSound => exact .setSound hw
  | awaitKey => exact .awaitKey hw
  | _ => exact absurd rfl hflow

/-- A step ends in a way of its own exactly if its word says so. -/
theorem Opcode.flow_eq_iff_ends (hd : decode? w = some i) (hflow : flow ≠ .ok) :
    i.flow = flow ↔ Ends w flow := by
  constructor
  · rintro rfl
    exact ends_of_decode? hd hflow
  · exact fun h => h.flow_eq hd

/-- A step ends in no way of its own exactly if its word says nothing. -/
theorem Opcode.flow_eq_ok_iff (hd : decode? w = some i) :
    i.flow = .ok ↔ ∀ flow, ¬ Ends w flow := by
  constructor
  · intro h flow hends
    rw [hends.flow_eq hd] at h
    subst h
    cases hends
  · intro h
    by_contra hflow
    exact h _ (ends_of_decode? hd hflow)

namespace Machine

variable {m : Machine} {address : Nat} {e : Effect}

/-- Every instruction that is not refused ends its step as it says. -/
theorem flow_of_effect (h : m.effect address i = .ok e) : e.flow = i.flow := by
  cases i with
  | ret | call =>
    rw [effect] at h
    split at h <;> cases h
    rfl
  | draw | storeDecimal | storeRegisters | loadRegisters =>
    rw [eq_of_reaching h]
    rfl
  | _ =>
    cases h
    rfl

/-! ## Skips -/

/-- The instruction of a word skips the next one, if `down` are the keys that are held. -/
inductive Skips (m : Machine) (down : Key → Prop) (w : UInt16) : Prop
  /-- Form `3xnn`: `Vx` is `nn`. -/
  | byte (h : Row.Matches { first := 0x3 } w) (heq : m.reg (x w) = nn w)
  /-- Form `4xnn`: `Vx` is not `nn`. -/
  | notByte (h : Row.Matches { first := 0x4 } w) (hne : m.reg (x w) ≠ nn w)
  /-- Form `5xy0`: `Vx` is `Vy`. -/
  | equal (h : Row.Matches { first := 0x5, last := some 0x0 } w) (heq : m.reg (x w) = m.reg (y w))
  /-- Form `9xy0`: `Vx` is not `Vy`. -/
  | notEqual (h : Row.Matches { first := 0x9, last := some 0x0 } w)
      (hne : m.reg (x w) ≠ m.reg (y w))
  /-- Form `Ex9E`: `Vx` is a key that is held. -/
  | key (h : Row.Matches { first := 0xE, third := some 0x9, last := some 0xE } w)
      (hdown : ∃ k, (m.reg (x w)).toNat = k.val ∧ down k)
  /-- Form `ExA1`: `Vx` is no key that is held. -/
  | notKey (h : Row.Matches { first := 0xE, third := some 0xA, last := some 0x1 } w)
      (hup : ¬ ∃ k, (m.reg (x w)).toNat = k.val ∧ down k)

/-- A number is the key that it names, if there is one, and then that key is asked for. -/
theorem keyState_eq_true_iff {number : UInt8} :
    (m.keyState number).1 = true ↔ ∃ k : Key, number.toNat = k.val ∧ m.keypad.isDown k := by
  unfold keyState Key.ofByte?
  by_cases h : number.toNat < 16
  · rw [dif_pos h]
    constructor
    · intro hdown
      exact ⟨⟨number.toNat, h⟩, rfl, hdown⟩
    · rintro ⟨k, hk, hdown⟩
      have hkey : (⟨number.toNat, h⟩ : Key) = k := Fin.ext hk
      rw [hkey]
      exact hdown
  · rw [dif_neg h]
    constructor
    · nofun
    · rintro ⟨k, hk, -⟩
      exact absurd (hk ▸ k.isLt) h

/-- An instruction skips the next one exactly if its word says so. -/
theorem skips_iff {down : Key → Prop} (hdown : ∀ k, m.keypad.isDown k ↔ down k)
    (hd : decode? w = some i) : m.skips i ↔ m.Skips down w := by
  have hkey : ∀ number : UInt8,
      (m.keyState number).1 ↔ ∃ k : Key, number.toNat = k.val ∧ down k := by
    intro number
    rw [keyState_eq_true_iff]
    simp only [hdown]
  constructor
  · intro h
    have hw := matches_of_decode? hd
    have hops := operands_of_decode? hd
    cases i with
    | skipIfByte =>
      obtain ⟨rfl, rfl⟩ := hops
      exact .byte hw (beq_iff_eq.1 h)
    | skipUnlessByte =>
      obtain ⟨rfl, rfl⟩ := hops
      exact .notByte hw (bne_iff_ne.1 h)
    | skipIfEqual =>
      obtain ⟨rfl, rfl⟩ := hops
      exact .equal hw (beq_iff_eq.1 h)
    | skipUnlessEqual =>
      obtain ⟨rfl, rfl⟩ := hops
      exact .notEqual hw (bne_iff_ne.1 h)
    | skipIfKey =>
      obtain rfl := hops
      exact .key hw ((hkey _).1 h)
    | skipUnlessKey =>
      obtain rfl := hops
      refine .notKey hw fun hheld => ?_
      rw [skips, (hkey _).2 hheld] at h
      cases h
    | _ => cases h
  · intro h
    cases h with
    | byte h heq =>
      rw [decode?_of_matches (i := .skipIfByte (x w) (nn w)) h ⟨rfl, rfl⟩ nofun] at hd
      cases hd
      exact beq_iff_eq.2 heq
    | notByte h hne =>
      rw [decode?_of_matches (i := .skipUnlessByte (x w) (nn w)) h ⟨rfl, rfl⟩ nofun] at hd
      cases hd
      exact bne_iff_ne.2 hne
    | equal h heq =>
      rw [decode?_of_matches (i := .skipIfEqual (x w) (y w)) h ⟨rfl, rfl⟩ nofun] at hd
      cases hd
      exact beq_iff_eq.2 heq
    | notEqual h hne =>
      rw [decode?_of_matches (i := .skipUnlessEqual (x w) (y w)) h ⟨rfl, rfl⟩ nofun] at hd
      cases hd
      exact bne_iff_ne.2 hne
    | key h hheld =>
      rw [decode?_of_matches (i := .skipIfKey (x w)) h rfl nofun] at hd
      cases hd
      exact (hkey _).2 hheld
    | notKey h hup =>
      rw [decode?_of_matches (i := .skipUnlessKey (x w)) h rfl nofun] at hd
      cases hd
      rw [skips, Bool.not_eq_true']
      exact Bool.eq_false_iff.2 fun hstate => hup ((hkey _).1 hstate)

/-! ## Program counters -/

/-- An instruction that skips the next one sets no program counter of its own. -/
theorem flow_of_skips (h : m.skips i) : i.flow ≠ .jump := by
  cases i with
  | ret | jump | call | jumpOffset => cases h
  | _ => nofun

/-- Behind an instruction that sets no program counter of its own, the next one follows unless it is
skipped. -/
theorem nextPc_of_flow_ne (h : i.flow ≠ .jump) :
    m.nextPc i = if m.skips i then m.pc + 2 else m.pc := by
  cases i with
  | ret | jump | call | jumpOffset => exact absurd rfl h
  | _ => rfl

/-- A machine goes on behind the instruction of a word as the word says, if `down` are the keys that
are held. -/
structure Continues (m : Machine) (down : Key → Prop) (w : UInt16) (flow : Flow) (m' : Machine) :
    Prop where
  /-- Form `1nnn` goes on at its address. -/
  jump : Row.Matches { first := 0x1 } w → m'.pc = (nnn w).toNat
  /-- Form `2nnn` goes on at its address. -/
  call : Row.Matches { first := 0x2 } w → m'.pc = (nnn w).toNat
  /-- Form `00EE` goes on at the return address that it takes from the call stack. -/
  ret : w = 0x00EE → m.stack = m'.pc :: m'.stack
  /-- Form `Bnnn` goes on behind its address. -/
  jumpOffset : Row.Matches { first := 0xB } w → m'.pc = (nnn w).toNat + (m.reg 0).toNat
  /-- A skip passes the next instruction. -/
  skip : m.Skips down w → m'.pc = m.pc + 4
  /-- All other words go on with the next instruction. -/
  next : ¬ Ends w .jump → ¬ m.Skips down w → m'.pc = m.pc + 2
  /-- The step ends in a way of its own exactly if the word says so. -/
  ends : ∀ own, own ≠ .ok → (flow = own ↔ Ends w own)
  /-- All other words end the step in no way of its own. -/
  ok : flow = .ok ↔ ∀ own, ¬ Ends w own
  /-- Form `0nnn`, where it is neither `00E0` nor `00EE`, does nothing but to go on. -/
  host : Row.Matches { first := 0x0 } w → w ≠ 0x00E0 → w ≠ 0x00EE →
    flow = .ok ∧ m' = { m with pc := m.pc + 2 }

/-- An instruction that is executed continues as its word says. -/
theorem continues_of_effect {down : Key → Prop} (hdown : ∀ k, m.keypad.isDown k ↔ down k)
    (hd : decode? w = some i) (he : m.advanced.effect m.pc i = .ok e) :
    m.Continues down w e.flow e.machine := by
  have hs := steered_of_effect he
  have hflow := flow_of_effect he
  have hskips : m.advanced.skips i ↔ m.Skips down w := by
    -- a condition does not depend on the program counter
    show m.skips i ↔ m.Skips down w
    exact skips_iff hdown hd
  constructor
  case jump =>
    intro h
    rw [decode?_of_matches (i := .jump (nnn w)) h rfl nofun] at hd
    cases hd
    exact hs.pc
  case call =>
    intro h
    rw [decode?_of_matches (i := .call (nnn w)) h rfl nofun] at hd
    cases hd
    exact hs.pc
  case ret =>
    rintro rfl
    obtain rfl : i = Instruction.ret := by
      cases hd
      rfl
    -- a return that succeeds was not refused, so the call stack is not empty
    rw [hs.pc, hs.stack]
    show m.stack = m.stack.headD (m.pc + 2) :: m.stack.tail
    cases hstack : m.stack with
    | nil =>
      rw [effect_of_refuses (m := m.advanced) (.underflow hstack)] at he
      cases he
    | cons top rest => rfl
  case jumpOffset =>
    intro h
    rw [decode?_of_matches (i := .jumpOffset (nnn w)) h rfl nofun] at hd
    cases hd
    exact hs.pc
  case skip =>
    intro h
    have hskip := hskips.2 h
    rw [hs.pc, nextPc_of_flow_ne (flow_of_skips hskip), if_pos hskip]
    rfl
  case next =>
    intro hjump hskip
    have hne : i.flow ≠ .jump := fun h => hjump ((flow_eq_iff_ends hd (by decide)).1 h)
    rw [hs.pc, nextPc_of_flow_ne hne, if_neg fun h => hskip (hskips.1 h)]
    rfl
  case ends =>
    intro own hown
    rw [hflow]
    exact flow_eq_iff_ends hd hown
  case ok =>
    rw [hflow]
    exact flow_eq_ok_iff hd
  case host =>
    intro h hclear hret
    rw [decode?_of_host h.first hclear hret] at hd
    cases hd
    cases he
    exact ⟨rfl, rfl⟩

end Machine

end ChipEight
