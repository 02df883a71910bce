/-
# The keypad

Which keys are held down, and a slot for the next key press. The slot is armed when a program
starts to wait; the first press after that is delivered into it, once.
-/
import ChipEight.Key

namespace ChipEight

/-- The slot for the next key press. -/
inductive Keypad.Slot where
  /-- Nobody waits. -/
  | idle
  /-- The next press will be delivered. -/
  | awaiting
  /-- A press was delivered and not yet taken. -/
  | delivered (key : Key)
  deriving DecidableEq, Repr

/-- The state of the keypad. -/
structure Keypad where
  /-- Which keys are held down. -/
  held : Vector Bool 16 := Vector.replicate 16 false
  /-- The slot for the next key press. -/
  slot : Keypad.Slot := .idle
  deriving DecidableEq

namespace Keypad

/-- Whether a key is held down. -/
def isDown (p : Keypad) (k : Key) : Bool := p.held[k]

/-- Whether any key is held down. -/
def anyDown (p : Keypad) : Bool := Key.all.any p.isDown

/-- Whether the slot is armed and no key was pressed yet. -/
def isAwaiting (p : Keypad) : Bool := p.slot == .awaiting

/-- Press a key. An armed slot receives it. -/
def press (p : Keypad) (k : Key) : Keypad :=
  { held := p.held.set k.val true
    slot := if p.isAwaiting then .delivered k else p.slot }

/-- Release a key. -/
def release (p : Keypad) (k : Key) : Keypad :=
  { p with held := p.held.set k.val false }

/-- Release all keys; the slot stays as it is. -/
def releaseAll (p : Keypad) : Keypad :=
  { p with held := Vector.replicate 16 false }

/-- Arm the slot. -/
def await (p : Keypad) : Keypad := { p with slot := .awaiting }

/-- Take the delivered key, which leaves the slot idle. -/
def take (p : Keypad) : Option Key × Keypad :=
  match p.slot with
  | .delivered k => (some k, { p with slot := .idle })
  | _ => (none, p)

/-- The held keys as text, and nothing if there are none. -/
def dump (p : Keypad) : String :=
  if p.anyDown then
    (Key.all.filter p.isDown).foldl (fun text k => text ++ " " ++ k.name) "keys:"
  else
    ""

/-! ## Calls -/

/-- A call on a keypad. -/
inductive Call where
  /-- Press a key. -/
  | press (key : Key)
  /-- Release a key. -/
  | release (key : Key)
  /-- Release all keys. -/
  | releaseAll
  /-- Arm the slot. -/
  | await
  /-- Take the delivered key. -/
  | take
  deriving DecidableEq, Repr

/-- The keypad after a call. -/
def call (p : Keypad) : Call → Keypad
  | .press k => p.press k
  | .release k => p.release k
  | .releaseAll => p.releaseAll
  | .await => p.await
  | .take => p.take.2

/-! ## What the operations change -/

/-- A pressed key is down, and all others stay as they are. -/
theorem isDown_press (p : Keypad) (k l : Key) :
    (p.press k).isDown l = (decide (k = l) || p.isDown l) := by
  unfold press isDown
  simp only [Fin.getElem_fin, Vector.getElem_set, ← Fin.ext_iff]
  by_cases h : k = l <;> simp [h]

/-- A released key is up, and all others stay as they are. -/
theorem isDown_release (p : Keypad) (k l : Key) :
    (p.release k).isDown l = (!decide (k = l) && p.isDown l) := by
  unfold release isDown
  simp only [Fin.getElem_fin, Vector.getElem_set, ← Fin.ext_iff]
  by_cases h : k = l <;> simp [h]

/-- No key is down when all are released. -/
theorem isDown_releaseAll (p : Keypad) (k : Key) : p.releaseAll.isDown k = false := by
  unfold releaseAll isDown
  simp only [Fin.getElem_fin, Vector.getElem_replicate]

/-- Arming the slot moves no key. -/
theorem isDown_await (p : Keypad) (k : Key) : p.await.isDown k = p.isDown k := rfl

/-- Taking the delivered key moves no key. -/
theorem isDown_take (p : Keypad) (k : Key) : p.take.2.isDown k = p.isDown k := by
  unfold take
  split <;> rfl

/-- A delivered key is taken, which leaves the slot idle. -/
theorem take_of_delivered {p : Keypad} {k : Key} (h : p.slot = .delivered k) :
    p.take = (some k, { p with slot := .idle }) := by
  simp only [take, h]

/-- Without a delivered key there is nothing to take. -/
theorem take_of_not_delivered {p : Keypad} (h : ∀ k, p.slot ≠ .delivered k) :
    p.take = (none, p) := by
  unfold take
  split
  next k hk => exact absurd hk (h k)
  next => rfl

end Keypad

end ChipEight
