/-
# Keys that are held

Whether a key is down is the host's affair: no instruction moves a key, and neither does the loading
of a program. Of the calls that move it, a press, a release and the release of all keys, the last
one decides (`Machine.isDown_after`).
-/
import ChipEight.Proofs.Invariant

namespace ChipEight

/-! ## Calls on a keypad -/

namespace Keypad

namespace Call

/-- Whether a call is one that moves a key. -/
def moves (k : Key) : Call → Bool
  | press l | release l => l == k
  | releaseAll => true
  | await | take => false

/-- Of the calls that move a key, the last one presses it. -/
def LastPress (calls : List Call) (k : Key) : Prop :=
  (calls.filter (moves k)).getLast? = some (press k)

instance (calls : List Call) (k : Key) : Decidable (LastPress calls k) :=
  inferInstanceAs (Decidable (_ = _))

/-- Whether a key is down after a call. -/
def leavesDown (k : Key) (down : Bool) (c : Call) : Bool :=
  if c.moves k then decide (c = press k) else down

/-- The last call that moves a key decides whether it is down. -/
theorem foldl_leavesDown (k : Key) (down : Bool) (calls : List Call) :
    calls.foldl (leavesDown k) down =
      ((calls.filter (moves k)).getLast?.map fun c => decide (c = press k)).getD down := by
  induction calls generalizing down with
  | nil => rfl
  | cons c calls ih =>
    rw [List.foldl_cons, ih, leavesDown]
    by_cases hc : c.moves k
    · rw [if_pos hc, List.filter_cons_of_pos hc, List.getLast?_cons]
      cases (calls.filter (moves k)).getLast? <;> rfl
    · rw [if_neg hc, List.filter_cons_of_neg hc]

/-- A key that was up is down exactly if the last call that moves it presses it. -/
theorem foldl_leavesDown_eq_true_iff {k : Key} {calls : List Call} :
    calls.foldl (leavesDown k) false = true ↔ LastPress calls k := by
  rw [foldl_leavesDown, LastPress]
  cases (calls.filter (moves k)).getLast? with
  | none => simp
  | some c => simp

end Call

/-- Which keys are down after a call. -/
theorem isDown_call (p : Keypad) (c : Call) (k : Key) :
    (p.call c).isDown k = c.leavesDown k (p.isDown k) := by
  cases c with
  | press l =>
    rw [call, isDown_press, Call.leavesDown, Call.moves]
    by_cases h : l = k <;> simp [h]
  | release l =>
    rw [call, isDown_release, Call.leavesDown, Call.moves]
    by_cases h : l = k <;> simp [h]
  | releaseAll => exact isDown_releaseAll p k
  | await => exact isDown_await p k
  | take => exact isDown_take p k

end Keypad

/-! ## Calls of the host -/

/-- The call that an action makes on the keypad, if it makes one. -/
def Action.call? : Action → Option Keypad.Call
  | pressKey k => some (.press k)
  | releaseKey k => some (.release k)
  | releaseKeys => some .releaseAll
  | awaitKey => some .await
  | takeKey => some .take
  | _ => none

namespace Machine

variable {m : Machine} {a : Action}

/-- No step moves a key. -/
theorem held_step (m : Machine) : m.step.machine.keypad.held = m.keypad.held := by
  refine step_preserves (P := fun m' => m'.keypad.held = m.keypad.held) ?_ ?_ rfl
  · intro m' register key h _ _ _
    exact h
  · intro m' h _ _
    cases m'.fetched with
    | outside hpc hr | unknown hpc hd hr | refused i failure hi hf hr =>
      rw [hr]
      exact h
    | executed i e hi he hr =>
      rw [hr]
      show e.machine.keypad.held = m.keypad.held
      rw [(steered_of_effect he).keypad]
      split
      · exact h
      · exact h

/-- An action that makes no call on the keypad moves no key. -/
theorem held_perform (ha : a.call? = none) :
    (m.perform a).machine.keypad.held = m.keypad.held := by
  have hstep : ∀ m' : Machine, m'.keypad.held = m.keypad.held →
      m'.step.machine.keypad.held = m.keypad.held := fun m' h => m'.held_step.trans h
  cases a with
  | load program =>
    show (m.load program).machine.keypad.held = m.keypad.held
    unfold load
    split <;> rfl
  | loadFont font =>
    obtain ⟨⟨memory, hm⟩, -⟩ := loadFont_frame m font
    show (m.loadFont font).machine.keypad.held = m.keypad.held
    rw [hm]
  | step => exact m.held_step
  | runSteps count =>
    exact runSteps_preserves (P := fun m' => m'.keypad.held = m.keypad.held) hstep rfl count
  | cycle =>
    refine cycle_preserves (P := fun m' => m'.keypad.held = m.keypad.held) hstep ?_ rfl
    intro m' h
    rw [(endFrame_frame m').1]
    exact h
  | builtinFont | togglePixel | clearScreen | renderScreen => rfl
  | _ => cases ha

/-- Which keys are down after an action: only its call on the keypad counts. -/
theorem isDown_perform (m : Machine) (a : Action) (k : Key) :
    (m.perform a).machine.keypad.isDown k =
      a.call?.toList.foldl (Keypad.Call.leavesDown k) (m.keypad.isDown k) := by
  cases ha : a.call? with
  | none =>
    show (m.perform a).machine.keypad.held[k] = m.keypad.held[k]
    rw [held_perform ha]
  | some c =>
    have hcall : (m.perform a).machine.keypad = m.keypad.call c := by
      cases a <;> cases ha <;> rfl
    rw [hcall, Keypad.isDown_call]
    rfl

/-- Which keys are down after a run: only its calls on the keypad count. -/
theorem isDown_after (m : Machine) (actions : List Action) (k : Key) :
    (m.after actions).keypad.isDown k =
      (actions.filterMap Action.call?).foldl (Keypad.Call.leavesDown k) (m.keypad.isDown k) := by
  induction actions generalizing m with
  | nil => rfl
  | cons a actions ih =>
    rw [after, ih, isDown_perform, List.filterMap_cons]
    cases a.call? <;> rfl

/-- After any run of a machine that was switched on, a key is down exactly if the last call that
moves it presses it. -/
theorem isDown_after_new (config : Config) (generator : Random.Generator) (actions : List Action)
    (k : Key) :
    ((new config generator).after actions).keypad.isDown k ↔
      Keypad.Call.LastPress (actions.filterMap Action.call?) k := by
  have hnew : (new config generator).keypad.isDown k = false := by
    show (Vector.replicate 16 false)[k] = false
    exact Vector.getElem_replicate _
  rw [isDown_after, hnew, Keypad.Call.foldl_leavesDown_eq_true_iff]

end Machine

end ChipEight
