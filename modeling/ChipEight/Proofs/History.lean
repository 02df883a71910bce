/-
# The keypad told by its history

All that a keypad answers can be read off the calls so far. A key is down if the last call that
moves it presses it. The slot looks back to the call that armed it last: it still awaits a key if no
key was pressed since (`Call.Awaits`), and it holds the first key that was pressed since, until that
key is taken (`Call.Delivers`). Each of the two has a law for one more call, and so has the slot.
The laws agree, hence the slot follows its history (`Keypad.slot_after`). The main statement is
`Keypad.answers_of_history`.
-/
import ChipEight.Proofs.Held
import Mathlib.Data.List.Induction

namespace ChipEight.Keypad

namespace Call

/-! ## Looking back -/

/-- What was called since the slot was armed for the last time. -/
def SinceAwait (calls since : List Call) : Prop :=
  ∃ before, calls = before ++ await :: since ∧ await ∉ since

/-- The slot was armed, and no key was pressed since. -/
def Awaits (calls : List Call) : Prop :=
  ∃ since, SinceAwait calls since ∧ ∀ l, press l ∉ since

/-- A key is the first one that was pressed since the slot was armed for the last time, and nothing
was taken since it was pressed. -/
def Delivers (calls : List Call) (k : Key) : Prop :=
  ∃ waiting later, SinceAwait calls (waiting ++ press k :: later) ∧
    (∀ l, press l ∉ waiting) ∧ take ∉ later

variable {calls since : List Call} {c : Call} {k : Key}

/-- Where a list is cut, its last element is the one at the cut, or the last one behind it. -/
theorem concat_eq_append_cons {α : Type} {xs before since : List α} {c x : α} :
    xs ++ [c] = before ++ x :: since ↔
      since = [] ∧ x = c ∧ xs = before ∨
        ∃ earlier, since = earlier ++ [c] ∧ xs = before ++ x :: earlier := by
  constructor
  · intro h
    rcases List.eq_nil_or_concat since with rfl | ⟨earlier, last, rfl⟩
    · obtain ⟨hxs, hlast⟩ := List.append_inj' h rfl
      exact Or.inl ⟨rfl, (List.singleton_inj.1 hlast).symm, hxs⟩
    · rw [List.concat_eq_append, ← List.cons_append, ← List.append_assoc] at h
      obtain ⟨hxs, hlast⟩ := List.append_inj' h rfl
      exact Or.inr ⟨earlier, by rw [List.concat_eq_append, hlast], hxs⟩
  · rintro (⟨rfl, rfl, rfl⟩ | ⟨earlier, rfl, rfl⟩) <;> simp

/-- Without a call the slot was never armed. -/
theorem not_sinceAwait_nil : ¬ SinceAwait [] since := by
  rintro ⟨before, h, -⟩
  simp at h

/-- Arming the slot begins anew. -/
theorem sinceAwait_concat_await : SinceAwait (calls ++ [await]) since ↔ since = [] := by
  constructor
  · rintro ⟨before, h, hsince⟩
    rcases concat_eq_append_cons.1 h with ⟨hnil, -⟩ | ⟨earlier, rfl, -⟩
    · exact hnil
    · simp at hsince
  · rintro rfl
    exact ⟨calls, rfl, by simp⟩

/-- Any other call comes to those that were made since. -/
theorem sinceAwait_concat (hc : c ≠ await) :
    SinceAwait (calls ++ [c]) since ↔
      ∃ earlier, since = earlier ++ [c] ∧ SinceAwait calls earlier := by
  constructor
  · rintro ⟨before, h, hsince⟩
    rcases concat_eq_append_cons.1 h with ⟨-, rfl, -⟩ | ⟨earlier, rfl, hcalls⟩
    · exact absurd rfl hc
    · refine ⟨earlier, rfl, before, hcalls, fun hmem => hsince ?_⟩
      exact List.mem_append_left [c] hmem
  · rintro ⟨earlier, rfl, before, rfl, hearlier⟩
    exact ⟨before, by simp, by simp [hearlier, hc.symm]⟩

/-! ## One more call -/

/-- The slot awaits a key if it was just armed, or if it did before and no key was pressed now. -/
theorem awaits_concat :
    Awaits (calls ++ [c]) ↔ c = await ∨ (∀ l, c ≠ press l) ∧ Awaits calls := by
  by_cases hc : c = await
  · subst hc
    simp only [Awaits, sinceAwait_concat_await, true_or, iff_true]
    exact ⟨[], rfl, by simp⟩
  · simp only [Awaits, sinceAwait_concat hc, hc, false_or]
    constructor
    · rintro ⟨since, ⟨earlier, rfl, hearlier⟩, hnone⟩
      simp only [List.mem_append, List.mem_singleton, not_or] at hnone
      exact ⟨fun l h => (hnone l).2 h.symm, earlier, hearlier, fun l => (hnone l).1⟩
    · rintro ⟨hpress, earlier, hearlier, hnone⟩
      refine ⟨earlier ++ [c], ⟨earlier, rfl, hearlier⟩, ?_⟩
      simp only [List.mem_append, List.mem_singleton, not_or]
      exact fun l => ⟨hnone l, fun h => hpress l h.symm⟩

/-- A key is delivered if it was awaited and is pressed now, or if it was delivered before and is
neither taken now nor forgotten. -/
theorem delivers_concat :
    Delivers (calls ++ [c]) k ↔
      c = press k ∧ Awaits calls ∨ c ≠ await ∧ c ≠ take ∧ Delivers calls k := by
  by_cases hc : c = await
  · subst hc
    simp [Delivers, sinceAwait_concat_await]
  · simp only [Delivers, Awaits, sinceAwait_concat hc, ne_eq, hc, not_false_iff, true_and]
    constructor
    · rintro ⟨waiting, later, ⟨earlier, hsplit, hearlier⟩, hfirst, htake⟩
      rcases concat_eq_append_cons.1 hsplit.symm with ⟨rfl, rfl, rfl⟩ | ⟨later, rfl, rfl⟩
      · exact Or.inl ⟨rfl, earlier, hearlier, hfirst⟩
      · simp only [List.mem_append, List.mem_singleton, not_or] at htake
        exact Or.inr ⟨fun h => htake.2 h.symm, waiting, later, hearlier, hfirst, htake.1⟩
    · rintro (⟨rfl, waiting, hwaiting, hfirst⟩ | ⟨hc', waiting, later, hearlier, hfirst, htake⟩)
      · exact ⟨waiting, [], ⟨waiting, rfl, hwaiting⟩, hfirst, by simp⟩
      · refine ⟨waiting, later ++ [c], ⟨waiting ++ press k :: later, by simp, hearlier⟩, hfirst, ?_⟩
        simp only [List.mem_append, List.mem_singleton, not_or]
        exact ⟨htake, fun h => hc' h.symm⟩

end Call

/-! ## Keypads after calls -/

/-- The keypad after some calls. -/
def after (p : Keypad) (calls : List Call) : Keypad := calls.foldl call p

/-- The last call comes after the others. -/
theorem after_concat (p : Keypad) (calls : List Call) (c : Call) :
    p.after (calls ++ [c]) = (p.after calls).call c := by
  rw [after, List.foldl_append]
  rfl

/-- Which keys are down after some calls. -/
theorem isDown_after (p : Keypad) (calls : List Call) (k : Key) :
    (p.after calls).isDown k = calls.foldl (Call.leavesDown k) (p.isDown k) := by
  induction calls generalizing p with
  | nil => rfl
  | cons c calls ih =>
    rw [List.foldl_cons, ← isDown_call]
    exact ih (p.call c)

/-- Some key is down if any is. -/
theorem anyDown_iff (p : Keypad) : p.anyDown ↔ ∃ k, p.isDown k := by
  simp [anyDown, Key.all]

/-- A key is taken if it was delivered. -/
theorem take_fst_eq_some_iff (p : Keypad) (k : Key) :
    p.take.1 = some k ↔ p.slot = .delivered k := by
  unfold take
  split
  next l h => simp [h]
  next h => simpa using h k

/-- Nothing is taken, and nothing changes, if no key was delivered. -/
theorem take_eq_none_iff (p : Keypad) :
    p.take = (none, p) ↔ ∀ k, p.slot ≠ .delivered k := by
  constructor
  · intro h k hk
    rw [take_of_delivered hk] at h
    simp at h
  · exact take_of_not_delivered

/-- The slot after one more call awaits a key if the call arms it, or if it did before and the call
presses none. -/
theorem slot_call_eq_awaiting_iff (p : Keypad) (c : Call) :
    (p.call c).slot = .awaiting ↔ c = .await ∨ (∀ l, c ≠ .press l) ∧ p.slot = .awaiting := by
  cases c with
  | press l =>
    by_cases h : p.slot = .awaiting <;> simp [call, press, isAwaiting, h]
  | release l | releaseAll | await => simp [call, release, releaseAll, await]
  | take =>
    by_cases h : ∃ k, p.slot = .delivered k
    · obtain ⟨k, hk⟩ := h
      simp [call, take_of_delivered hk, hk]
    · simp [call, take_of_not_delivered (not_exists.1 h)]

/-- The slot after one more call holds a key if it awaited one and the call presses that, or if it
held the key before and the call neither takes it nor arms the slot. -/
theorem slot_call_eq_delivered_iff (p : Keypad) (c : Call) (k : Key) :
    (p.call c).slot = .delivered k ↔
      c = .press k ∧ p.slot = .awaiting ∨ c ≠ .await ∧ c ≠ .take ∧ p.slot = .delivered k := by
  cases c with
  | press l =>
    by_cases h : p.slot = .awaiting <;> simp [call, press, isAwaiting, h]
  | release l | releaseAll | await => simp [call, release, releaseAll, await]
  | take =>
    by_cases h : ∃ k, p.slot = .delivered k
    · obtain ⟨l, hl⟩ := h
      simp [call, take_of_delivered hl]
    · simp only [call, take_of_not_delivered (not_exists.1 h)]
      simpa using not_exists.1 h k

/-- The slot of a new keypad follows the history of its calls. -/
theorem slot_after (calls : List Call) :
    ((({} : Keypad).after calls).slot = .awaiting ↔ Call.Awaits calls) ∧
      ∀ k, (({} : Keypad).after calls).slot = .delivered k ↔ Call.Delivers calls k := by
  -- the induction is on the last call, since history is told from its end
  induction calls using List.reverseRecOn with
  | nil => simp [after, Call.Awaits, Call.Delivers, Call.not_sinceAwait_nil]
  | append_singleton calls c ih =>
    obtain ⟨hawaits, hdelivers⟩ := ih
    rw [after_concat, slot_call_eq_awaiting_iff, Call.awaits_concat, hawaits]
    refine ⟨Iff.rfl, fun k => ?_⟩
    rw [slot_call_eq_delivered_iff, Call.delivers_concat, hawaits, hdelivers]

/-! ## What a keypad answers -/

/-- Whatever was called on a new keypad, its answers are told by the history of its calls.

* A key is down if the last call that moves it presses it, and some key is down if any is.
* A key is taken if it is the first one that was pressed since the slot was armed for the last time,
  and nothing was taken since it was pressed. If there is no such key, nothing is taken, and nothing
  changes.
* The slot awaits a key if it was armed, and no key was pressed since.
* Releasing keys leaves the slot as it is, and taking a key or arming the slot moves no key. -/
theorem answers_of_history (calls : List Call) :
    let p := ({} : Keypad).after calls
    (∀ k, p.isDown k ↔ Call.LastPress calls k) ∧
    (p.anyDown ↔ ∃ k, p.isDown k) ∧
    (∀ k, p.take.1 = some k ↔ Call.Delivers calls k) ∧
    (p.take = (none, p) ↔ ∀ k, ¬ Call.Delivers calls k) ∧
    (p.isAwaiting ↔ Call.Awaits calls) ∧
    (∀ k, (p.release k).slot = p.slot) ∧ p.releaseAll.slot = p.slot ∧
    p.take.2.held = p.held ∧ p.await.held = p.held := by
  intro p
  obtain ⟨hawaits, hdelivers⟩ := slot_after calls
  refine ⟨?_, p.anyDown_iff, ?_, ?_, ?_, fun _ => rfl, rfl, ?_, rfl⟩
  · intro k
    have hnew : ({} : Keypad).isDown k = false := isDown_releaseAll {} k
    rw [isDown_after, hnew, Call.foldl_leavesDown_eq_true_iff]
  · intro k
    rw [take_fst_eq_some_iff, hdelivers]
  · rw [take_eq_none_iff]
    exact forall_congr' fun k => not_congr (hdelivers k)
  · rw [isAwaiting, beq_iff_eq, hawaits]
  · unfold take
    split <;> rfl

/-- Arming the slot again forgets the key that was delivered. -/
example :
    (({} : Keypad).after [.await, .press 9, .await, .press 11, .press 1]).take.1 = some 11 := by
  decide

end ChipEight.Keypad
