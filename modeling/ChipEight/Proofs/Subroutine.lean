/-
# Subroutines

A call puts the address behind it on the call stack and a return takes the newest address off; no
other instruction, no fault, no frame and no action of the host but the loading of a program touches
the stack. So calls and returns nest like brackets: the stack at a call lies unchanged below all
that a subroutine puts on it, until the return that brings its depth back
(`Machine.subroutines_nest`).
-/
import ChipEight.Proofs.Tick

namespace ChipEight

/-! ## The instruction of a tick -/

/-- The instruction that an event traces. -/
def Event.traced? : Event → Option Instruction
  | executing _ _ i => some i
  | _ => none

/-- The instruction that a step executed. A step that fails did not execute the instruction that it
traced. -/
def Reaction.executed? (r : Reaction Flow) : Option Instruction :=
  match r.result with
  | .error _ => none
  | .ok _ => r.events.findSome? Event.traced?

/-- The end of a key wait executes nothing by itself. -/
theorem Reaction.executed?_resumption (register : UInt8) (key : Key) (r : Reaction Flow) :
    (r.behind (Machine.resumption register key)).executed? = r.executed? := by
  unfold Reaction.executed? Reaction.behind
  rfl

namespace Tick

/-- The instruction that was executed during a tick. -/
def executed? : Tick → Option Instruction
  | step m => m.step.executed?
  | _ => none

/-- Whether a subroutine is called. -/
def calls (t : Tick) : Bool :=
  match t.executed? with
  | some (.call _) => true
  | _ => false

/-- Whether a subroutine returns. -/
def returns (t : Tick) : Bool := t.executed? == some .ret

end Tick

namespace Machine

variable {m : Machine} {i : Instruction}

/-- What is fetched, decoded and executed is the instruction at the program counter. -/
theorem aboutTo_of_fetchExecute (h : m.fetchExecute.executed? = some i) : m.AboutTo i := by
  cases m.fetched with
  | outside hpc hr | unknown hpc hd hr | refused j failure hj hf hr =>
    rw [hr] at h
    cases h
  | executed j e hj he hr =>
    rw [hr] at h
    cases h
    exact hj

/-- A step executes the instruction at the program counter. -/
theorem aboutTo_of_step (h : m.step.executed? = some i) : m.AboutTo i := by
  cases m.stepped with
  | halted fault hf hr | waiting register hf hk hs hr =>
    rw [hr] at h
    cases h
  | resumed register key hf hk hs hr =>
    rw [hr, Reaction.executed?_resumption] at h
    exact aboutTo_of_fetchExecute (m := m.resume register key) h
  | running hf hk hr =>
    rw [hr] at h
    exact aboutTo_of_fetchExecute h

/-- A tick executes the instruction at the program counter. -/
theorem aboutTo_of_executed? {t : Tick} (h : t.executed? = some i) : t.before.AboutTo i := by
  cases t with
  | step m => exact aboutTo_of_step h
  | _ => cases h

end Machine

/-! ## What a tick does to the call stack -/

/-- What the execution of an instruction, if there is one, does to the call stack: a call puts the
address behind it on top, a return goes on at the address on top and takes it off, and nothing else
changes it. -/
def Machine.Nests (m : Machine) (executed : Option Instruction) (m' : Machine) : Prop :=
  match executed with
  | some (.call _) => m'.stack = (m.pc + 2) :: m.stack
  | some .ret => m.stack = m'.pc :: m'.stack
  | _ => m'.stack = m.stack

/-- A tick keeps to the discipline of the call stack. -/
def Tick.Nests (t : Tick) : Prop := t.before.Nests t.executed? t.after

namespace Machine

variable {m m' : Machine}

/-- An instruction that is executed keeps to the discipline of the call stack. -/
theorem nests_of_effect {i : Instruction} {e : Effect}
    (h : m.advanced.effect m.pc i = .ok e) : m.Nests (some i) e.machine := by
  have hs := steered_of_effect h
  have hstack := hs.stack
  cases i with
  | ret =>
    cases hm : m.stack with
    | nil =>
      -- a return with an empty stack is refused
      have hempty : m.advanced.stack = [] := hm
      rw [effect_of_refuses (.underflow hempty)] at h
      cases h
    | cons top rest =>
      have hpc : e.machine.pc = top := by
        rw [hs.pc]
        show m.stack.headD (m.pc + 2) = top
        rw [hm]
        rfl
      have hrest : e.machine.stack = rest := by
        rw [hstack]
        show m.stack.tail = rest
        rw [hm]
        rfl
      show m.stack = e.machine.pc :: e.machine.stack
      rw [hm, hpc, hrest]
  | _ => exact hstack

/-- Fetching, decoding and executing keep to the discipline of the call stack. -/
theorem nests_fetchExecute (m : Machine) :
    m.Nests m.fetchExecute.executed? m.fetchExecute.machine := by
  cases m.fetched with
  | outside hpc hr | unknown hpc hd hr | refused i failure hi hf hr =>
    rw [hr]
    rfl
  | executed i e hi he hr =>
    rw [hr]
    exact nests_of_effect he

/-- A step keeps to the discipline of the call stack. -/
theorem nests_step (m : Machine) : m.Nests m.step.executed? m.step.machine := by
  cases m.stepped with
  | halted fault hf hr =>
    rw [hr]
    rfl
  | waiting register hf hk hs hr =>
    rw [hr]
    rfl
  | resumed register key hf hk hs hr =>
    rw [hr, Reaction.executed?_resumption]
    exact (m.resume register key).nests_fetchExecute
  | running hf hk hr =>
    rw [hr]
    exact m.nests_fetchExecute

/-- The end of a frame leaves the call stack alone. -/
theorem stack_endFrame (m : Machine) : m.endFrame.1.stack = m.stack := by
  unfold endFrame
  cases m.isPaused <;> rfl

/-- While no program is loaded, every tick of a run keeps to the discipline of the call stack. -/
theorem nests_of_mem_ticks {actions : List Action} (hkeep : ∀ a ∈ actions, ¬ a.replaces) :
    ∀ t ∈ m.ticks actions, t.Nests := by
  refine forall_mem_ticks (Q := fun a => ¬ a.replaces) ?_ hkeep
  intro m a ha t ht
  rcases mem_actionTicks ht with ⟨m', rfl⟩ | ⟨m', rfl⟩ | ⟨rfl, hruns⟩
  · exact m'.nests_step
  · exact m'.stack_endFrame
  · obtain ⟨memory, screen, keypad, hm⟩ := perform_frame (m := m) ha hruns
    show (m.perform a).machine.stack = m.stack
    rw [hm]

end Machine

/-! ## Depth and nesting -/

namespace Tick

variable {t : Tick}

/-- A tick calls a subroutine, returns from one, or leaves the call stack alone. -/
theorem Nests.cases (h : t.Nests) :
    (t.calls ∧ ¬ t.returns ∧ t.after.stack = (t.before.pc + 2) :: t.before.stack) ∨
    (¬ t.calls ∧ t.returns ∧ t.before.stack = t.after.pc :: t.after.stack) ∨
    (¬ t.calls ∧ ¬ t.returns ∧ t.after.stack = t.before.stack) := by
  unfold Nests Machine.Nests at h
  unfold calls returns
  cases hexecuted : t.executed? with
  | none =>
    rw [hexecuted] at h
    exact Or.inr (Or.inr ⟨Bool.false_ne_true, Bool.false_ne_true, h⟩)
  | some i =>
    rw [hexecuted] at h
    cases i with
    | call target => exact Or.inl ⟨rfl, Bool.false_ne_true, h⟩
    | ret => exact Or.inr (Or.inl ⟨Bool.false_ne_true, rfl, h⟩)
    | _ => exact Or.inr (Or.inr ⟨Bool.false_ne_true, Bool.false_ne_true, h⟩)

/-- A call leaves the address behind it on top of the stack before it. -/
theorem Nests.suffix_of_calls (h : t.Nests) (hcalls : t.calls) :
    (t.before.pc + 2) :: t.before.stack <:+ t.after.stack := by
  rcases h.cases with ⟨-, -, hs⟩ | ⟨hnever, -, -⟩ | ⟨hnever, -, -⟩
  · exact hs ▸ List.suffix_rfl
  · exact absurd hcalls hnever
  · exact absurd hcalls hnever

/-- The depth of the call stack counts calls up and returns down. -/
theorem Nests.depth (h : t.Nests) :
    t.after.stack.length + (if t.returns then 1 else 0) =
      t.before.stack.length + if t.calls then 1 else 0 := by
  rcases h.cases with ⟨hcalls, hreturns, hs⟩ | ⟨hcalls, hreturns, hs⟩ | ⟨hcalls, hreturns, hs⟩
  all_goals simp [hcalls, hreturns, hs]

/-- What lies on the call stack below a return address stays there, unless the tick returns to that
address. -/
theorem Nests.suffix (h : t.Nests) {address : Nat} {s : List Nat}
    (hs : address :: s <:+ t.before.stack) :
    address :: s <:+ t.after.stack ∨
      t.returns ∧ t.after.pc = address ∧ t.after.stack = s := by
  rcases h.cases with ⟨-, -, hstack⟩ | ⟨-, hreturns, hstack⟩ | ⟨-, -, hstack⟩
  · rw [hstack]
    exact Or.inl (hs.trans (List.suffix_cons _ _))
  · rw [hstack, List.suffix_cons_iff, List.cons.injEq] at hs
    rcases hs with ⟨rfl, rfl⟩ | hs
    · exact Or.inr ⟨hreturns, rfl, rfl⟩
    · exact Or.inl hs
  · rw [hstack]
    exact Or.inl hs

end Tick

namespace Machine

variable {m m' : Machine} {ticks : List Tick} {events : List Event}

/-- The depth of the call stack counts calls up and returns down, over any number of ticks. -/
theorem Ticks.depth (h : Ticks m ticks events m') (hnests : ∀ t ∈ ticks, t.Nests) :
    m'.stack.length + ticks.countP Tick.returns = m.stack.length + ticks.countP Tick.calls := by
  induction h with
  | refl m => rfl
  | head t h ih =>
    have hfirst := (hnests t List.mem_cons_self).depth
    have hrest := ih fun u hu => hnests u (List.mem_cons_of_mem t hu)
    rw [List.countP_cons, List.countP_cons]
    omega

/-- A return address and what lies below it stay on the call stack, as long as the depth does not
fall to what it was below. -/
theorem Ticks.suffix (h : Ticks m ticks events m') (hnests : ∀ t ∈ ticks, t.Nests) {address : Nat}
    {s : List Nat} (hm : address :: s <:+ m.stack)
    (hopen : ∀ t ∈ ticks, t.after.stack.length ≠ s.length) :
    address :: s <:+ m'.stack ∧ ∀ t ∈ ticks, address :: s <:+ t.after.stack := by
  -- a return to the address would bring the depth down to that of what lies below it
  refine h.preserves (P := fun m => address :: s <:+ m.stack) ?_ hm
  intro t ht hs
  rcases (hnests t ht).suffix hs with hs | ⟨-, -, hs⟩
  · exact hs
  · exact absurd (congrArg List.length hs) (hopen t ht)

/-- While the depth has not come back to what it was before a call, the address behind the call and
the stack before it lie at the bottom of the call stack. -/
theorem Ticks.below_call (h : Ticks m ticks events m') (hnests : ∀ t ∈ ticks, t.Nests)
    {first inner : List Tick} {call : Tick} (hseen : first ++ call :: inner <+: ticks)
    (hcalls : call.calls)
    (hopen : ∀ t ∈ inner, t.after.stack.length ≠ call.before.stack.length) :
    ∀ t ∈ call :: inner, (call.before.pc + 2) :: call.before.stack <:+ t.after.stack := by
  have hlater : ∀ t ∈ call :: inner, t.Nests := fun t ht =>
    hnests t (hseen.subset (List.mem_append_right first ht))
  obtain ⟨hcall, hinner⟩ := List.forall_mem_cons.1 hlater
  have hstart := hcall.suffix_of_calls hcalls
  obtain ⟨_, _, hticks⟩ := h.goesOn hseen
  exact List.forall_mem_cons.2 ⟨hstart, (hticks.suffix hinner hstart hopen).2⟩

/-- The tick that brings the depth back to what it was before a call is a return. It goes on behind
the call and leaves the stack as it was before the call. -/
theorem Ticks.returns_to_call (h : Ticks m ticks events m') (hnests : ∀ t ∈ ticks, t.Nests)
    {first inner : List Tick} {call last : Tick}
    (hseen : first ++ call :: (inner ++ [last]) <+: ticks) (hcalls : call.calls)
    (hopen : ∀ t ∈ inner, t.after.stack.length ≠ call.before.stack.length)
    (hdepth : last.after.stack.length = call.before.stack.length) :
    last.returns ∧ last.after.pc = call.before.pc + 2 ∧ last.after.stack = call.before.stack := by
  have hlater : ∀ t ∈ call :: (inner ++ [last]), t.Nests := fun t ht =>
    hnests t (hseen.subset (List.mem_append_right first ht))
  rw [List.forall_mem_cons, List.forall_mem_append, List.forall_mem_singleton] at hlater
  obtain ⟨hcall, hinner, hlast⟩ := hlater
  obtain ⟨_, _, hticks⟩ := h.goesOn hseen
  obtain ⟨m₁, _, _, hbefore, hback⟩ := hticks.split
  have hbelow := (hbefore.suffix hinner (hcall.suffix_of_calls hcalls) hopen).1
  -- the ticks in between end where the last one begins
  cases hback with
  | head _ _ =>
    rcases hlast.suffix hbelow with hdeeper | hreturn
    · have hle := hdeeper.length_le
      rw [List.length_cons, hdepth] at hle
      exact absurd hle (Nat.not_succ_le_self _)
    · exact hreturn

/-! ## Calls and returns nest -/

/-- Calls and returns nest during any run that loads no program, at every tick of it.

* The ticks are those of the run: they make up its trace and lead to the machine after it. A tick
  that executes an instruction, such as a call, executes the one at its program counter.
* The depth of the call stack is that at the start, plus the calls and minus the returns since then,
  and stays within the parameters.
* While the depth has not come back to what it was before a call, the stack before the call lies
  under the address behind the call, and both at the bottom of the stack.
* The tick that brings the depth back is a return. It goes on behind the call and leaves the stack
  as it was before the call. -/
theorem subroutines_nest (config : Config) (generator : Random.Generator) (before : List Action)
    {actions : List Action} (hkeep : ∀ a ∈ actions, ¬ a.replaces) :
    let m := (new config generator).after before
    Ticks m (m.ticks actions) (m.trace actions) (m.after actions) ∧
    (∀ t ∈ m.ticks actions, ∀ i, t.executed? = some i → t.before.AboutTo i) ∧
    (∀ first t, first ++ [t] <+: m.ticks actions →
      t.after.stack.length + (first ++ [t]).countP Tick.returns =
        m.stack.length + (first ++ [t]).countP Tick.calls ∧
      t.after.stack.length ≤ config.stackSize) ∧
    ∀ first call inner, first ++ call :: inner <+: m.ticks actions → call.calls →
      (∀ t ∈ inner, t.after.stack.length ≠ call.before.stack.length) →
      (∀ t ∈ call :: inner, (call.before.pc + 2) :: call.before.stack <:+ t.after.stack) ∧
      ∀ last, first ++ call :: (inner ++ [last]) <+: m.ticks actions →
        last.after.stack.length = call.before.stack.length →
        last.returns ∧ last.after.pc = call.before.pc + 2 ∧
          last.after.stack = call.before.stack := by
  intro m
  have hrun := m.ticks_after actions
  have hnests : ∀ t ∈ m.ticks actions, t.Nests := nests_of_mem_ticks hkeep
  have hsound := hrun.preserves (P := fun m => m.Sound config) (fun _ _ h => h.tick)
    (sound_after config generator before)
  refine ⟨hrun, fun t _ i h => aboutTo_of_executed? h, ?_, ?_⟩
  · intro first t hseen
    obtain ⟨events, hfirst⟩ := hrun.upTo hseen
    have hmem : t ∈ m.ticks actions :=
      hseen.subset (List.mem_append_right first (List.mem_singleton_self t))
    exact ⟨hfirst.depth fun u hu => hnests u (hseen.subset hu), (hsound.2 t hmem).stack_length⟩
  · intro first call inner hseen hcalls hopen
    refine ⟨hrun.below_call hnests hseen hcalls hopen, ?_⟩
    intro last hback hdepth
    exact hrun.returns_to_call hnests hback hcalls hopen hdepth

/-- A subroutine calls another one, which waits for a key. Meanwhile a frame ends and the key is
pressed, with the stack as deep as it may be. Then both return. -/
theorem subroutines_nest_keyWait :
    let config : Config := { speed := 3, stackSize := 2 }
    let before := [Action.load
      [0x22, 0x06, 0xF0, 0x0A, 0x12, 0x04, 0x22, 0x0A, 0x00, 0xEE, 0xF1, 0x0A, 0x00, 0xEE]]
    let actions := [Action.cycle, .pressKey 7, .runSteps 2]
    (∀ a ∈ actions, ¬ a.replaces) ∧
    ∃ call inner last,
      ((new config (.ofSeed 0)).after before).ticks actions = call :: (inner ++ [last]) ∧
      (call.calls ∧ call.before.pc = 0x200 ∧ call.before.stack = []) ∧
      inner.map (fun t => t.after.stack.length) = [2, 2, 2, 2, 1] ∧
      last.after.stack.length = 0 ∧
      (∀ t ∈ call :: inner, [0x202] <:+ t.after.stack) ∧
      last.returns ∧ last.after.pc = 0x202 ∧ last.after.stack = [] := by
  intro config before actions
  have hkeep : ∀ a ∈ actions, ¬ a.replaces := by decide
  have hshape : (((new config (.ofSeed 0)).after before).ticks actions).map
      (fun t => (t.calls, t.before.pc, t.before.stack, t.after.stack.length)) =
      (true, 0x200, [], 1) ::
        ([(true, 0x206, [0x202], 2), (false, 0x20A, [0x208, 0x202], 2),
          (false, 0x20C, [0x208, 0x202], 2), (false, 0x20C, [0x208, 0x202], 2),
          (false, 0x20C, [0x208, 0x202], 1)] ++ [(false, 0x208, [0x202], 0)]) := by
    decide +kernel
  obtain ⟨call, rest, hticks, hcall, hrest⟩ := List.map_eq_cons_iff.1 hshape
  obtain ⟨inner, lasts, rfl, hinner, hlasts⟩ := List.map_eq_append_iff.1 hrest
  obtain ⟨last, rfl, hlast⟩ := List.map_eq_singleton_iff.1 hlasts
  simp only [Prod.mk.injEq] at hcall hlast
  obtain ⟨hcalls, hpc, hstack, -⟩ := hcall
  have hdepths : inner.map (fun t => t.after.stack.length) = [2, 2, 2, 2, 1] := by
    have hfourth := congrArg (List.map fun t => t.2.2.2) hinner
    rwa [List.map_map] at hfourth
  have hopen : ∀ t ∈ inner, t.after.stack.length ≠ call.before.stack.length := by
    have hpositive : ∀ depth ∈ inner.map (fun t => t.after.stack.length), depth ≠ 0 := by
      rw [hdepths]
      decide
    intro t ht
    rw [hstack]
    exact List.forall_mem_map.1 hpositive t ht
  have hback : last.after.stack.length = call.before.stack.length := by
    rw [hlast.2.2.2, hstack, List.length_nil]
  obtain ⟨-, -, -, hnest⟩ := subroutines_nest config (.ofSeed 0) before hkeep
  rw [hticks] at hnest
  obtain ⟨hbelow, hreturn⟩ :=
    hnest [] call inner (List.prefix_append (call :: inner) [last]) hcalls hopen
  obtain ⟨hreturns, hpc', hstack'⟩ := hreturn last List.prefix_rfl hback
  rw [hpc, hstack] at hbelow
  rw [hpc] at hpc'
  rw [hstack] at hstack'
  exact ⟨hkeep, call, inner, last, hticks, ⟨hcalls, hpc, hstack⟩, hdepths, hlast.2.2.2, hbelow,
    hreturns, hpc', hstack'⟩

end Machine

end ChipEight
