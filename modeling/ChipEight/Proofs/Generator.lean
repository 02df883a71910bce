/-
# Random bytes

A program draws a random byte by an instruction of the form `Cxnn`. Nothing else advances the source
of random bytes: no other instruction, no fault, no key wait, no frame, and no action of the host,
be it the loading of a program. So the bytes that are drawn over the whole life of a machine are the
low bytes of the words of its stream, one after the other, whatever becomes of the programs that
draw them (`Machine.words_drawn`).
-/
import ChipEight.Proofs.Footprint
import ChipEight.Proofs.Stall
import ChipEight.Proofs.Subroutine

namespace ChipEight

open Instruction Opcode

/-- Whether an instruction draws a random byte. -/
def Instruction.draws : Instruction → Bool
  | random _ _ => true
  | _ => false

/-- Whether an instruction that draws a random byte was executed. -/
def Reaction.draws (r : Reaction Flow) : Bool := r.executed?.any Instruction.draws

/-- Whether a random byte is drawn during a tick. -/
def Tick.draws (t : Tick) : Bool := t.executed?.any Instruction.draws

/-- The source of random bytes after a number of draws. -/
def Random.Generator.after (g : Random.Generator) (count : Nat) : Random.Generator :=
  { g with drawn := g.drawn + count }

namespace Machine

variable {m m' : Machine} {w : UInt16} {i : Instruction}

/-! ## Instructions that draw -/

/-- Words of the form `Cxnn` stand for instructions that draw. -/
theorem decode?_random (h : Row.Matches { first := 0xC } w) :
    decode? w = some (.random (x w) (nn w)) :=
  decode?_of_matches h ⟨rfl, rfl⟩ nofun

/-- An instruction that draws has its register and its mask from its word. -/
theorem eq_random_of_draws (hd : decode? w = some i) (h : i.draws) : i = .random (x w) (nn w) := by
  have hops := operands_of_decode? hd
  cases i with
  | random =>
    obtain ⟨rfl, rfl⟩ := hops
    rfl
  | _ => cases h

/-- An instruction that is executed draws a byte or leaves the source alone. -/
theorem generator_of_effect {address : Nat} {e : Effect} (hd : decode? w = some i)
    (h : m.effect address i = .ok e) :
    e.machine.generator = if i.draws then m.generator.next.2 else m.generator := by
  split
  case isTrue hdraws =>
    obtain rfl := eq_random_of_draws hd hdraws
    cases h
    rfl
  case isFalse hdraws =>
    -- the footprint of all other words leaves the source out
    by_contra hne
    cases (footprint_of_effect hd h).generator hne with
    | draw hrow =>
      rw [decode?_random hrow] at hd
      cases hd
      exact hdraws rfl

/-! ## Steps that draw -/

/-- Whether a fetched instruction draws can be told from the word at the program counter. -/
theorem draws_fetchExecute_iff :
    m.fetchExecute.draws ↔
      m.pc + 2 ≤ memorySize ∧ Row.Matches { first := 0xC } (m.memory.word m.pc) := by
  constructor
  · intro h
    cases m.fetched with
    | outside hpc hr | unknown hpc hd hr | refused i failure hi hf hr =>
      rw [hr] at h
      cases h
    | executed i e hi he hr =>
      rw [hr] at h
      obtain rfl := eq_random_of_draws hi.2 h
      exact ⟨hi.1, matches_of_decode? hi.2⟩
  · rintro ⟨hpc, hrow⟩
    rw [fetchExecute_of_ok ⟨hpc, decode?_random hrow⟩ rfl]
    rfl

/-- Fetching, decoding and executing draw a byte or leave the source alone. -/
theorem generator_fetchExecute (m : Machine) :
    m.fetchExecute.machine.generator =
      if m.fetchExecute.draws then m.generator.next.2 else m.generator := by
  cases m.fetched with
  | outside hpc hr | unknown hpc hd hr | refused i failure hi hf hr =>
    rw [hr]
    rfl
  | executed i e hi he hr =>
    rw [hr]
    exact generator_of_effect (m := m.advanced) hi.2 he

/-- A byte that is drawn goes to its register, under its mask. -/
theorem reg_fetchExecute (h : m.fetchExecute.draws) :
    m.fetchExecute.machine.reg (x (m.memory.word m.pc)) =
      m.generator.next.1 &&& nn (m.memory.word m.pc) := by
  obtain ⟨hpc, hrow⟩ := draws_fetchExecute_iff.1 h
  rw [fetchExecute_of_ok ⟨hpc, decode?_random hrow⟩ rfl]
  exact Registers.get_set_self _ _ _

/-- Steps of machines that are not halted and do not stall draw if the word at their program counter
says so. -/
theorem draws_step_iff :
    m.step.draws ↔ m.fault = none ∧ ¬ m.Stalls ∧ m.pc + 2 ≤ memorySize ∧
      Row.Matches { first := 0xC } (m.memory.word m.pc) := by
  cases m.stepped with
  | halted fault hf hr =>
    rw [hr, hf]
    exact ⟨nofun, nofun⟩
  | waiting register hf hk hs hr =>
    have hstalls : m.Stalls := ⟨hf, Option.isSome_iff_exists.2 ⟨register, hk⟩, hs⟩
    rw [hr]
    exact ⟨nofun, fun h => absurd hstalls h.2.1⟩
  | resumed register key hf hk hs hr =>
    have hstalls : ¬ m.Stalls := fun h => h.slot key hs
    rw [hr, Reaction.draws, Reaction.executed?_resumption]
    show (m.resume register key).fetchExecute.draws ↔ _
    rw [draws_fetchExecute_iff]
    exact ⟨fun h => ⟨hf, hstalls, h⟩, fun h => h.2.2⟩
  | running hf hk hr =>
    have hstalls : ¬ m.Stalls := by
      intro h
      have hpaused := h.paused
      rw [isPaused, hk] at hpaused
      cases hpaused
    rw [hr, draws_fetchExecute_iff]
    exact ⟨fun h => ⟨hf, hstalls, h⟩, fun h => h.2.2⟩

/-- A step draws a byte or leaves the source alone. -/
theorem generator_step (m : Machine) :
    m.step.machine.generator = if m.step.draws then m.generator.next.2 else m.generator := by
  cases m.stepped with
  | halted fault hf hr | waiting register hf hk hs hr =>
    rw [hr]
    rfl
  | resumed register key hf hk hs hr =>
    rw [hr, Reaction.draws, Reaction.executed?_resumption]
    exact generator_fetchExecute (m.resume register key)
  | running hf hk hr =>
    rw [hr]
    exact generator_fetchExecute m

/-- A byte that a step draws goes to its register, under its mask. -/
theorem reg_step (h : m.step.draws) :
    m.step.machine.reg (x (m.memory.word m.pc)) =
      m.generator.next.1 &&& nn (m.memory.word m.pc) := by
  cases m.stepped with
  | halted fault hf hr | waiting register hf hk hs hr =>
    rw [hr] at h
    cases h
  | resumed register key hf hk hs hr =>
    rw [hr, Reaction.draws, Reaction.executed?_resumption] at h
    rw [hr]
    exact reg_fetchExecute (m := m.resume register key) h
  | running hf hk hr =>
    rw [hr] at h ⊢
    exact reg_fetchExecute h

/-! ## Ticks that draw -/

/-- An action that does not run the machine leaves the source alone. -/
theorem generator_of_not_runs {a : Action} (ha : ¬ a.runs) :
    (m.perform a).machine.generator = m.generator := by
  by_cases hreplaces : a.replaces
  · cases a with
    | load program => exact m.generator_load program
    | _ => cases hreplaces
  · obtain ⟨memory, screen, keypad, hm⟩ := perform_frame (m := m) hreplaces ha
    rw [hm]

/-- Every tick of a run draws a byte or leaves the source alone. -/
theorem generator_of_mem_ticks (m : Machine) (actions : List Action) :
    ∀ t ∈ m.ticks actions,
      t.after.generator = t.before.generator.after (if t.draws then 1 else 0) := by
  refine forall_mem_ticks (Q := fun _ => True) ?_ fun _ _ => trivial
  intro m a _ t ht
  rcases mem_actionTicks ht with ⟨m', rfl⟩ | ⟨m', rfl⟩ | ⟨rfl, hruns⟩
  · show m'.step.machine.generator = m'.generator.after (if m'.step.draws then 1 else 0)
    rw [generator_step]
    split <;> rfl
  · exact m'.generator_endFrame
  · exact generator_of_not_runs hruns

/-- The source counts the draws of any number of ticks. -/
theorem Ticks.generator {ticks : List Tick} {events : List Event} (h : Ticks m ticks events m')
    (hdraws : ∀ t ∈ ticks,
      t.after.generator = t.before.generator.after (if t.draws then 1 else 0)) :
    m'.generator = m.generator.after (ticks.countP Tick.draws) := by
  induction h with
  | refl m => rfl
  | head t h ih =>
    have hfirst := hdraws t List.mem_cons_self
    have hrest := ih fun u hu => hdraws u (List.mem_cons_of_mem t hu)
    rw [hrest, hfirst, List.countP_cons, Nat.add_comm]
    simp only [Random.Generator.after, Nat.add_assoc]

/-- Only a step draws, and only if the machine runs and its word says so. -/
theorem draws_tick_iff {t : Tick} :
    t.draws ↔ ∃ m', t = .step m' ∧ m'.fault = none ∧ ¬ m'.Stalls ∧ m'.pc + 2 ≤ memorySize ∧
      Row.Matches { first := 0xC } (m'.memory.word m'.pc) := by
  cases t with
  | step m =>
    constructor
    · exact fun h => ⟨m, rfl, draws_step_iff.1 h⟩
    · rintro ⟨m', ht, h⟩
      cases ht
      exact draws_step_iff.2 h
  | _ =>
    constructor
    · nofun
    · rintro ⟨m', ht, -⟩
      cases ht

/-- A byte that is drawn goes to its register, under its mask. -/
theorem reg_tick {t : Tick} (h : t.draws) :
    t.after.reg (x (t.before.memory.word t.before.pc)) =
      t.before.generator.next.1 &&& nn (t.before.memory.word t.before.pc) := by
  cases t with
  | step m => exact reg_step h
  | _ => cases h

/-! ## The words of a life -/

/-- A machine draws, over its whole life, the words of its stream one after the other, whatever
stream that is; if its parameters name a seed, it is the stream of that seed. Whenever a tick of a
run draws, it sets the register of its word to the low byte of the word of the stream that has the
number of draws before, under the mask of its word, and the source moves on by one; all other ticks
leave the source alone. A tick draws exactly if it is a step of a machine that is neither halted nor
waiting for a key, and the word at its program counter has the form `Cxnn`. -/
theorem words_drawn (config : Config) (stream : Nat → UInt32) (actions : List Action) :
    (∀ seed, config.seed = some seed → ∀ system m, switchOn system config = .ok m →
      m = new config { stream := Random.word (Random.expandSeed seed) }) ∧
    let m := new config { stream }
    Ticks m (m.ticks actions) (m.trace actions) (m.after actions) ∧
    (∀ first t, first ++ [t] <+: m.ticks actions →
      let k := first.countP Tick.draws
      let w := t.before.memory.word t.before.pc
      (t.draws ↔ ∃ m', t = .step m' ∧ m'.fault = none ∧ ¬ m'.Stalls ∧ m'.pc + 2 ≤ memorySize ∧
        Row.Matches { first := 0xC } (m'.memory.word m'.pc)) ∧
      t.before.generator = { stream, drawn := k } ∧
      (t.draws →
        t.after.reg (x w) = (stream k).toUInt8 &&& nn w ∧
        t.after.generator = { stream, drawn := k + 1 }) ∧
      (¬ t.draws → t.after.generator = { stream, drawn := k })) ∧
    (m.after actions).generator = { stream, drawn := (m.ticks actions).countP Tick.draws } := by
  refine ⟨fun seed hseed system m hm => eq_new_of_switchOn hseed hm, ?_⟩
  intro m
  have hticks : Ticks m (m.ticks actions) (m.trace actions) (m.after actions) :=
    m.ticks_after actions
  have hdraws := m.generator_of_mem_ticks actions
  have hnew : m.generator = { stream } := rfl
  -- the number of draws before any tick fixes the source
  have hcount : ∀ ticks : List Tick, m.generator.after (ticks.countP Tick.draws) =
      { stream, drawn := ticks.countP Tick.draws } := by
    intro ticks
    rw [hnew, Random.Generator.after, Nat.zero_add]
  refine ⟨hticks, ?_, (hticks.generator hdraws).trans (hcount _)⟩
  intro first t hseen k w
  obtain ⟨events, hfirst⟩ := hticks.upToBefore hseen
  have hbefore : t.before.generator = { stream, drawn := k } := by
    have hsub : ∀ u ∈ first, u ∈ m.ticks actions := fun u hu =>
      hseen.subset (List.mem_append_left [t] hu)
    exact (hfirst.generator fun u hu => hdraws u (hsub u hu)).trans (hcount first)
  have hafter := hdraws t (hseen.subset (List.mem_append_right first List.mem_cons_self))
  rw [hbefore] at hafter
  refine ⟨draws_tick_iff, hbefore, ?_, ?_⟩
  · intro h
    have hreg := reg_tick h
    rw [hbefore] at hreg
    rw [if_pos h] at hafter
    exact ⟨hreg, hafter⟩
  · intro h
    rw [if_neg h] at hafter
    exact hafter

/-- A program draws a byte under the mask 0, waits for a key, and draws another byte. It is loaded
twice, before and after a program that is too large. So when the key is pressed at last, the two
draws under the mask 0 have taken the words 0 and 1 of the stream of the seed, and the other one
takes the word 2. -/
theorem words_drawn_reloaded :
    let config : Config := { seed := some 7 }
    let stream := Random.word (Random.expandSeed 7)
    let system : System :=
      { files := fun _ => .error .notFound, entropy := .replicate 8 0, grants := fun _ => true }
    let program := Action.load [0xC0, 0x00, 0xF2, 0x0A, 0xC1, 0xFF]
    let before := [program, .runSteps 9, .cycle, .load (List.replicate 3585 0), program, .step,
      .cycle, .pressKey 3]
    ∃ first, switchOn system config = .ok first ∧ first = new config { stream } ∧
      let m := first.after before
      (first.ticks before).countP Tick.draws = 2 ∧ m.step.draws ∧
        m.step.machine.reg 1 = (stream 2).toUInt8 &&& 0xFF ∧
        m.step.machine.generator = { stream, drawn := 3 } := by
  intro config stream system program before
  have hcount : ((new config { stream }).ticks before).countP Tick.draws = 2 := by decide +kernel
  have hdraws : ((new config { stream }).after before).step.draws = true := by decide +kernel
  have hw : ((new config { stream }).after before).memory.word
      ((new config { stream }).after before).pc = 0xC1FF := by
    decide +kernel
  have hseen : (new config { stream }).ticks before ++
      [.step ((new config { stream }).after before)] <+:
        (new config { stream }).ticks (before ++ [.step]) := by
    rw [ticks_append]
    exact List.prefix_rfl
  have hswitch : switchOn system config = .ok (new config (.ofSeed 7)) := rfl
  obtain ⟨hseeded, -, hticks, -⟩ := words_drawn config stream (before ++ [.step])
  obtain ⟨-, -, hdrawn, -⟩ := hticks _ _ hseen
  obtain ⟨hreg, hgenerator⟩ := hdrawn hdraws
  rw [hcount] at hreg hgenerator
  refine ⟨_, hswitch, hseeded 7 rfl system _ hswitch, hcount, hdraws, ?_, hgenerator⟩
  simp only [Tick.before, Tick.after, hw] at hreg
  exact hreg

end Machine

end ChipEight
