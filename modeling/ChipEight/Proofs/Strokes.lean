/-
# Keystrokes

What a session does to its machine can be told by the actions of a host. Of the typed characters
only those that have a key count: before frame `i` the key of the frame before it is released and
key `i` is pressed (`strokes`), and then the frame is run. So the machine of a session is the one
that the strokes and the frames so far lead to (`Setting.ready_before`), and a frame is run with
just its own key down (`Machine.isDown_atFrame`).
-/
import ChipEight.Proofs.Held
import ChipEight.Proofs.Setting

namespace ChipEight

namespace CommandLine

/-! ## The strokes of a list of keys -/

/-- The key that is let go before frame `i`: the one of the frame before it. -/
def released? (ks : List Key) : Nat → Option Key
  | 0 => none
  | i + 1 => ks[i]?

/-- What the host does to the keypad before frame `i`. -/
def strokes (ks : List Key) (i : Nat) : List Action :=
  (released? ks i).toList.map .releaseKey ++ ks[i]?.toList.map .pressKey

/-- What the host does up to the strokes before frame `i`. -/
def playing (ks : List Key) (i : Nat) : List Action :=
  (List.range i).flatMap fun j => strokes ks j ++ [.cycle]

/-- A frame comes after the strokes before it. -/
theorem playing_succ (ks : List Key) (i : Nat) :
    playing ks (i + 1) = playing ks i ++ (strokes ks i ++ [.cycle]) := by
  rw [playing, playing, List.range_succ, List.flatMap_append, List.flatMap_singleton]

end CommandLine

namespace Machine

open CommandLine

variable {m : Machine} {ks : List Key} {i : Nat}

/-! ## The machine at a frame -/

/-- The machine that runs frame `i`: the strokes before it are done. -/
def atFrame (m : Machine) (ks : List Key) (i : Nat) : Machine :=
  m.after (playing ks i ++ strokes ks i)

/-- The strokes come after the frames before. -/
theorem atFrame_eq (m : Machine) (ks : List Key) (i : Nat) :
    m.atFrame ks i = (m.after (playing ks i)).after (strokes ks i) := after_append m _ _

/-- One frame after the other is run. -/
theorem after_playing_succ (m : Machine) (ks : List Key) (i : Nat) :
    m.after (playing ks (i + 1)) = (m.atFrame ks i).cycle.machine := by
  rw [playing_succ, ← List.append_assoc, after_append]
  rfl

/-! ## Which keys are down -/

/-- Before a frame just its own key is down, if just the key of the frame before it was. -/
theorem isDown_strokes (h : ∀ k, m.keypad.isDown k = decide (released? ks i = some k)) (k : Key) :
    (m.after (strokes ks i)).keypad.isDown k = decide (ks[i]? = some k) := by
  rcases hheld : released? ks i with _ | old <;> rcases hnext : ks[i]? with _ | new
  · simp [strokes, hheld, hnext, after, h]
  · simp [strokes, hheld, hnext, after, perform, pressKey, Keypad.isDown_press, h]
  · simp [strokes, hheld, hnext, after, perform, releaseKey, Keypad.isDown_release, h]
  · simp [strokes, hheld, hnext, after, perform, releaseKey, pressKey, Keypad.isDown_press,
      Keypad.isDown_release, h]

/-- A frame is run with just its own key down. -/
theorem isDown_atFrame (h : ∀ k, m.keypad.isDown k = false) (ks : List Key) (i : Nat) (k : Key) :
    (m.atFrame ks i).keypad.isDown k = decide (ks[i]? = some k) := by
  rw [atFrame_eq]
  refine isDown_strokes ?_ k
  clear k
  -- a frame leaves the keypad as its strokes have set it up
  induction i with
  | zero => exact h
  | succ i ih =>
    intro k
    have hcycle := (m.atFrame ks i).isDown_perform .cycle k
    rw [after_playing_succ, released?, ← isDown_strokes ih k, ← atFrame_eq]
    exact hcycle

end Machine

namespace CommandLine

namespace Session

/-! ## The next key -/

/-- The next key is the first one that a character stands for. -/
theorem fst_nextKey (keymap : KeyMap) (typed : List Char) :
    (nextKey keymap typed).1 = (typed.filterMap keymap.find?).head? := by
  induction typed with
  | nil => rfl
  | cons c typed ih =>
    rw [nextKey, List.filterMap_cons]
    cases keymap.find? c with
    | none => exact ih
    | some key => rfl

/-- The characters that are left stand for the other keys. -/
theorem filterMap_rest_nextKey (keymap : KeyMap) (typed : List Char) :
    (nextKey keymap typed).2.2.filterMap keymap.find? =
      (typed.filterMap keymap.find?).tail := by
  induction typed with
  | nil => rfl
  | cons c typed ih =>
    rw [nextKey, List.filterMap_cons]
    cases keymap.find? c with
    | none => exact ih
    | some key => rfl

/-- Typing, in terms of the next key. -/
theorem typeNext_session (s : Session) :
    s.typeNext.session =
      { s with
        machine := s.machine.after
          (s.held.toList.map .releaseKey ++
            (nextKey s.keymap s.typed).1.toList.map .pressKey)
        typed := (nextKey s.keymap s.typed).2.2
        held := (nextKey s.keymap s.typed).1 } := by
  unfold typeNext
  rcases hnext : nextKey s.keymap s.typed with ⟨_ | key, skipped, rest⟩
  · cases s.held <;> rfl
  · cases s.held <;> rfl

/-- The key that is held is released, and then the next one is pressed. -/
theorem typeNext_calls (s : Session) :
    s.typeNext.calls =
      s.held.toList.map .release ++ (nextKey s.keymap s.typed).1.toList.map .press := by
  unfold typeNext
  rcases hnext : nextKey s.keymap s.typed with ⟨_ | key, skipped, rest⟩
  · cases s.held <;> rfl
  · cases s.held <;> rfl

/-- The calls of typing are made on the keypad of the machine, and the rest of it is left alone. -/
theorem ready_eq_calls (s : Session) :
    s.ready =
      { s.machine with keypad := s.typeNext.calls.foldl Keypad.call s.machine.keypad } := by
  unfold ready typeNext
  rcases hnext : nextKey s.keymap s.typed with ⟨_ | key, skipped, rest⟩
  · cases s.held <;> rfl
  · cases s.held <;> rfl

/-! ## Sessions in the course of time -/

/-- A session before frame `i`, if it was set up to type `ks` on the keypad of `m`. -/
structure Types (s : Session) (m : Machine) (keymap : KeyMap) (ks : List Key) (i : Nat) :
    Prop where
  /-- The key map never changes. -/
  keymap_eq : s.keymap = keymap
  /-- The keys of the frames so far are gone. -/
  typed_eq : s.typed.filterMap keymap.find? = ks.drop i
  /-- The key of the last frame is still held. -/
  held_eq : s.held = released? ks i
  /-- The strokes and the frames so far lead to the machine. -/
  machine_eq : s.machine = m.after (playing ks i)

variable {s : Session} {m : Machine} {keymap : KeyMap} {ks : List Key} {i : Nat}

/-- The next key is that of the frame. -/
theorem Types.fst_nextKey (h : s.Types m keymap ks i) :
    (nextKey s.keymap s.typed).1 = ks[i]? := by
  rw [Session.fst_nextKey, h.keymap_eq, h.typed_eq, List.head?_drop]

/-- Before a frame the key of the frame before it is released and its own one is pressed. -/
theorem Types.calls_eq (h : s.Types m keymap ks i) :
    s.typeNext.calls = (released? ks i).toList.map .release ++ ks[i]?.toList.map .press := by
  rw [typeNext_calls, h.held_eq, h.fst_nextKey]

/-- The machine that runs the frame is the one after the strokes. -/
theorem Types.ready_eq (h : s.Types m keymap ks i) :
    s.ready = s.machine.after (strokes ks i) := by
  rw [ready, typeNext_session, h.fst_nextKey, h.held_eq]
  rfl

/-- One frame after the other is typed. -/
theorem Types.frame (h : s.Types m keymap ks i) :
    s.frame.session.Types m keymap ks (i + 1) where
  keymap_eq := by
    rw [frame_session, played, (typeNext_frame s).2]
    exact h.keymap_eq
  typed_eq := by
    rw [frame_session, played, typeNext_session]
    show (nextKey s.keymap s.typed).2.2.filterMap keymap.find? = ks.drop (i + 1)
    rw [h.keymap_eq, filterMap_rest_nextKey, h.typed_eq, List.tail_drop]
  held_eq := by
    rw [frame_session, played, typeNext_session]
    exact h.fst_nextKey
  machine_eq := by
    rw [frame_session, Machine.after_playing_succ, Machine.atFrame_eq, ← h.machine_eq,
      ← h.ready_eq]
    rfl

end Session

namespace Setting

/-- The keys that a text stands for. -/
def keysOf (g : Setting) (text : String) : List Key := text.toList.filterMap g.keymap.find?

/-- A session begins with a machine that a program was loaded on. -/
theorem sound_machine (g : Setting) (entropy : Random.Key) :
    (g.machine entropy).Sound g.config :=
  (Machine.sound_new g.config (Machine.source g.config entropy)).load g.program

/-- What a session types in the course of time. -/
theorem types_before (g : Setting) (entropy : Random.Key) (text : String) (i : Nat) :
    ((g.session entropy text).before i).Types (g.machine entropy) g.keymap (g.keysOf text) i := by
  induction i with
  | zero => exact ⟨rfl, rfl, rfl, rfl⟩
  | succ i ih => exact ih.frame

/-- The machine that runs a frame of a session is the one that the strokes and the frames so far
lead to. -/
theorem ready_before (g : Setting) (entropy : Random.Key) (text : String) (i : Nat) :
    ((g.session entropy text).before i).ready =
      (g.machine entropy).atFrame (g.keysOf text) i := by
  have h := g.types_before entropy text i
  rw [h.ready_eq, h.machine_eq, Machine.atFrame_eq]

/-- The machine after some frames of a session. -/
theorem machine_before (g : Setting) (entropy : Random.Key) (text : String) (i : Nat) :
    ((g.session entropy text).before i).machine =
      (g.machine entropy).after (playing (g.keysOf text) i) :=
  (g.types_before entropy text i).machine_eq

end Setting

end CommandLine

end ChipEight
