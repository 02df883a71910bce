/-
# Listings restore programs

Loading a program fixes all of memory: the built-in font, the program, and zeros everywhere else
(`Machine.byte_load`). A listing shows the words of memory from the start of the program on, one in
each line (`Machine.lines_listing`). So the bytes of a program can be read back from its listing
(`Machine.listedBytes_load`), also from the one that a session logs (`Session.log_start`). The main
statement is `Machine.listing_restores_program`.
-/
import ChipEight.CommandLine.Documents
import ChipEight.Proofs.Hexadecimal
import ChipEight.Proofs.Lines
import ChipEight.Proofs.Setting
import Mathlib.Data.List.GetD

namespace ChipEight

open Text

/-! ## Bytes two by two -/

namespace Memory

/-- Two bytes make a pair. -/
theorem length_pairs : ∀ bytes : List UInt8, (pairs bytes).length = bytes.length / 2
  | [] | [_] => by simp [pairs]
  | high :: low :: rest => by
    rw [pairs, List.length_cons, List.length_cons, List.length_cons, length_pairs rest]
    omega

/-- A pair holds the bytes at twice its number and behind it. -/
theorem getElem?_pairs : ∀ {bytes : List UInt8} {k : Nat} (h : 2 * k + 1 < bytes.length),
    (pairs bytes)[k]? = some (bytes[2 * k], bytes[2 * k + 1])
  | [], k, h | [_], k, h => by simp at h
  | high :: low :: rest, 0, _ => rfl
  | high :: low :: rest, k + 1, h => by
    have hrest : 2 * k + 1 < rest.length := by
      simp only [List.length_cons] at h
      omega
    rw [pairs, List.getElem?_cons_succ, getElem?_pairs hrest]
    rfl

/-- The bytes of memory, two by two. -/
theorem getElem?_pairs_cells (m : Memory) {k : Nat} (h : k < memorySize / 2) :
    (pairs m.cells.toList)[k]? = some (m.byte (2 * k), m.byte (2 * k + 1)) := by
  have hlow : 2 * k < memorySize := by omega
  have hhigh : 2 * k + 1 < memorySize := by
    simp only [memorySize] at h ⊢
    omega
  rw [getElem?_pairs (by rwa [Vector.length_toList]), byte, byte, dif_pos hlow, dif_pos hhigh,
    Vector.getElem_toList, Vector.getElem_toList]

/-- A slice goes on where its first part ends. -/
theorem slice_add (m : Memory) (start len more : Nat) :
    m.slice start (len + more) = m.slice start len ++ m.slice (start + len) more := by
  rw [slice, slice, slice, List.range_add, List.map_append, List.map_map]
  congr 1
  apply List.map_congr_left
  intro k _
  rw [Function.comp_apply, Nat.add_assoc]

/-- Words, byte by byte. -/
theorem flatMap_words (m : Memory) (start n : Nat) :
    ((List.range n).flatMap fun k => [m.byte (start + 2 * k), m.byte (start + 2 * k + 1)]) =
      m.slice start (2 * n) := by
  induction n with
  | zero => rfl
  | succ n ih =>
    rw [List.range_succ, List.flatMap_append, ih, Nat.mul_succ, slice_add]
    rfl

end Memory

namespace Machine

variable {m : Machine} {program : List UInt8}

/-! ## Memory after loading -/

/-- Right after a program was loaded, memory holds the built-in font, the program, and zeros. -/
theorem byte_load (h : program.length ≤ maxProgramSize) (a : Nat) :
    (m.load program).machine.memory.byte a =
      if a < 80 then Font.builtin.getD a 0
      else if a < 512 then 0
      else program.getD (a - 512) 0 := by
  have hmemory : (m.load program).machine.memory =
      (Memory.empty.overwrite Font.start Font.builtin).overwrite programStart program := by
    rw [load, if_neg (Nat.not_lt_of_le h)]
    rfl
  have hfits : program.length ≤ 3584 := h
  have hfont : Font.start + Font.builtin.length = 80 := rfl
  rw [hmemory, Memory.byte_overwrite, Memory.byte_overwrite, Memory.byte_empty]
  split
  next hprogram =>
    have hin : 512 ≤ a ∧ a < 512 + program.length := ⟨hprogram.1, hprogram.2.1⟩
    rw [if_neg (by omega), if_neg (by omega)]
    exact (List.getD_eq_getElem program 0 (by omega)).symm
  next hprogram =>
    have hout : ¬ (512 ≤ a ∧ a < 512 + program.length ∧ a < 4096) := hprogram
    split
    next hglyph =>
      have hin : a < 80 := hfont ▸ hglyph.2.1
      rw [if_pos hin]
      exact (List.getD_eq_getElem Font.builtin 0 hin).symm
    next hglyph =>
      have hbeyond : ¬ a < 80 := fun hlow =>
        hglyph ⟨Nat.zero_le a, hfont.symm ▸ hlow, Nat.lt_trans hlow (by decide)⟩
      rw [if_neg hbeyond]
      split
      next => rfl
      next => exact (List.getD_eq_default program 0 (by omega)).symm

/-- The words of a program, and a zero if its last byte is the first one of a word. -/
theorem slice_load (h : program.length ≤ maxProgramSize) :
    (m.load program).machine.memory.slice programStart (program.length + program.length % 2) =
      program ++ List.replicate (program.length % 2) 0 := by
  apply List.ext_getElem
  · rw [Memory.length_slice, List.length_append, List.length_replicate]
  · intro k hk _
    rw [Memory.getElem_slice, byte_load h, if_neg (by simp only [programStart]; omega),
      if_neg (by simp only [programStart]; omega)]
    simp only [programStart, Nat.add_sub_cancel_left, List.getD_eq_getElem?_getD]
    by_cases hlast : k < program.length
    · rw [List.getElem_append_left hlast, List.getElem?_eq_getElem hlast, Option.getD_some]
    · rw [List.getElem_append_right (by omega), List.getElem_replicate,
        List.getElem?_eq_none (by omega), Option.getD_none]

/-! ## Lines of a listing -/

/-- A line of a listing without the line feed. -/
def wordLine (address : Nat) (word : UInt8 × UInt8) : List Char :=
  upperHexDigits 4 address ++ [':', ' '] ++
    (upperHexDigits 2 word.1.toNat ++ upperHexDigits 2 word.2.toNat)

/-- A line of a listing ends with a line feed. -/
theorem toList_listingLine (address : Nat) (word : UInt8 × UInt8) :
    (listingLine address word).toList = wordLine address word ++ ['\n'] := by
  have hmarks : ": ".toList = [':', ' '] ∧ "\n".toList = ['\n'] := by decide
  simp only [listingLine, wordLine, upperHex, String.toList_append, String.toList_ofList, hmarks,
    List.append_assoc]

/-- There is no line feed within a line. -/
theorem feed_not_mem_wordLine (address : Nat) (word : UInt8 × UInt8) :
    '\n' ∉ wordLine address word := by
  have hdigits : ∀ width n, '\n' ∉ upperHexDigits width n := by
    intro width n hmem
    exact absurd ((isUpperHex_upperHexDigits width n).digit '\n' hmem) (by decide)
  simp [wordLine, hdigits]

/-- The words that a listing shows, each with its half address. -/
theorem numbered_words (m : Memory) (n : Nat) :
    ((Memory.pairs m.cells.toList).zipIdx.drop (programStart / 2)).take n =
      (List.range (min n (maxProgramSize / 2))).map fun k =>
        ((m.byte (programStart + 2 * k), m.byte (programStart + 2 * k + 1)),
          programStart / 2 + k) := by
  have hlength : (Memory.pairs m.cells.toList).length = memorySize / 2 := by
    rw [Memory.length_pairs, Vector.length_toList]
  apply List.ext_getElem?
  intro k
  by_cases hk : k < min n (maxProgramSize / 2)
  · have hword : programStart / 2 + k < memorySize / 2 := by
      simp only [programStart, memorySize, maxProgramSize] at hk ⊢
      omega
    have haddress : 2 * (programStart / 2 + k) = programStart + 2 * k := by
      simp only [programStart]
      omega
    rw [List.getElem?_take_of_lt (by omega), List.getElem?_drop, List.getElem?_zipIdx,
      Memory.getElem?_pairs_cells m hword, List.getElem?_map, List.getElem?_range hk, haddress,
      Nat.zero_add]
    rfl
  · have hnone : memorySize / 2 - programStart / 2 = maxProgramSize / 2 := rfl
    rw [List.getElem?_eq_none, List.getElem?_eq_none]
    · rw [List.length_map, List.length_range]
      omega
    · rw [List.length_take, List.length_drop, List.length_zipIdx, hlength]
      omega

/-- The lines of a listing. -/
def listed (m : Machine) (count : Nat) : List (List Char) :=
  (List.range (min (count / 2) (maxProgramSize / 2))).map fun k =>
    wordLine (programStart + 2 * k)
      (m.memory.byte (programStart + 2 * k), m.memory.byte (programStart + 2 * k + 1))

/-- A listing consists of its lines. -/
theorem toList_listing (m : Machine) (count : Nat) :
    (m.listing count).toList = Text.unlines (m.listed count) := by
  have haddress : ∀ k, (programStart / 2 + k) * 2 = programStart + 2 * k := by
    intro k
    simp only [programStart]
    omega
  rw [listing, String.toList_join, numbered_words, List.map_map, List.flatMap_map, Text.unlines,
    listed, List.flatMap_map]
  simp only [Function.comp_apply, toList_listingLine, haddress]

/-- The lines of a listing can be cut apart again. -/
theorem lines_listing (m : Machine) (count : Nat) :
    Text.lines (m.listing count).toList = m.listed count := by
  rw [toList_listing, Text.lines_unlines]
  intro line hline
  obtain ⟨k, -, rfl⟩ := List.mem_map.1 hline
  exact feed_not_mem_wordLine _ _

/-! ## Reading a listing -/

/-- The bytes of the word in a line of a listing, behind an address of four digits. -/
def wordBytes (line : List Char) : List UInt8 :=
  let word := hexValue (line.drop 6)
  [UInt8.ofNat (word / 256), UInt8.ofNat (word % 256)]

/-- The bytes of the words in a listing. -/
def listedBytes (listing : String) : List UInt8 :=
  (Text.lines listing.toList).flatMap wordBytes

/-- A byte takes two digits. -/
theorem length_byteDigits (b : UInt8) : (upperHexDigits 2 b.toNat).length = 2 :=
  length_upperHexDigits (by decide) b.toNat_lt

/-- Two bytes take four digits. -/
theorem length_wordDigits (high low : UInt8) :
    (upperHexDigits 2 high.toNat ++ upperHexDigits 2 low.toNat).length = 4 := by
  rw [List.length_append, length_byteDigits, length_byteDigits]

/-- Two bytes next to each other write a word, high byte first. -/
theorem isUpperHex_word (high low : UInt8) :
    IsUpperHex 4 (256 * high.toNat + low.toNat)
      (upperHexDigits 2 high.toNat ++ upperHexDigits 2 low.toNat) where
  digit := by
    intro c hc
    rcases List.mem_append.1 hc with hc | hc
    · exact (isUpperHex_upperHexDigits 2 high.toNat).digit c hc
    · exact (isUpperHex_upperHexDigits 2 low.toNat).digit c hc
  value := by
    rw [hexValue_append, length_byteDigits, (isUpperHex_upperHexDigits 2 high.toNat).value,
      (isUpperHex_upperHexDigits 2 low.toNat).value]
    rfl
  width_le := Nat.le_of_eq (length_wordDigits high low).symm
  leading := by
    intro hlong
    rw [length_wordDigits] at hlong
    omega

/-- An address in memory takes four digits. -/
theorem length_addressDigits {address : Nat} (h : address < 65536) :
    (upperHexDigits 4 address).length = 4 :=
  length_upperHexDigits (by decide) h

/-- The bytes of a word are read back from its line. -/
theorem wordBytes_wordLine {address : Nat} (h : address < 65536) (word : UInt8 × UInt8) :
    wordBytes (wordLine address word) = [word.1, word.2] := by
  have hfront : (upperHexDigits 4 address ++ [':', ' ']).length = 6 := by
    rw [List.length_append, length_addressDigits h]
    rfl
  have hlow := word.2.toNat_lt
  have hdiv : (256 * word.1.toNat + word.2.toNat) / 256 = word.1.toNat := by omega
  have hmod : (256 * word.1.toNat + word.2.toNat) % 256 = word.2.toNat := by omega
  rw [wordBytes, wordLine, List.drop_left' hfront, (isUpperHex_word word.1 word.2).value, hdiv,
    hmod, UInt8.ofNat_toNat, UInt8.ofNat_toNat]

/-- The bytes that are read from a listing are those of memory. -/
theorem listedBytes_listing (m : Machine) (count : Nat) :
    listedBytes (m.listing count) =
      m.memory.slice programStart (2 * min (count / 2) (maxProgramSize / 2)) := by
  rw [listedBytes, lines_listing, listed, List.flatMap_map, ← Memory.flatMap_words]
  apply List.flatMap_congr
  intro k hk
  have hk' := List.mem_range.1 hk
  apply wordBytes_wordLine
  simp only [programStart, maxProgramSize, memorySize] at hk' ⊢
  omega

/-- A program that was loaded is read back from its listing. -/
theorem listedBytes_load (h : program.length ≤ maxProgramSize) :
    listedBytes ((m.load program).machine.listing (program.length + 1)) =
      program ++ List.replicate (program.length % 2) 0 := by
  have hwords : 2 * min ((program.length + 1) / 2) (maxProgramSize / 2) =
      program.length + program.length % 2 := by
    simp only [maxProgramSize, memorySize, programStart] at h ⊢
    omega
  rw [listedBytes_listing, hwords, slice_load h]

end Machine

/-! ## The listing that a session logs -/

namespace CommandLine

open Log

/-- A computation that succeeds does so step by step. -/
theorem Setup.exists_of_bind {α β : Type} {x : Setup α} {f : α → Setup β} {log told : List Entry}
    {b : β} (h : (x >>= f).run.run log = (.ok b, told)) :
    ∃ a mid, x.run.run log = (.ok a, mid) ∧ (f a).run.run mid = (.ok b, told) := by
  rw [ExceptT.run_bind, StateT.run_bind] at h
  rcases hx : x.run.run log with ⟨error | a, mid⟩
  · rw [hx] at h
    cases h
  · rw [hx] at h
    exact ⟨a, mid, rfl, h⟩

variable {parsers : Parsers} {system : System} {options : Options}

/-- A setting that is read is read step by step. -/
theorem Setting.exists_of_bind {α β : Type} {x : Except RunError α} {f : α → Except RunError β}
    {b : β} (h : x >>= f = .ok b) : ∃ a, x = .ok a ∧ f a = .ok b := by
  cases x with
  | error error => cases h
  | ok a => exact ⟨a, rfl, h⟩

/-- The program of a setting is what the file of the options holds. -/
theorem Setting.program_of_read {g : Setting} (h : read parsers system.files options = .ok g) :
    contents system.files options.file = .ok g.program := by
  unfold read at h
  obtain ⟨config, -, h⟩ := exists_of_bind h
  obtain ⟨keymap, -, h⟩ := exists_of_bind h
  obtain ⟨program, hfile, h⟩ := exists_of_bind h
  cases h
  exact hfile

/-- The last thing that a session logs before its frames is the listing of its program. -/
theorem Session.log_start {session : Session} {told : List Entry}
    (h : (start parsers system options).run.run [] = (.ok session, told)) :
    ∃ program before, Setting.contents system.files options.file = .ok program ∧
      told = before ++
        [⟨.debug, "program:\n" ++ session.machine.listing (program.length + 1)⟩] := by
  unfold start at h
  obtain ⟨config, log₁, -, h⟩ := Setup.exists_of_bind h
  obtain ⟨keymap, log₂, -, h⟩ := Setup.exists_of_bind h
  obtain ⟨program, log₃, hfile, h⟩ := Setup.exists_of_bind h
  obtain ⟨machine, log₄, -, h⟩ := Setup.exists_of_bind h
  obtain ⟨-, log₅, -, h⟩ := Setup.exists_of_bind h
  refine ⟨program, log₅, ?_, ?_⟩
  · obtain ⟨_, hread, -⟩ := Setup.reads_readFile system.files options.file log₂
    rw [hfile] at hread
    exact eq_ok_of_mapError (Prod.mk.inj hread).1.symm
  · split at h
    next => cases h
    next =>
      cases h
      rfl

end CommandLine

namespace Machine

open CommandLine

/-- Loading and listing a program are inverse to each other. After any run, and for every program
that is not too large, loading it succeeds.

* Then memory holds the built-in font in the first 80 bytes, the program from byte 512 on, and zeros
  everywhere else.
* A listing has a line for every two bytes that are asked for, as far as memory goes. Each line ends
  with a line feed, and is the address of a word in four digits, a colon and a blank, and the two
  bytes at that address and behind it in four digits.
* The bytes of the words that are listed for one byte more than the program has are the program, and
  a zero behind it if the program has an odd number of bytes.
* This listing is the last thing that a session logs before it runs its program. -/
theorem listing_restores_program (config : Config) (generator : Random.Generator)
    (actions : List Action) (program : List UInt8) (h : program.length ≤ 3584) :
    let loaded := ((new config generator).after actions).load program
    let m := loaded.machine
    loaded.result = .ok () ∧
    (∀ a, m.memory.byte a =
      if a < 80 then Font.builtin.getD a 0
      else if a < 512 then 0
      else program.getD (a - 512) 0) ∧
    (∀ count,
      let lines := Text.lines (m.listing count).toList
      (m.listing count).toList = Text.unlines lines ∧ lines.length = min (count / 2) 1792 ∧
      ∀ k line, lines[k]? = some line → ∃ address word, line = address ++ ": ".toList ++ word ∧
        (address.length = 4 ∧ IsUpperHex 4 (0x200 + 2 * k) address) ∧
        (word.length = 4 ∧ IsUpperHex 4 (256 * (m.memory.byte (0x200 + 2 * k)).toNat +
          (m.memory.byte (0x200 + 2 * k + 1)).toNat) word)) ∧
    listedBytes (m.listing (program.length + 1)) =
      program ++ List.replicate (program.length % 2) 0 ∧
    ∀ parsers system options g, Setting.read parsers system.files options = .ok g →
      (∃ m, switchOn system g.config = .ok m) → g.program.length ≤ 3584 →
      ∃ before listing, ((Session.start parsers system options).run.run []).2 =
          before ++ [⟨.debug, "program:\n" ++ listing⟩] ∧
        listedBytes listing = g.program ++ List.replicate (g.program.length % 2) 0 := by
  intro loaded m
  refine ⟨(load_of_le h).1, byte_load h, ?_, listedBytes_load h, ?_⟩
  · intro count lines
    have hlines : lines = m.listed count := lines_listing m count
    rw [hlines]
    refine ⟨toList_listing m count, ?_, ?_⟩
    · rw [listed, List.length_map, List.length_range]
      rfl
    · intro k line hline
      obtain ⟨hk, rfl⟩ := List.getElem?_eq_some_iff.1 hline
      rw [listed, List.length_map, List.length_range] at hk
      refine ⟨upperHexDigits 4 (0x200 + 2 * k), _, ?_, ⟨?_, isUpperHex_upperHexDigits 4 _⟩,
        length_wordDigits _ _, isUpperHex_word _ _⟩
      · simp only [listed, List.getElem_map, List.getElem_range]
        rfl
      · simp only [maxProgramSize, memorySize, programStart] at hk
        exact length_addressDigits (by omega)
  · rintro parsers system options g hread ⟨m, hswitch⟩ hsize
    have hfile := Setting.program_of_read hread
    obtain ⟨told, hstart, -⟩ := Outcome.start_of_setting hread []
    rw [Setting.begin_of_le hswitch hsize] at hstart
    obtain ⟨program', before, hfile', htold⟩ := Session.log_start hstart
    obtain rfl : program' = g.program := Except.ok.inj (hfile'.symm.trans hfile)
    refine ⟨before, (g.machine system.entropy).listing (g.program.length + 1), ?_,
      listedBytes_load hsize⟩
    rw [hstart]
    exact htold

/-- A program of three bytes is loaded after another one has run. It is read back with a zero behind
it, from its own listing and from that of a session. The second line shows its last byte. -/
theorem listing_restores_program_odd :
    let program : List UInt8 := [0x60, 0x20, 0xF0]
    let system : System := {
      files := fun path => if path = "odd" then .ok (.file program) else .error .notFound
      entropy := Random.expandSeed 0
      grants := fun bytes => bytes < 2 ^ 40 }
    let options : Options := { file := "odd" }
    let g : Setting := { config := {}, keymap := KeyMap.qwerty, program }
    let m := (((new {} (.ofSeed 0)).after [.load [0x12, 0x00], .cycle]).load program).machine
    (program.length ≤ 3584 ∧ listedBytes (m.listing 4) = [0x60, 0x20, 0xF0, 0x00]) ∧
    (∃ line, (Text.lines (m.listing 4).toList)[1]? = some line ∧
      ∃ address word, line = address ++ ": ".toList ++ word ∧
        IsUpperHex 4 0x202 address ∧ IsUpperHex 4 0xF000 word) ∧
    (Setting.read .yaml system.files options = .ok g ∧
      ∃ before listing, ((Session.start .yaml system options).run.run []).2 =
          before ++ [⟨.debug, "program:\n" ++ listing⟩] ∧
        listedBytes listing = [0x60, 0x20, 0xF0, 0x00]) := by
  intro program system options g m
  have hsize : program.length ≤ 3584 := by decide
  have hread : Setting.read .yaml system.files options = .ok g := rfl
  have hfilled : program ++ List.replicate (program.length % 2) 0 = [0x60, 0x20, 0xF0, 0x00] := by
    decide
  obtain ⟨-, hbyte, hlines, hback, hlogged⟩ :=
    listing_restores_program {} (.ofSeed 0) [.load [0x12, 0x00], .cycle] program hsize
  have hsession := hlogged .yaml system options g hread ⟨_, rfl⟩ hsize
  rw [hfilled] at hback hsession
  obtain ⟨-, hlength, hline⟩ := hlines 4
  have hsecond := List.getElem?_eq_getElem (Nat.lt_of_lt_of_eq Nat.one_lt_two hlength.symm)
  obtain ⟨address, word, htext, ⟨-, haddress⟩, -, hword⟩ := hline 1 _ hsecond
  refine ⟨⟨hsize, hback⟩, ⟨_, hsecond, address, word, htext, haddress, ?_⟩, hread,
    hsession⟩
  rwa [hbyte, hbyte] at hword

end Machine

end ChipEight
