/-
# Mnemonics identify instructions

The mnemonic of an instruction can be read back: it is a line of a word and operands
(`mnemonic_eq_line`), which blanks and commas part (`words_line`), an operand is told from its text
(`Operand.read?_text`), and word and operands make up the instruction (`assemble_operands`). So no
two instructions have the same mnemonic (`mnemonic_injective`). Two words of memory stand for the
same instruction only if they are equal, except for shifts, which do not use the third digit
(`eq_or_sameShift`). The main statement is `Instruction.mnemonic_identifies`.
-/
import ChipEight.Instruction.Mnemonic
import ChipEight.Proofs.Hexadecimal
import ChipEight.Proofs.Table
import Mathlib.Data.List.Basic

namespace ChipEight

/-! ## Words of a line -/

namespace Text

/-- Whether a character stands between words. -/
def isBreak (c : Char) : Bool := c == ' ' || c == ','

/-- The words of a line, without the blanks and commas between them. -/
def words (line : List Char) : List (List Char) :=
  (line.splitOnP isBreak).filter (!·.isEmpty)

/-- A text that is a single word. -/
structure IsWord (text : String) : Prop where
  /-- It has characters. -/
  ne_nil : text.toList ≠ []
  /-- None of them is a blank or a comma. -/
  not_break : text.toList.any isBreak = false

instance (text : String) : Decidable (IsWord text) :=
  decidable_of_iff (text.toList ≠ [] ∧ text.toList.any isBreak = false)
    ⟨fun ⟨hne, hbreak⟩ => ⟨hne, hbreak⟩, fun ⟨hne, hbreak⟩ => ⟨hne, hbreak⟩⟩

/-- Among characters without a break none is one. -/
theorem any_isBreak_eq_false {line : List Char} :
    line.any isBreak = false ↔ ∀ c ∈ line, isBreak c = false := by
  simp only [List.any_eq_false, Bool.not_eq_true]

/-- A break parts the words before it from those behind it. -/
theorem words_append_cons (front rest : List Char) {c : Char} (hc : isBreak c = true) :
    words (front ++ c :: rest) = words front ++ words rest := by
  rw [words, List.splitOnP_append_cons front rest hc, List.filter_append]
  rfl

/-- Breaks in front of a line belong to no word. -/
theorem words_breaks_append {breaks : List Char} (h : breaks.all isBreak = true)
    (rest : List Char) : words (breaks ++ rest) = words rest := by
  induction breaks with
  | nil => rfl
  | cons c breaks ih =>
    rw [List.all_cons, Bool.and_eq_true] at h
    exact (words_append_cons [] (breaks ++ rest) h.1).trans (ih h.2)

variable {text : String}

/-- A word is the only word of its text. -/
theorem IsWord.words_eq (h : IsWord text) : words text.toList = [text.toList] := by
  have hne : (!text.toList.isEmpty) = true := by
    rw [Bool.not_eq_true', List.isEmpty_eq_false_iff]
    exact h.ne_nil
  have hsplit := List.splitOnP_eq_singleton (any_isBreak_eq_false.1 h.not_break)
  rw [words, hsplit, List.filter_singleton, hne]
  rfl

/-- Hexadecimal digits are no breaks. -/
theorem isBreak_of_mem_hexAlphabet : ∀ c ∈ hexAlphabet, isBreak c = false :=
  any_isBreak_eq_false.1 (by decide)

/-- Decimal digits are no breaks. -/
theorem isBreak_of_isDigit {c : Char} (h : c.isDigit = true) : isBreak c = false := by
  by_contra hbreak
  rw [Bool.not_eq_false, isBreak, Bool.or_eq_true, beq_iff_eq, beq_iff_eq] at hbreak
  rcases hbreak with rfl | rfl <;> cases h

/-- A word behind a break, and perhaps more breaks, is one word more. -/
theorem IsWord.words_append (h : IsWord text) (line : String) {gap : String} {c : Char}
    {breaks : List Char} (hgap : gap.toList = c :: breaks) (hc : isBreak c = true)
    (hbreaks : breaks.all isBreak = true) :
    words (line ++ gap ++ text).toList = words line.toList ++ [text.toList] := by
  have hline : (line ++ gap ++ text).toList = line.toList ++ c :: (breaks ++ text.toList) := by
    rw [String.toList_append, String.toList_append, hgap, List.append_assoc]
    rfl
  rw [hline, words_append_cons _ _ hc, words_breaks_append hbreaks, h.words_eq]

/-- The characters of a number in hexadecimal are its digits. -/
theorem toList_upperHex (width n : Nat) : (upperHex width n).toList = upperHexDigits width n :=
  String.toList_ofList

/-- Hexadecimal digits behind a prefix that is a word make up a word. -/
theorem IsWord.append_upperHex (h : IsWord text) (width n : Nat) :
    IsWord (text ++ upperHex width n) where
  ne_nil := by
    rw [String.toList_append]
    exact List.append_ne_nil_of_left_ne_nil h.ne_nil _
  not_break := by
    rw [String.toList_append, List.any_append, h.not_break, Bool.false_or, toList_upperHex,
      any_isBreak_eq_false]
    intro c hc
    exact isBreak_of_mem_hexAlphabet c ((isUpperHex_upperHexDigits width n).digit c hc)

end Text

namespace Instruction

open Text

/-! ## Operands -/

/-- An operand of a mnemonic. -/
inductive Operand where
  /-- A register. -/
  | register (r : UInt8)
  /-- A number. -/
  | byte (b : UInt8)
  /-- An address. -/
  | address (a : UInt16)
  /-- The index register. -/
  | index
  /-- The memory at the index register. -/
  | memory
  /-- The delay timer. -/
  | delay
  /-- The sound timer. -/
  | sound
  /-- A key press. -/
  | key
  /-- The glyph of a digit. -/
  | glyph
  /-- The decimal digits of a byte. -/
  | decimal
  deriving DecidableEq, Repr

namespace Operand

/-- How an operand is written. -/
def text : Operand → String
  | register r => registerName r
  | byte b => byteText b
  | address a => addressText a
  | index => "I"
  | memory => "[I]"
  | delay => "DT"
  | sound => "ST"
  | key => "K"
  | glyph => "F"
  | decimal => "B"

/-- The operand that a text stands for, if it is none of decimal digits. -/
def readName? : List Char → Option Operand
  | 'v' :: digits => some (register (UInt8.ofNat (hexValue digits)))
  | '0' :: 'x' :: digits => some (address (UInt16.ofNat (hexValue digits)))
  | ['I'] => some index
  | ['[', 'I', ']'] => some memory
  | ['D', 'T'] => some delay
  | ['S', 'T'] => some sound
  | ['K'] => some key
  | ['F'] => some glyph
  | ['B'] => some decimal
  | _ => none

/-- The operand that a text stands for. -/
def read? (text : List Char) : Option Operand :=
  if text.all Char.isDigit then some (byte (UInt8.ofNat (Nat.ofDigitChars 10 text 0)))
  else readName? text

/-- A register is read back from its name. -/
theorem read?_registerName (r : UInt8) :
    read? (registerName r).toList = some (register r) := by
  have htext : (registerName r).toList = 'v' :: upperHexDigits 1 r.toNat := by
    rw [registerName, String.toList_append, toList_upperHex]
    rfl
  have hvalue : hexValue (upperHexDigits 1 r.toNat) = r.toNat :=
    (isUpperHex_upperHexDigits 1 r.toNat).value
  calc read? (registerName r).toList
      = some (register (UInt8.ofNat (hexValue (upperHexDigits 1 r.toNat)))) := by
        rw [htext]
        rfl
    _ = some (register r) := by
        rw [hvalue, UInt8.ofNat_toNat]

/-- An address is read back from its text. -/
theorem read?_addressText (a : UInt16) :
    read? (addressText a).toList = some (address a) := by
  have htext : (addressText a).toList = '0' :: 'x' :: upperHexDigits 3 a.toNat := by
    rw [addressText, String.toList_append, toList_upperHex]
    rfl
  have hvalue : hexValue (upperHexDigits 3 a.toNat) = a.toNat :=
    (isUpperHex_upperHexDigits 3 a.toNat).value
  calc read? (addressText a).toList
      = some (address (UInt16.ofNat (hexValue (upperHexDigits 3 a.toNat)))) := by
        rw [htext]
        rfl
    _ = some (address a) := by
        rw [hvalue, UInt16.ofNat_toNat]

/-- A number is read back from its digits. -/
theorem read?_byteText (b : UInt8) : read? (byteText b).toList = some (byte b) := by
  have hdigits : (Nat.toDigits 10 b.toNat).all Char.isDigit = true := by
    rw [List.all_eq_true]
    intro c hc
    exact Nat.isDigit_of_mem_toDigits (by decide) (by decide) hc
  rw [byteText, Nat.toList_repr, read?, if_pos hdigits,
    Nat.ofDigitChars_toDigits (by decide) (by decide), UInt8.ofNat_toNat]

/-- An operand is read back from its text. -/
theorem read?_text (o : Operand) : read? o.text.toList = some o := by
  cases o with
  | register r => exact read?_registerName r
  | byte b => exact read?_byteText b
  | address a => exact read?_addressText a
  | _ => rfl

/-- An operand is written as a single word. -/
theorem isWord_text (o : Operand) : IsWord o.text := by
  cases o with
  | register r => exact IsWord.append_upperHex (by decide) 1 r.toNat
  | address a => exact IsWord.append_upperHex (by decide) 3 a.toNat
  | byte b =>
    rw [text, byteText]
    constructor
    · rw [Nat.toList_repr]
      exact Nat.toDigits_ne_nil
    · rw [Nat.toList_repr, any_isBreak_eq_false]
      intro c hc
      exact isBreak_of_isDigit (Nat.isDigit_of_mem_toDigits (by decide) (by decide) hc)
  | _ => decide

end Operand

/-! ## Word and operands of an instruction -/

/-- The word in front of a mnemonic. -/
def word : Instruction → String
  | sys _ => "SYS"
  | clearScreen => "CLS"
  | ret => "RET"
  | jump _ | jumpOffset _ => "JP"
  | call _ => "CALL"
  | skipIfByte _ _ | skipIfEqual _ _ => "SE"
  | skipUnlessByte _ _ | skipUnlessEqual _ _ => "SNE"
  | addByte _ _ | add _ _ | addIndex _ => "ADD"
  | or _ _ => "OR"
  | and _ _ => "AND"
  | xor _ _ => "XOR"
  | sub _ _ => "SUB"
  | shiftRight _ => "SHR"
  | subFrom _ _ => "SUBN"
  | shiftLeft _ => "SHL"
  | random _ _ => "RND"
  | draw _ _ _ => "DRW"
  | skipIfKey _ => "SKP"
  | skipUnlessKey _ => "SKNP"
  | setByte _ _ | copy _ _ | setIndex _ | readDelay _ | awaitKey _ | setDelay _ | setSound _
  | setGlyph _ | storeDecimal _ | storeRegisters _ | loadRegisters _ => "LD"

/-- The operands of a mnemonic. -/
def operands : Instruction → List Operand
  | clearScreen | ret => []
  | sys a | jump a | call a => [.address a]
  | shiftRight vx | shiftLeft vx | skipIfKey vx | skipUnlessKey vx => [.register vx]
  | skipIfByte vx b | skipUnlessByte vx b | setByte vx b | addByte vx b | random vx b =>
    [.register vx, .byte b]
  | skipIfEqual vx vy | skipUnlessEqual vx vy | copy vx vy | or vx vy | and vx vy | xor vx vy
  | add vx vy | sub vx vy | subFrom vx vy => [.register vx, .register vy]
  | draw vx vy n => [.register vx, .register vy, .byte n]
  | setIndex a => [.index, .address a]
  | jumpOffset a => [.register 0, .address a]
  | readDelay vx => [.register vx, .delay]
  | awaitKey vx => [.register vx, .key]
  | setDelay vx => [.delay, .register vx]
  | setSound vx => [.sound, .register vx]
  | addIndex vx => [.index, .register vx]
  | setGlyph vx => [.glyph, .register vx]
  | storeDecimal vx => [.decimal, .register vx]
  | storeRegisters vx => [.memory, .register vx]
  | loadRegisters vx => [.register vx, .memory]

/-- The instruction with a given word and operands. -/
def assemble : String → List Operand → Option Instruction
  | "SYS", [.address a] => some (sys a)
  | "CLS", [] => some clearScreen
  | "RET", [] => some ret
  | "JP", [.address a] => some (jump a)
  | "CALL", [.address a] => some (call a)
  | "SE", [.register vx, .byte b] => some (skipIfByte vx b)
  | "SNE", [.register vx, .byte b] => some (skipUnlessByte vx b)
  | "SE", [.register vx, .register vy] => some (skipIfEqual vx vy)
  | "LD", [.register vx, .byte b] => some (setByte vx b)
  | "ADD", [.register vx, .byte b] => some (addByte vx b)
  | "LD", [.register vx, .register vy] => some (copy vx vy)
  | "OR", [.register vx, .register vy] => some (or vx vy)
  | "AND", [.register vx, .register vy] => some (and vx vy)
  | "XOR", [.register vx, .register vy] => some (xor vx vy)
  | "ADD", [.register vx, .register vy] => some (add vx vy)
  | "SUB", [.register vx, .register vy] => some (sub vx vy)
  | "SHR", [.register vx] => some (shiftRight vx)
  | "SUBN", [.register vx, .register vy] => some (subFrom vx vy)
  | "SHL", [.register vx] => some (shiftLeft vx)
  | "SNE", [.register vx, .register vy] => some (skipUnlessEqual vx vy)
  | "LD", [.index, .address a] => some (setIndex a)
  | "JP", [.register 0, .address a] => some (jumpOffset a)
  | "RND", [.register vx, .byte b] => some (random vx b)
  | "DRW", [.register vx, .register vy, .byte n] => some (draw vx vy n)
  | "SKP", [.register vx] => some (skipIfKey vx)
  | "SKNP", [.register vx] => some (skipUnlessKey vx)
  | "LD", [.register vx, .delay] => some (readDelay vx)
  | "LD", [.register vx, .key] => some (awaitKey vx)
  | "LD", [.delay, .register vx] => some (setDelay vx)
  | "LD", [.sound, .register vx] => some (setSound vx)
  | "ADD", [.index, .register vx] => some (addIndex vx)
  | "LD", [.glyph, .register vx] => some (setGlyph vx)
  | "LD", [.decimal, .register vx] => some (storeDecimal vx)
  | "LD", [.memory, .register vx] => some (storeRegisters vx)
  | "LD", [.register vx, .memory] => some (loadRegisters vx)
  | _, _ => none

/-- Word and operands make up the instruction. -/
theorem assemble_operands (i : Instruction) : assemble i.word i.operands = some i := by
  cases i <;> rfl

/-- The word of an instruction is a word. -/
theorem isWord_word (i : Instruction) : IsWord i.word := by
  cases i
  all_goals
    rw [word]
    decide

/-! ## Lines of a word and operands -/

/-- A word and operands in a line: a blank stands behind the word, and a comma and a blank between
two operands. -/
def line (word : String) : List Operand → String
  | [] => word
  | o :: rest => rest.foldl (fun text p => text ++ ", " ++ p.text) (word ++ " " ++ o.text)

/-- The mnemonic of an instruction is the line of its word and its operands. -/
theorem mnemonic_eq_line (i : Instruction) : i.mnemonic = line i.word i.operands := by
  cases i <;> rfl

/-- Operands behind a line are as many words more. -/
theorem words_foldl_operands (rest : List Operand) (text : String) :
    words (rest.foldl (fun text p => text ++ ", " ++ p.text) text).toList =
      words text.toList ++ rest.map (·.text.toList) := by
  induction rest generalizing text with
  | nil => rw [List.foldl_nil, List.map_nil, List.append_nil]
  | cons p rest ih =>
    rw [List.foldl_cons, ih, p.isWord_text.words_append _ rfl rfl rfl, List.append_assoc]
    rfl

/-- The words of a line are the word and the operands. -/
theorem words_line {word : String} (hword : IsWord word) (operands : List Operand) :
    words (line word operands).toList = word.toList :: operands.map (·.text.toList) := by
  cases operands with
  | nil => exact hword.words_eq
  | cons o rest =>
    rw [line, words_foldl_operands, o.isWord_text.words_append _ rfl rfl rfl, hword.words_eq]
    rfl

/-! ## Reading a mnemonic -/

/-- The instruction with a given mnemonic. -/
def ofMnemonic? (text : String) : Option Instruction :=
  match words text.toList with
  | [] => none
  | word :: operands => do assemble (String.ofList word) (← operands.mapM Operand.read?)

/-- An instruction is read back from its mnemonic. -/
theorem ofMnemonic?_mnemonic (i : Instruction) : ofMnemonic? i.mnemonic = some i := by
  have hoperands : (i.operands.map (·.text.toList)).mapM Operand.read? = some i.operands := by
    induction i.operands with
    | nil => rfl
    | cons o operands ih =>
      rw [List.map_cons, List.mapM_cons, Operand.read?_text, ih]
      rfl
  rw [ofMnemonic?, mnemonic_eq_line, words_line i.isWord_word]
  simp only [hoperands, String.ofList_toList]
  exact assemble_operands i

/-- No two instructions have the same mnemonic. -/
theorem mnemonic_injective : Function.Injective mnemonic := by
  intro i j h
  have hread : some i = some j := by
    rw [← ofMnemonic?_mnemonic i, ← ofMnemonic?_mnemonic j, h]
  exact Option.some.inj hread

end Instruction

/-! ## Words that stand for the same instruction -/

namespace Opcode

variable {w w' : UInt16}

/-- The row of a shift of a given register, to the right or to the left as the last digit says. -/
def shiftRow (last register : Nat) : Row :=
  { first := 0x8, second := some register, last := some last }

/-- Two words shift the same register in the same direction. -/
def SameShift (w w' : UInt16) : Prop :=
  ∃ last ∈ [0x6, 0xE], ∃ register,
    (shiftRow last register).Matches w ∧ (shiftRow last register).Matches w'

/-- Words of the row of a shift are those of its form with the digit of its register. -/
theorem matches_shiftRow {last register : Nat} :
    (shiftRow last register).Matches w ↔
      Row.Matches { first := 0x8, last := some last } w ∧ (x w).toNat = register := by
  constructor
  · intro h
    exact ⟨⟨h.first, nofun, nofun, h.last⟩, h.second register rfl⟩
  · rintro ⟨h, hx⟩
    exact ⟨h.first, fun _ hd => hx.trans (Option.some.inj hd), nofun, h.last⟩

/-- Words of the form of a shift that have the same register are shifts of that register. -/
theorem SameShift.of_matches {last : Nat} (hlast : last ∈ [0x6, 0xE])
    (h : Row.Matches { first := 0x8, last := some last } w)
    (h' : Row.Matches { first := 0x8, last := some last } w') (hx : x w = x w') :
    SameShift w w' :=
  ⟨last, hlast, (x w).toNat, matches_shiftRow.2 ⟨h, rfl⟩, matches_shiftRow.2 ⟨h', by rw [hx]⟩⟩

/-- The four digits determine a word. -/
theorem eq_of_digits (hfamily : family w = family w') (hx : x w = x w') (hy : y w = y w')
    (hn : n w = n w') : w = w' := by
  have hsplit : ∀ v : UInt16,
      v.toNat = 4096 * family v + 256 * (x v).toNat + 16 * (y v).toNat + (n v).toNat := by
    intro v
    rw [family, toNat_x, toNat_y, toNat_n]
    omega
  rw [← UInt16.toNat_inj, hsplit w, hsplit w', hfamily, hx, hy, hn]

/-- The last two digits are determined by the number that they make up. -/
theorem digits_of_nn (h : nn w = nn w') : y w = y w' ∧ n w = n w' := by
  have hmod : w.toNat % 256 = w'.toNat % 256 := by
    have hnat := congrArg UInt8.toNat h
    rw [nn, nn, UInt8.toNat_ofNat', UInt8.toNat_ofNat'] at hnat
    omega
  rw [← UInt8.toNat_inj, ← UInt8.toNat_inj, toNat_y, toNat_y, toNat_n, toNat_n]
  omega

/-- The last three digits are determined by the address that they make up. -/
theorem digits_of_nnn (h : nnn w = nnn w') : x w = x w' ∧ y w = y w' ∧ n w = n w' := by
  have hmod : w.toNat % 4096 = w'.toNat % 4096 := by
    have hnat := congrArg UInt16.toNat h
    rw [nnn, nnn, UInt16.toNat_ofNat', UInt16.toNat_ofNat'] at hnat
    omega
  rw [← UInt8.toNat_inj, ← UInt8.toNat_inj, ← UInt8.toNat_inj, toNat_x, toNat_x, toNat_y, toNat_y,
    toNat_n, toNat_n]
  omega

/-- Words of a row that names the last digit agree in it. -/
theorem Row.Matches.n_eq {row : Row} {digit : Nat} (h : row.Matches w) (h' : row.Matches w')
    (hlast : row.last = some digit) : n w = n w' := by
  rw [← UInt8.toNat_inj, h.last digit hlast, h'.last digit hlast]

/-- Words of a row that names the third digit agree in it. -/
theorem Row.Matches.y_eq {row : Row} {digit : Nat} (h : row.Matches w) (h' : row.Matches w')
    (hthird : row.third = some digit) : y w = y w' := by
  rw [← UInt8.toNat_inj, h.third digit hthird, h'.third digit hthird]

end Opcode

namespace Instruction

open Opcode

variable {w w' : UInt16} {i j : Instruction}

/-- Two words that stand for the same instruction are equal or shifts that differ in the third
digit. -/
theorem eq_or_sameShift (h : decode? w = some i) (h' : decode? w' = some i) :
    w = w' ∨ SameShift w w' := by
  have hrow := matches_of_decode? h
  have hrow' := matches_of_decode? h'
  have hops := operands_of_decode? h
  have hops' := operands_of_decode? h'
  have hfamily : family w = family w' := hrow.first.trans hrow'.first.symm
  -- a digit is named by the row or is part of an operand, but for the third one of a shift
  cases i with
  | clearScreen =>
    left
    rw [matches_clearScreen.1 hrow, matches_clearScreen.1 hrow']
  | ret =>
    left
    rw [matches_ret.1 hrow, matches_ret.1 hrow']
  | shiftRight | shiftLeft =>
    right
    exact SameShift.of_matches (by decide) hrow hrow' (hops.symm.trans hops')
  | sys | jump | call | setIndex | jumpOffset =>
    left
    obtain ⟨hx, hy, hn⟩ := digits_of_nnn (hops.symm.trans hops')
    exact eq_of_digits hfamily hx hy hn
  | draw =>
    left
    obtain ⟨hx, hy, hn⟩ := hops
    obtain ⟨hx', hy', hn'⟩ := hops'
    exact eq_of_digits hfamily (hx.symm.trans hx') (hy.symm.trans hy') (hn.symm.trans hn')
  | skipIfByte | skipUnlessByte | setByte | addByte | random =>
    left
    obtain ⟨hx, hnn⟩ := hops
    obtain ⟨hx', hnn'⟩ := hops'
    obtain ⟨hy, hn⟩ := digits_of_nn (hnn.symm.trans hnn')
    exact eq_of_digits hfamily (hx.symm.trans hx') hy hn
  | skipIfEqual | skipUnlessEqual | copy | or | and | xor | add | sub | subFrom =>
    left
    obtain ⟨hx, hy⟩ := hops
    obtain ⟨hx', hy'⟩ := hops'
    exact eq_of_digits hfamily (hx.symm.trans hx') (hy.symm.trans hy') (hrow.n_eq hrow' rfl)
  | _ =>
    left
    exact eq_of_digits hfamily (hops.symm.trans hops') (hrow.y_eq hrow' rfl) (hrow.n_eq hrow' rfl)

/-- Shifts of the same register in the same direction stand for the same instruction. -/
theorem decode?_eq_of_sameShift (h : SameShift w w') : decode? w = decode? w' := by
  obtain ⟨last, hlast, register, hw, hw'⟩ := h
  obtain ⟨hrow, rfl⟩ := matches_shiftRow.1 hw
  obtain ⟨hrow', hnat⟩ := matches_shiftRow.1 hw'
  have hx : x w = x w' := UInt8.toNat_inj.1 hnat.symm
  rw [List.mem_pair] at hlast
  rcases hlast with rfl | rfl
  · rw [decode?_of_matches (i := shiftRight (x w)) hrow rfl nofun,
      decode?_of_matches (i := shiftRight (x w)) hrow' hx nofun]
  · rw [decode?_of_matches (i := shiftLeft (x w)) hrow rfl nofun,
      decode?_of_matches (i := shiftLeft (x w)) hrow' hx nofun]

/-- Instructions with the same mnemonic are equal. Words of memory stand for the same instruction,
and so have the same mnemonic, if they are equal or shift the same register in the same direction,
and not otherwise. -/
theorem mnemonic_identifies :
    (∀ i j : Instruction, i.mnemonic = j.mnemonic → i = j) ∧
      ∀ (w w' : UInt16) (i j : Instruction), decode? w = some i → decode? w' = some j →
        (i = j ↔ w = w' ∨ SameShift w w') ∧
          (i.mnemonic = j.mnemonic ↔ w = w' ∨ SameShift w w') := by
  refine ⟨fun i j h => mnemonic_injective h, ?_⟩
  intro w w' i j h h'
  have heq : i = j ↔ w = w' ∨ SameShift w w' := by
    constructor
    · rintro rfl
      exact eq_or_sameShift h h'
    · rintro (rfl | hshift)
      · exact Option.some.inj (h.symm.trans h')
      · exact Option.some.inj (h.symm.trans ((decode?_eq_of_sameShift hshift).trans h'))
  exact ⟨heq, mnemonic_injective.eq_iff.trans heq⟩

/-- The third digit of a shift does not matter, while the one of an addition does. -/
theorem mnemonic_shift_third_digit :
    (decode? 0x8126 = some (shiftRight 1) ∧ decode? 0x81F6 = some (shiftRight 1) ∧
        SameShift 0x8126 0x81F6) ∧
      (decode? 0x8124 = some (add 1 2) ∧ decode? 0x81F4 = some (add 1 15) ∧
        (add 1 2).mnemonic ≠ (add 1 15).mnemonic) := by
  have hshift := (mnemonic_identifies.2 0x8126 0x81F6 _ _ rfl rfl).1.1 rfl
  refine ⟨⟨rfl, rfl, hshift.resolve_left (by decide)⟩, rfl, rfl, ?_⟩
  intro h
  exact absurd (mnemonic_identifies.1 _ _ h) (by decide)

end Instruction

end ChipEight
