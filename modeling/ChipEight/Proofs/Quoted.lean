/-
# Quoted characters

What it is to show a character between single quotes: most characters stand for themselves, a few
have a name behind a backslash, and the others are told by their number in hexadecimal
(`Text.Quotes`). Of the ASCII characters just the controls are told by their number. Characters are
quoted like that (`Text.quotes_quoteChar`), and no two of them alike (`Text.quoteChar_injective`).
-/
import ChipEight.Proofs.Hexadecimal
import ChipEight.Text.Quoted

namespace ChipEight.Text

/-- The characters that have a name behind a backslash, with their names. -/
def escapeNames : List (Char × Char) :=
  [('\x00', '0'), ('\t', 't'), ('\r', 'r'), ('\n', 'n'), ('\\', '\\'), ('\x27', '\x27')]

/-- A text shows a character between single quotes. -/
inductive Quotes (c : Char) : List Char → Prop
  /-- The character stands for itself. -/
  | plain (hnamed : ∀ name, (c, name) ∉ escapeNames)
      (hcontrol : 0x20 ≤ c.toNat ∧ c.toNat ≠ 0x7F) : Quotes c ['\x27', c, '\x27']
  /-- The character has a name. -/
  | named (name : Char) (h : (c, name) ∈ escapeNames) : Quotes c ['\x27', '\\', name, '\x27']
  /-- The character is told by its number. -/
  | coded (hnamed : ∀ name, (c, name) ∉ escapeNames)
      (hprintable : ¬ (0x20 ≤ c.toNat ∧ c.toNat < 0x7F)) :
      Quotes c ('\x27' :: '\\' :: 'u' :: '\x7b' :: (Nat.toDigits 16 c.toNat ++ ['\x7d', '\x27']))

variable {c d : Char}

/-! ## No two characters are quoted alike -/

/-- A number can be read back from its digits. -/
theorem toDigits_injective {m n : Nat} (h : Nat.toDigits 16 m = Nat.toDigits 16 n) : m = n := by
  rw [← hexValue_plainDigits m, plainDigits, h, ← plainDigits, hexValue_plainDigits]

/-- A text shows no more than one character. -/
theorem Quotes.unique {text : List Char} (hc : Quotes c text) (hd : Quotes d text) : c = d := by
  -- the second character behind the quote tells the three ways apart
  cases hc with
  | plain hnamed hcontrol =>
    cases hd
    rfl
  | named name h =>
    cases hd with
    | named _ h' =>
      have hname : ∀ p ∈ escapeNames, ∀ q ∈ escapeNames, p.2 = q.2 → p.1 = q.1 := by decide
      exact hname _ h _ h' rfl
  | coded hnamed hprintable =>
    generalize htext : '\x27' :: '\\' :: 'u' :: '\x7b' ::
      (Nat.toDigits 16 c.toNat ++ ['\x7d', '\x27']) = text at hd
    cases hd with
    | plain => simp at htext
    | named => simp at htext
    | coded =>
      simp only [List.cons.injEq, true_and] at htext
      exact Char.toNat_inj.1 (toDigits_injective (List.append_cancel_right htext))

/-! ## Quoting -/

/-- The ASCII characters that can be printed have a picture of their own. -/
theorem isUnpictured_of_printable (h : 0x20 ≤ c.toNat ∧ c.toNat < 0x7F) :
    isUnpictured c = false := by
  have houtside : ∀ r ∈ unpicturedBasic, r.2 < 0x20 ∨ 0x7F ≤ r.1 := by decide +kernel
  have hbasic : c.toNat < 0x2000 := Nat.lt_trans h.2 (by decide)
  rw [isUnpictured, if_pos hbasic, List.any_eq_false]
  intro r hr
  simp only [Bool.and_eq_true, decide_eq_true_iff]
  rcases houtside r hr with hlow | hhigh <;> omega

/-- The ASCII controls have none. -/
theorem isUnpictured_of_control (h : ¬ (0x20 ≤ c.toNat ∧ c.toNat ≠ 0x7F)) :
    isUnpictured c = true := by
  have hlow : (0x0, 0x1F) ∈ unpicturedBasic := List.mem_cons_self
  have hdelete : (0x7F, 0xA0) ∈ unpicturedBasic := List.mem_cons_of_mem _ List.mem_cons_self
  have hbasic : c.toNat < 0x2000 := by omega
  rw [isUnpictured, if_pos hbasic, List.any_eq_true]
  simp only [Bool.and_eq_true, decide_eq_true_iff]
  rcases Nat.lt_or_ge c.toNat 0x20 with hlt | hge
  · exact ⟨_, hlow, Nat.zero_le _, Nat.le_of_lt_succ hlt⟩
  · exact ⟨_, hdelete, by omega, by omega⟩

/-- A character without a name is told by its number if it has no picture of its own. -/
theorem escape_of_not_named (h : ∀ name, (c, name) ∉ escapeNames) :
    escape '\x27' c =
      if isUnpictured c then '\\' :: 'u' :: '\x7b' :: Nat.toDigits 16 c.toNat ++ ['\x7d']
      else [c] := by
  have hquote : (c == '\x27') = false := by
    rw [beq_eq_false_iff_ne]
    rintro rfl
    exact absurd (h '\x27') (by decide)
  unfold escape
  split
  · exact absurd (h '0') (by decide)
  · exact absurd (h 't') (by decide)
  · exact absurd (h 'r') (by decide)
  · exact absurd (h 'n') (by decide)
  · exact absurd (h '\\') (by decide)
  · rw [hquote]
    rfl

/-- Characters are quoted as told. -/
theorem quotes_quoteChar (c : Char) : Quotes c (quoteChar c).toList := by
  rw [quoteChar, String.toList_ofList]
  by_cases hnamed : ∃ name, (c, name) ∈ escapeNames
  · obtain ⟨name, hname⟩ := hnamed
    have hquote := Quotes.named name hname
    simp only [escapeNames, List.mem_cons, Prod.mk.injEq, List.not_mem_nil, or_false] at hname
    rcases hname with ⟨rfl, rfl⟩ | ⟨rfl, rfl⟩ | ⟨rfl, rfl⟩ | ⟨rfl, rfl⟩ | ⟨rfl, rfl⟩ | ⟨rfl, rfl⟩
    all_goals exact hquote
  · rw [not_exists] at hnamed
    rw [escape_of_not_named hnamed]
    split
    next h =>
      have hcoded := Quotes.coded hnamed fun hprintable => by
        rw [isUnpictured_of_printable hprintable] at h
        cases h
      simpa using hcoded
    next h => exact .plain hnamed (by_contra fun hcontrol => h (isUnpictured_of_control hcontrol))

/-- No two characters are quoted alike. -/
theorem quoteChar_injective (h : quoteChar c = quoteChar d) : c = d := by
  have hc := quotes_quoteChar c
  rw [h] at hc
  exact hc.unique (quotes_quoteChar d)

end ChipEight.Text
