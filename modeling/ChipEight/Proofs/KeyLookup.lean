/-
# Looking up keys

A key map folds the case of characters twice, once when it is built and once when a character is
looked up. Folding makes two characters the same exactly if they are equal up to the case of ASCII
letters (`SameButCase`, `toLower_eq_toLower_iff`). So a character stands for the key of the first
definition that holds one like it (`KeyMap.find?_of_first`, `KeyMap.find?_of_none_holds`), and the
built-in key map agrees with the table of the keypad (`KeyMap.find?_qwerty`). The main statement is
`KeyMap.first_definition_counts`.
-/
import ChipEight.KeyMap
import Mathlib.Data.List.Basic

namespace ChipEight

/-! ## Characters up to case -/

/-- An upper-case letter of ASCII, and the same letter in lower case. -/
def CasePair (upper lower : Char) : Prop :=
  ∃ letter < 26, upper.toNat = 'A'.toNat + letter ∧ lower.toNat = 'a'.toNat + letter

/-- Characters that are equal up to the case of ASCII letters. -/
def SameButCase (c d : Char) : Prop := c = d ∨ CasePair c d ∨ CasePair d c

variable {c d : Char}

/-- Lower case lies 32 codes behind upper case, and other characters stay as they are. -/
theorem toNat_toLower (c : Char) :
    c.toLower.toNat = if 65 ≤ c.toNat ∧ c.toNat ≤ 90 then c.toNat + 32 else c.toNat := by
  unfold Char.toLower
  split
  next h =>
    have hcode : 65 ≤ c.toNat ∧ c.toNat ≤ 90 := h
    have hstep : ('a'.val - 'A'.val).toNat = 32 := rfl
    rw [if_pos hcode]
    show (c.val + ('a'.val - 'A'.val)).toNat = c.toNat + 32
    rw [UInt32.toNat_add, hstep]
    exact Nat.mod_eq_of_lt (by change c.toNat + 32 < 2 ^ 32; omega)
  next h =>
    have hcode : ¬ (65 ≤ c.toNat ∧ c.toNat ≤ 90) := h
    rw [if_neg hcode]

/-- An upper-case letter and the same letter in lower case are told by their codes. -/
theorem casePair_iff : CasePair c d ↔ 65 ≤ c.toNat ∧ c.toNat ≤ 90 ∧ d.toNat = c.toNat + 32 := by
  have hupper : 'A'.toNat = 65 := rfl
  have hlower : 'a'.toNat = 97 := rfl
  rw [CasePair, hupper, hlower]
  constructor
  · rintro ⟨letter, hletter, hc, hd⟩
    omega
  · rintro ⟨hlow, hhigh, hd⟩
    exact ⟨c.toNat - 65, by omega, by omega, by omega⟩

/-- Folding makes characters the same exactly if they are equal up to case. -/
theorem toLower_eq_toLower_iff : c.toLower = d.toLower ↔ SameButCase c d := by
  rw [← Char.toNat_inj, toNat_toLower, toNat_toLower, SameButCase, ← Char.toNat_inj, casePair_iff,
    casePair_iff]
  by_cases hc : 65 ≤ c.toNat ∧ c.toNat ≤ 90 <;> by_cases hd : 65 ≤ d.toNat ∧ d.toNat ≤ 90
  · rw [if_pos hc, if_pos hd]
    omega
  · rw [if_pos hc, if_neg hd]
    omega
  · rw [if_neg hc, if_pos hd]
    omega
  · rw [if_neg hc, if_neg hd]
    omega

/-- A character that is not of ASCII is equal up to case only to itself. -/
theorem sameButCase_iff_eq (h : 128 ≤ c.toNat ∨ 128 ≤ d.toNat) : SameButCase c d ↔ c = d := by
  rw [SameButCase, casePair_iff, casePair_iff]
  constructor
  · rintro (rfl | hcase | hcase)
    · rfl
    · omega
    · omega
  · exact Or.inl

/-! ## Definitions -/

/-- A definition has characters, and one of them is equal to the given one up to case. -/
def KeyDefinition.Holds (d : KeyDefinition) (c : Char) : Prop :=
  ∃ characters, d.characters = some characters ∧ ∃ x ∈ characters, SameButCase x c

namespace KeyMap

variable {definitions before after : List KeyDefinition} {d : KeyDefinition}

/-- A definition that holds a character binds it to its key. -/
theorem lookup_bindingsOf_of_holds (h : d.Holds c) :
    (bindingsOf d).lookup c.toLower = some d.key := by
  obtain ⟨characters, hd, x, hx, hsame⟩ := h
  have hbinds : (bindingsOf d).lookup c.toLower ≠ none := by
    rw [← Option.isSome_iff_ne_none, List.lookup_isSome_iff, bindingsOf, hd]
    refine ⟨(x.toLower, d.key), List.mem_map_of_mem hx, ?_⟩
    rw [beq_iff_eq]
    exact (toLower_eq_toLower_iff.2 hsame).symm
  obtain ⟨k, hk⟩ := Option.ne_none_iff_exists'.1 hbinds
  -- a definition binds its characters to no other key
  obtain ⟨first, rest, hsplit, -⟩ := List.lookup_eq_some_iff.1 hk
  have hmem : (c.toLower, k) ∈ bindingsOf d := by
    rw [hsplit]
    exact List.mem_append_right first List.mem_cons_self
  obtain ⟨y, -, hy⟩ := List.mem_map.1 hmem
  rw [hk, (Prod.mk.inj hy).2]

/-- A definition that does not hold a character does not bind it. -/
theorem lookup_bindingsOf_of_not_holds (h : ¬ d.Holds c) :
    (bindingsOf d).lookup c.toLower = none := by
  rw [List.lookup_eq_none_iff]
  rintro ⟨folded, k⟩ hmem
  obtain ⟨x, hx, hfolded⟩ := List.mem_map.1 hmem
  rw [bne_iff_ne]
  intro heq
  apply h
  cases hd : d.characters with
  | none =>
    rw [hd] at hx
    cases hx
  | some characters =>
    rw [hd] at hx
    exact ⟨characters, hd, x, hx, toLower_eq_toLower_iff.1 ((Prod.mk.inj hfolded).1.trans heq.symm)⟩

/-- The bindings of earlier definitions come first. -/
theorem find?_append (before after : List KeyDefinition) (c : Char) :
    (ofDefinitions (before ++ after)).find? c =
      ((ofDefinitions before).find? c).or ((ofDefinitions after).find? c) := by
  rw [find?, ofDefinitions, List.flatMap_append, List.lookup_append]
  rfl

/-- The bindings of the first definition come before those of the others. -/
theorem find?_cons (d : KeyDefinition) (definitions : List KeyDefinition) (c : Char) :
    (ofDefinitions (d :: definitions)).find? c =
      ((bindingsOf d).lookup c.toLower).or ((ofDefinitions definitions).find? c) := by
  rw [find?, ofDefinitions, List.flatMap_cons, List.lookup_append]
  rfl

/-- A character that no definition holds stands for no key. -/
theorem find?_of_none_holds (h : ∀ d ∈ definitions, ¬ d.Holds c) :
    (ofDefinitions definitions).find? c = none := by
  induction definitions with
  | nil => rfl
  | cons d definitions ih =>
    obtain ⟨hd, hrest⟩ := List.forall_mem_cons.1 h
    rw [find?_cons, lookup_bindingsOf_of_not_holds hd, Option.none_or, ih hrest]

/-- A character stands for the key of the first definition that holds it. -/
theorem find?_of_first (hsplit : definitions = before ++ d :: after)
    (hbefore : ∀ e ∈ before, ¬ e.Holds c) (h : d.Holds c) :
    (ofDefinitions definitions).find? c = some d.key := by
  rw [hsplit, find?_append, find?_of_none_holds hbefore, Option.none_or, find?_cons,
    lookup_bindingsOf_of_holds h, Option.some_or]

/-- Unless no definition holds a character, one of them is the first that does. -/
theorem none_holds_or_exists_first (definitions : List KeyDefinition) (c : Char) :
    (∀ d ∈ definitions, ¬ d.Holds c) ∨ ∃ before d after, definitions = before ++ d :: after ∧
      d.Holds c ∧ ∀ e ∈ before, ¬ e.Holds c := by
  induction definitions with
  | nil => exact Or.inl (List.forall_mem_nil _)
  | cons d definitions ih =>
    by_cases hd : d.Holds c
    · exact Or.inr ⟨[], d, definitions, rfl, hd, List.forall_mem_nil _⟩
    · rcases ih with hnone | ⟨before, e, after, rfl, he, hbefore⟩
      · exact Or.inl (List.forall_mem_cons.2 ⟨hd, hnone⟩)
      · exact Or.inr ⟨d :: before, e, after, rfl, he, List.forall_mem_cons.2 ⟨hd, hbefore⟩⟩

/-- A definition without characters changes nothing. -/
theorem ofDefinitions_of_no_characters (h : d.characters.getD [] = [])
    (before after : List KeyDefinition) :
    ofDefinitions (before ++ d :: after) = ofDefinitions (before ++ after) := by
  have hd : bindingsOf d = [] := by
    rw [bindingsOf, h]
    rfl
  rw [ofDefinitions, ofDefinitions, List.flatMap_append, List.flatMap_append, List.flatMap_cons, hd,
    List.nil_append]

/-! ## The built-in key map -/

/-- The bindings of the built-in key map. -/
theorem bindings_qwerty :
    qwerty.bindings =
      [('1', 1), ('2', 2), ('3', 3), ('4', 12), ('q', 4), ('w', 5), ('e', 6), ('r', 13),
       ('a', 7), ('s', 8), ('d', 9), ('f', 14), ('z', 10), ('x', 0), ('c', 11), ('v', 15)] := by
  decide

/-- The built-in key map agrees with the places of the keys on a QWERTY keyboard. -/
theorem find?_qwerty (c : Char) : qwerty.find? c = Key.ofQwerty? c := by
  rw [find?, bindings_qwerty, Key.ofQwerty?]
  generalize c.toLower = folded
  split
  case h_17 =>
    -- what is on none of the sixteen places has no binding
    rw [List.lookup_eq_none_iff]
    simp_all
  all_goals decide

/-! ## Looking up -/

/-- A character stands for the key of the first definition that holds it up to ASCII case.

* It stands for no key exactly if no definition holds it.
* Definitions without characters contribute nothing, and later definitions never win over earlier
  ones.
* A character that is not of ASCII is matched exactly.
* The built-in key map agrees with the table of the keypad on every character. -/
theorem first_definition_counts (definitions : List KeyDefinition) (c : Char) :
    let m := ofDefinitions definitions
    (∀ k, m.find? c = some k ↔ ∃ before d after, definitions = before ++ d :: after ∧
      d.Holds c ∧ d.key = k ∧ ∀ e ∈ before, ¬ e.Holds c) ∧
    (m.find? c = none ↔ ∀ d ∈ definitions, ¬ d.Holds c) ∧
    (∀ before d after, definitions = before ++ d :: after → d.characters.getD [] = [] →
      m = ofDefinitions (before ++ after)) ∧
    (∀ later k, m.find? c = some k → (ofDefinitions (definitions ++ later)).find? c = some k) ∧
    (∀ x : Char, 128 ≤ x.toNat ∨ 128 ≤ c.toNat → (SameButCase x c ↔ x = c)) ∧
    qwerty.find? c = Key.ofQwerty? c := by
  intro m
  refine ⟨?_, ?_, ?_, ?_, fun x => sameButCase_iff_eq, find?_qwerty c⟩
  · intro k
    constructor
    · intro hk
      rcases none_holds_or_exists_first definitions c with
        hnone | ⟨before, d, after, hsplit, hd, hbefore⟩
      · rw [show m.find? c = none from find?_of_none_holds hnone] at hk
        cases hk
      · have hfirst : m.find? c = some d.key := find?_of_first hsplit hbefore hd
        exact ⟨before, d, after, hsplit, hd, Option.some.inj (hfirst.symm.trans hk), hbefore⟩
    · rintro ⟨before, d, after, hsplit, hd, rfl, hbefore⟩
      exact find?_of_first hsplit hbefore hd
  · constructor
    · intro hm
      rcases none_holds_or_exists_first definitions c with
        hnone | ⟨before, d, after, hsplit, hd, hbefore⟩
      · exact hnone
      · have hfirst : m.find? c = some d.key := find?_of_first hsplit hbefore hd
        exact absurd (hm.symm.trans hfirst) nofun
    · exact find?_of_none_holds
  · intro before d after hsplit hd
    show ofDefinitions definitions = _
    rw [hsplit, ofDefinitions_of_no_characters hd]
  · intro later k hk
    rw [find?_append, show (ofDefinitions definitions).find? c = some k from hk, Option.some_or]

/-- The Kelvin sign is not of ASCII, so it is no `k`: of the other definitions with one, be it in
upper case, the first counts. -/
theorem first_definition_counts_kelvin :
    let kelvin := '\u212a'
    let definitions : List KeyDefinition :=
      [⟨12, some [kelvin, 'p']⟩, ⟨0, none⟩, ⟨5, some ['w', 'K']⟩]
    let later : List KeyDefinition := [⟨9, some ['k']⟩]
    ((ofDefinitions definitions).find? 'k' = some 5 ∧
      (ofDefinitions (definitions ++ later)).find? 'k' = some 5) ∧
    (definitions = [⟨12, some [kelvin, 'p']⟩] ++ ⟨0, none⟩ :: [⟨5, some ['w', 'K']⟩] ∧
      (none : Option (List Char)).getD [] = [] ∧ ofDefinitions definitions =
        ofDefinitions ([⟨12, some [kelvin, 'p']⟩] ++ [⟨5, some ['w', 'K']⟩])) ∧
    (128 ≤ kelvin.toNat ∧ ¬ SameButCase kelvin 'k') := by
  intro kelvin definitions later
  obtain ⟨-, -, hwithout, hlater, hexact, -⟩ := first_definition_counts definitions 'k'
  have hfive : (ofDefinitions definitions).find? 'k' = some 5 := by decide
  have hkelvin : 128 ≤ kelvin.toNat := by decide
  refine ⟨⟨hfive, hlater later 5 hfive⟩, ⟨rfl, rfl, hwithout _ ⟨0, none⟩ _ rfl rfl⟩, hkelvin, ?_⟩
  rw [hexact kelvin (Or.inl hkelvin)]
  decide

end KeyMap

end ChipEight
