/-
# The grammar of the command line

A command line is the word `run`, the file of a program, and options, each of which is a flag and a
value (`CommandLine.line`). It is read exactly if all options are valid, and then each option has
the value that was given last (`Options.ofGiven`). Otherwise there is a first option that is not
valid, and what is logged tells whether its flag is unknown (`Options.parse_grammar`).
-/
import ChipEight.CommandLine.Outcome
import Mathlib.Data.List.Basic
import Mathlib.Data.List.Induction

namespace ChipEight.CommandLine

/-! ## Numbers -/

/-- A text is digits, perhaps behind a plus sign, that write a 64-bit number. -/
structure IsNumeral (text : String) (n : Nat) : Prop where
  /-- The text is decimal digits, at least one, with an optional plus sign in front. -/
  digits : ∃ digits : List Char, (text.toList = digits ∨ text.toList = '+' :: digits) ∧
    digits ≠ [] ∧ (∀ c ∈ digits, c.isDigit = true) ∧ Nat.ofDigitChars 10 digits 0 = n
  /-- The number has at most 64 bits. -/
  lt_size : n < UInt64.size

/-- Digits are read from left to right, each counting for itself and all before it for ten times
their value. -/
theorem foldlM_digitValue?_eq_some_iff {digits : List Char} {start n : Nat} :
    digits.foldlM (fun n c => (digitValue? c).map (10 * n + ·)) start = some n ↔
      (∀ c ∈ digits, c.isDigit = true) ∧ Nat.ofDigitChars 10 digits start = n := by
  induction digits generalizing start with
  | nil => simp [pure]
  | cons c digits ih =>
    have hvalue : digitValue? c = if c.isDigit then some (c.toNat - '0'.toNat) else none := rfl
    rw [List.foldlM_cons, List.forall_mem_cons, Nat.ofDigitChars_cons, hvalue]
    by_cases hc : c.isDigit = true
    · simp only [hc, if_true, Option.map_some, true_and]
      exact ih
    · simp [hc]

/-- Digits stand for a number if there is one at least and all are decimal. -/
theorem ofDigits?_eq_some_iff {digits : List Char} {n : Nat} :
    ofDigits? digits = some n ↔
      digits ≠ [] ∧ (∀ c ∈ digits, c.isDigit = true) ∧ Nat.ofDigitChars 10 digits 0 = n := by
  cases digits with
  | nil => exact ⟨nofun, fun h => absurd rfl h.1⟩
  | cons c digits =>
    rw [ofDigits?, List.isEmpty_cons, if_neg Bool.false_ne_true, foldlM_digitValue?_eq_some_iff]
    exact (and_iff_right (List.cons_ne_nil c digits)).symm

/-- An argument stands for a number exactly if it is the numeral of it. -/
theorem number?_eq_some_iff {text : String} {n : Nat} :
    number? text = some n ↔ IsNumeral text n := by
  simp only [number?, Option.filter_eq_some_iff, decide_eq_true_eq, ofDigits?_eq_some_iff]
  constructor
  · rintro ⟨hdigits, hlt⟩
    split at hdigits
    next digits htext => exact ⟨⟨digits, .inr htext, hdigits⟩, hlt⟩
    next => exact ⟨⟨text.toList, .inl rfl, hdigits⟩, hlt⟩
  · rintro ⟨⟨digits, htext | htext, hdigits⟩, hlt⟩
    · -- a plus sign is no digit
      have hplus : ∀ rest, digits ≠ '+' :: rest := by
        rintro rest rfl
        exact absurd (hdigits.2.1 '+' List.mem_cons_self) (by decide)
      rw [htext]
      split
      next rest => exact absurd rfl (hplus rest)
      next => exact ⟨hdigits, hlt⟩
    · rw [htext]
      exact ⟨hdigits, hlt⟩

/-! ## Options as they are given -/

/-- An option as it is given: a flag and a value. -/
structure Given where
  /-- The flag. -/
  flag : String
  /-- The value, which may look like a flag. -/
  value : String
  deriving DecidableEq, Repr

/-- The flags whose values are numbers. -/
def numericFlags : List String := ["--frames", "--speed"]

namespace Given

/-- The arguments of an option. -/
def arguments (g : Given) : List String := [g.flag, g.value]

/-- An option is valid if its flag is one, and its value is a number if it has to be. -/
structure Valid (g : Given) : Prop where
  /-- The flag is one of the flags. -/
  flag : g.flag ∈ Options.flags
  /-- The value is a number if the flag asks for one. -/
  numeral : g.flag ∈ numericFlags → ∃ n, IsNumeral g.value n

/-- The value that was given last with a flag. -/
def lastValue (given : List Given) (flag : String) : Option String :=
  (given.filter (·.flag = flag)).getLast?.map (·.value)

variable {given : List Given} {flag : String}

/-- An option that is given last decides about its flag. -/
theorem lastValue_concat (given : List Given) (g : Given) (flag : String) :
    lastValue (given ++ [g]) flag =
      if g.flag = flag then some g.value else lastValue given flag := by
  rw [lastValue, List.filter_append]
  by_cases hflag : g.flag = flag
  · simp [hflag]
  · simp [hflag, lastValue]

/-- The order of two options with different flags does not matter. -/
theorem lastValue_swap {g h : Given} (hne : g.flag ≠ h.flag) (before after : List Given)
    (flag : String) :
    lastValue (before ++ g :: h :: after) flag = lastValue (before ++ h :: g :: after) flag := by
  have hfilter : (before ++ g :: h :: after).filter (·.flag = flag) =
      (before ++ h :: g :: after).filter (·.flag = flag) := by
    -- at most one of the two has the flag
    by_cases hg : g.flag = flag
    · have hh : h.flag ≠ flag := fun heq => hne (hg.trans heq.symm)
      simp [hg, hh]
    · simp [hg, List.filter_cons]
  rw [lastValue, hfilter, lastValue]

end Given

/-- The arguments of a command line with a file and options. -/
def line (file : String) (given : List Given) : List String :=
  "run" :: file :: given.flatMap Given.arguments

namespace Options

open Given

/-- The options of a command line: each has the value that was given last, or its default. -/
def ofGiven (file : String) (given : List Given) : Options where
  file := file
  frames := ((lastValue given "--frames").bind number?).getD 600
  speed := (lastValue given "--speed").bind number?
  keys := (lastValue given "--keys").getD ""
  config := lastValue given "--config"
  keymap := lastValue given "--keymap"

/-- A number that is written as a numeral is read. -/
theorem number_eq_ok {text : String} {n : Nat} (h : IsNumeral text n) : number text = .ok n := by
  rw [number, number?_eq_some_iff.2 h]

/-- A valid option that is given behind others is set. -/
theorem set_ofGiven {g : Given} (h : g.Valid) (file : String) (given : List Given) :
    (ofGiven file given).set g.flag g.value = .ok (ofGiven file (given ++ [g])) := by
  obtain ⟨flag, value⟩ := g
  have hflag : flag ∈ flags := h.flag
  simp only [flags, List.mem_cons, List.not_mem_nil, or_false] at hflag
  rcases hflag with rfl | rfl | rfl | rfl | rfl
  case inl | inr.inl =>
    obtain ⟨n, hn⟩ := h.numeral (by simp [numericFlags])
    simp [set, ofGiven, lastValue_concat, number_eq_ok hn, number?_eq_some_iff.2 hn]
  all_goals simp [set, ofGiven, lastValue_concat]

/-- A text that is no numeral is malformed. -/
theorem number_eq_error {text : String} (h : ¬ ∃ n, IsNumeral text n) :
    number text = .error .malformed := by
  rw [number]
  rcases hnumber : number? text with _ | n
  · rfl
  · exact absurd ⟨n, number?_eq_some_iff.1 hnumber⟩ h

/-- An option whose flag is none is unknown. -/
theorem set_of_not_mem {flag : String} (h : flag ∉ flags) (o : Options) (value : String) :
    o.set flag value = .error (.unknownOption flag) := by
  unfold set
  split
  case h_6 => rfl
  all_goals exact absurd (by decide) h

/-- An option that is not valid is rejected. -/
theorem set_eq_error {g : Given} (h : ¬ g.Valid) (o : Options) :
    o.set g.flag g.value =
      .error (if g.flag ∈ flags then .malformed else .unknownOption g.flag) := by
  by_cases hflag : g.flag ∈ flags
  · rw [if_pos hflag]
    have hnumeral : ¬ (g.flag ∈ numericFlags → ∃ n, IsNumeral g.value n) :=
      fun hnumeral => h ⟨hflag, hnumeral⟩
    obtain ⟨hmem, hnone⟩ := Classical.not_imp.1 hnumeral
    rw [numericFlags, List.mem_pair] at hmem
    rcases hmem with hmem | hmem
    all_goals
      rw [hmem, set, number_eq_error hnone]
      rfl
  · rw [if_neg hflag, set_of_not_mem hflag]

/-! ## Command lines -/

/-- Options are set from left to right. -/
theorem setAll_append (given : List Given) (rest : List String) (o : Options) :
    o.setAll (given.flatMap arguments ++ rest) =
      o.setAll (given.flatMap arguments) >>= fun o => o.setAll rest := by
  induction given generalizing o with
  | nil => rfl
  | cons g given ih =>
    rw [List.flatMap_cons, arguments, List.append_assoc]
    show (o.set g.flag g.value >>= fun o => o.setAll (given.flatMap arguments ++ rest)) =
      (o.set g.flag g.value >>= fun o => o.setAll (given.flatMap arguments)) >>= fun o =>
        o.setAll rest
    simp only [ih, bind_assoc]

/-- Valid options are all set. -/
theorem setAll_of_valid (file : String) (given : List Given) (h : ∀ g ∈ given, g.Valid) :
    setAll { file } (given.flatMap arguments) = .ok (ofGiven file given) := by
  induction given using List.reverseRecOn with
  | nil => rfl
  | append_singleton given g ih =>
    rw [List.forall_mem_append, List.forall_mem_singleton] at h
    rw [List.flatMap_append, setAll_append, ih h.1]
    show setAll (ofGiven file given) [g.flag, g.value] = _
    rw [setAll, set_ofGiven h.2]
    rfl

/-- No valid option begins with a flag and the arguments behind it: the flag is unknown, or its
value is missing or no number. -/
def Stuck (flag : String) (rest : List String) : Prop :=
  ∀ value ∈ rest.head?, ¬ Given.Valid ⟨flag, value⟩

/-- The first option that is not valid is rejected. -/
theorem setAll_of_stuck {flag : String} {rest : List String} (h : Stuck flag rest) (o : Options) :
    o.setAll (flag :: rest) =
      .error (if flag ∈ flags then .malformed else .unknownOption flag) := by
  cases rest with
  | nil => rfl
  | cons value rest =>
    rw [setAll, set_eq_error (h value rfl)]
    rfl

/-- Arguments are valid options, up to the end or to a first one that is not valid. -/
theorem exists_given : ∀ arguments : List String, ∃ given : List Given, (∀ g ∈ given, g.Valid) ∧
    (arguments = given.flatMap Given.arguments ∨
      ∃ flag rest, arguments = given.flatMap Given.arguments ++ flag :: rest ∧ Stuck flag rest)
  | [] => ⟨[], nofun, .inl rfl⟩
  | [flag] => ⟨[], nofun, .inr ⟨flag, [], rfl, nofun⟩⟩
  | flag :: value :: rest => by
    by_cases hvalid : Given.Valid ⟨flag, value⟩
    · obtain ⟨given, hgiven, hrest⟩ := exists_given rest
      refine ⟨⟨flag, value⟩ :: given, List.forall_mem_cons.2 ⟨hvalid, hgiven⟩, ?_⟩
      rcases hrest with rfl | ⟨next, rest, rfl, hstuck⟩
      · exact .inl rfl
      · exact .inr ⟨next, rest, rfl, hstuck⟩
    · refine ⟨[], nofun, .inr ⟨flag, value :: rest, rfl, ?_⟩⟩
      rintro _ ⟨⟩
      exact hvalid

variable {arguments : List String} {file flag : String} {given : List Given} {rest : List String}

/-- A command line of valid options is read. -/
theorem parse_line (h : ∀ g ∈ given, g.Valid) :
    parse (line file given) = .ok (ofGiven file given) :=
  setAll_of_valid file given h

/-- A command line with an option that is not valid is rejected for the first one. -/
theorem parse_line_append (h : ∀ g ∈ given, g.Valid) (hstuck : Stuck flag rest) :
    parse (line file given ++ flag :: rest) =
      .error (if flag ∈ flags then .malformed else .unknownOption flag) := by
  show setAll { file } (given.flatMap Given.arguments ++ flag :: rest) = _
  rw [setAll_append, setAll_of_valid file given h]
  exact setAll_of_stuck hstuck _

/-- Arguments without the word `run` or without a file are malformed. -/
theorem parse_eq_malformed (h : ¬ ∃ file rest, arguments = "run" :: file :: rest) :
    parse arguments = .error .malformed := by
  unfold parse
  split
  next file rest => exact absurd ⟨file, rest, rfl⟩ h
  next => rfl

/-- The first argument that is not acceptable stands in the place of a flag and is none. -/
def StopsAtUnknown (arguments : List String) (flag : String) : Prop :=
  ∃ file given rest, arguments = line file given ++ flag :: rest ∧
    (∀ g ∈ given, g.Valid) ∧ flag ∉ flags

/-- What is logged when arguments are read. -/
def readingLog (arguments : List String) : List Log.Entry :=
  match parse arguments with
  | .ok _ => []
  | .error r => r.log

/-- Arguments are a command line of valid options, or stop at an unknown flag, or are malformed. -/
theorem line_or_unknown_or_malformed (arguments : List String) :
    (∃ file given, arguments = line file given ∧ ∀ g ∈ given, g.Valid) ∨
      (∃ flag, StopsAtUnknown arguments flag) ∨ parse arguments = .error .malformed := by
  by_cases hrun : ∃ file rest, arguments = "run" :: file :: rest
  · obtain ⟨file, rest, rfl⟩ := hrun
    obtain ⟨given, hvalid, rfl | ⟨flag, rest, rfl, hstuck⟩⟩ := exists_given rest
    · exact .inl ⟨file, given, rfl, hvalid⟩
    · by_cases hflag : flag ∈ flags
      · right
        right
        have hparse : parse (line file given ++ flag :: rest) = _ :=
          parse_line_append hvalid hstuck
        rwa [if_pos hflag] at hparse
      · exact .inr (.inl ⟨flag, file, given, rest, rfl, hvalid, hflag⟩)
  · exact .inr (.inr (parse_eq_malformed hrun))

/-- Arguments that stop at an unknown flag are rejected for it. -/
theorem StopsAtUnknown.parse_eq (h : StopsAtUnknown arguments flag) :
    parse arguments = .error (.unknownOption flag) := by
  obtain ⟨file, given, rest, rfl, hvalid, hflag⟩ := h
  have hstuck : Stuck flag rest := fun _ _ hvalid => hflag hvalid.flag
  rw [parse_line_append hvalid hstuck, if_neg hflag]

/-- Arguments are read exactly if they are a command line of valid options. -/
theorem parse_eq_ok_iff {o : Options} :
    parse arguments = .ok o ↔ ∃ file given,
      arguments = line file given ∧ (∀ g ∈ given, g.Valid) ∧ o = ofGiven file given := by
  constructor
  · intro h
    rcases line_or_unknown_or_malformed arguments with
      ⟨file, given, rfl, hvalid⟩ | ⟨flag, hstops⟩ | hmalformed
    · rw [parse_line hvalid] at h
      exact ⟨file, given, rfl, hvalid, (Except.ok.inj h).symm⟩
    · rw [hstops.parse_eq] at h
      cases h
    · rw [hmalformed] at h
      cases h
  · rintro ⟨file, given, rfl, hvalid, rfl⟩
    exact parse_line hvalid

/-- Arguments are rejected for an unknown flag exactly if they stop at it. -/
theorem parse_eq_unknownOption_iff :
    parse arguments = .error (.unknownOption flag) ↔ StopsAtUnknown arguments flag := by
  refine ⟨?_, StopsAtUnknown.parse_eq⟩
  intro h
  rcases line_or_unknown_or_malformed arguments with
    ⟨file, given, rfl, hvalid⟩ | ⟨other, hstops⟩ | hmalformed
  · rw [parse_line hvalid] at h
    cases h
  · rw [hstops.parse_eq] at h
    cases h
    exact hstops
  · rw [hmalformed] at h
    cases h

/-- The warning about an unknown flag names it. -/
theorem log_eq_singleton_iff {r : Rejection} :
    r.log = [⟨.warn, "unknown option " ++ flag⟩] ↔ r = .unknownOption flag := by
  cases r with
  | malformed => exact ⟨nofun, nofun⟩
  | unknownOption other =>
    simp only [Rejection.log, List.cons.injEq, Log.Entry.mk.injEq, String.append_right_inj,
      true_and, and_true, Rejection.unknownOption.injEq]

/-- The log of reading tells an unknown flag, and nothing else. -/
theorem readingLog_eq_singleton_iff :
    readingLog arguments = [⟨.warn, "unknown option " ++ flag⟩] ↔
      StopsAtUnknown arguments flag := by
  rw [← parse_eq_unknownOption_iff, readingLog]
  rcases parse arguments with r | o
  · rw [Except.error.injEq]
    exact log_eq_singleton_iff
  · exact ⟨nofun, nofun⟩

/-- Nothing is logged unless reading stops at an unknown flag. -/
theorem readingLog_eq_nil_iff :
    readingLog arguments = [] ↔ ¬ ∃ flag, StopsAtUnknown arguments flag := by
  constructor
  · rintro hnil ⟨flag, hstops⟩
    rw [readingLog_eq_singleton_iff.2 hstops] at hnil
    cases hnil
  · intro hnone
    rw [readingLog]
    rcases hparse : parse arguments with (_ | flag) | o
    · rfl
    · exact absurd ⟨flag, parse_eq_unknownOption_iff.1 hparse⟩ hnone
    · rfl

/-- The order of two valid options with different flags does not matter. -/
theorem ofGiven_swap {g h : Given} (hne : g.flag ≠ h.flag) (file : String)
    (before after : List Given) :
    ofGiven file (before ++ g :: h :: after) = ofGiven file (before ++ h :: g :: after) := by
  simp only [ofGiven, lastValue_swap hne]

/-- Arguments are read exactly if they are a command line of valid options, and then each option has
the value that was given last or its default, so that the order of two options with different flags
does not matter. A warning is logged exactly if reading stops at an unknown flag, and names it. -/
theorem parse_grammar :
    (∀ text n, number? text = some n ↔ IsNumeral text n) ∧
      (∀ arguments o, parse arguments = .ok o ↔ ∃ file given,
        arguments = line file given ∧ (∀ g ∈ given, g.Valid) ∧ o = ofGiven file given) ∧
      (∀ file before g h after, (∀ x ∈ before ++ g :: h :: after, x.Valid) → g.flag ≠ h.flag →
        parse (line file (before ++ h :: g :: after)) =
          parse (line file (before ++ g :: h :: after))) ∧
      (∀ arguments flag, readingLog arguments = [⟨.warn, "unknown option " ++ flag⟩] ↔
        StopsAtUnknown arguments flag) ∧
      (∀ arguments, readingLog arguments = [] ↔ ¬ ∃ flag, StopsAtUnknown arguments flag) ∧
      (∀ parsers system arguments r, parse arguments = .error r →
        (Outcome.ofArguments parsers system arguments).log = readingLog arguments) := by
  refine ⟨fun text n => number?_eq_some_iff, fun arguments o => parse_eq_ok_iff, ?_,
    fun arguments flag => readingLog_eq_singleton_iff, fun arguments => readingLog_eq_nil_iff, ?_⟩
  · intro file before g h after hvalid hne
    have hswapped : ∀ x ∈ before ++ h :: g :: after, x.Valid := by
      intro x hx
      have hperm := (List.Perm.swap g h after).append_left before
      exact hvalid x (hperm.mem_iff.1 hx)
    rw [parse_line hswapped, parse_line hvalid, ofGiven_swap hne]
  · intro parsers system arguments r hparse
    rw [Outcome.ofArguments, readingLog, hparse]
    rfl

/-- Values are taken as they stand even if they look like flags, and the last one counts. -/
theorem parse_grammar_verbatim :
    parse ["run", "--keys", "--speed", "+7", "--speed", "12", "--keys", "--frames"] =
        .ok { file := "--keys", speed := some 12, keys := "--frames" } ∧
      readingLog ["run", "--keys", "--speed", "+7", "--turbo"] =
        [⟨.warn, "unknown option " ++ "--turbo"⟩] := by
  have hplus : Given.Valid ⟨"--speed", "+7"⟩ :=
    ⟨by decide, fun _ => ⟨7, (parse_grammar.1 _ _).1 (by decide)⟩⟩
  have htwelve : Given.Valid ⟨"--speed", "12"⟩ :=
    ⟨by decide, fun _ => ⟨12, (parse_grammar.1 _ _).1 (by decide)⟩⟩
  have hkeys : Given.Valid ⟨"--keys", "--frames"⟩ := ⟨by decide, fun h => absurd h (by decide)⟩
  have hvalid : ∀ g ∈ [⟨"--speed", "+7"⟩] ++ [⟨"--keys", "--frames"⟩, ⟨"--speed", "12"⟩],
      Given.Valid g := by
    simp only [List.cons_append, List.nil_append, List.forall_mem_cons]
    exact ⟨hplus, hkeys, htwelve, nofun⟩
  have hswap := parse_grammar.2.2.1 "--keys" [⟨"--speed", "+7"⟩] ⟨"--keys", "--frames"⟩
    ⟨"--speed", "12"⟩ [] hvalid (by decide)
  constructor
  · exact hswap.trans ((parse_grammar.2.1 _ _).2 ⟨"--keys", _, rfl, hvalid, by decide⟩)
  · exact (parse_grammar.2.2.2.1 _ _).2
      ⟨"--keys", [⟨"--speed", "+7"⟩], [], rfl, List.forall_mem_singleton.2 hplus, by decide⟩

end Options

end ChipEight.CommandLine
