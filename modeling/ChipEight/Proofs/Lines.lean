/-
# Texts of lines

The picture of a screen and the listing of a program are texts in which a line feed ends each line.
Such a text can be cut back into its lines, if no line holds a line feed itself (`lines_unlines`).
-/
import Mathlib.Data.List.Basic

namespace ChipEight.Text

/-- Lines as a text, each one ended by a line feed. -/
def unlines (lines : List (List Char)) : List Char := lines.flatMap (· ++ ['\n'])

/-- The lines of a text that are ended by a line feed. -/
def lines (text : List Char) : List (List Char) := (text.splitOn '\n').dropLast

/-- The first line ends at the first line feed. -/
theorem lines_append_cons {line : List Char} (h : '\n' ∉ line) (rest : List Char) :
    lines (line ++ '\n' :: rest) = line :: lines rest := by
  rw [lines, List.splitOn_append_cons_self_of_not_mem h,
    List.dropLast_cons_of_ne_nil (List.splitOn_ne_nil '\n' rest)]
  rfl

/-- Lines that were ended by line feeds are cut apart again. -/
theorem lines_unlines {ls : List (List Char)} (h : ∀ line ∈ ls, '\n' ∉ line) :
    lines (unlines ls) = ls := by
  induction ls with
  | nil => rfl
  | cons line ls ih =>
    obtain ⟨hline, hls⟩ := List.forall_mem_cons.1 h
    rw [unlines, List.flatMap_cons, List.append_assoc, List.singleton_append,
      lines_append_cons hline]
    exact congrArg (line :: ·) (ih hls)

end ChipEight.Text
