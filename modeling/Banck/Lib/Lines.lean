/-
Banck.Lib.Lines — sequences that are written one after the other, each with
a terminator behind it.

A reader cuts the text at the terminators (`lines`). It finds the sequences
that were written if none has the terminator in it (`lines_terminate`), and
else it finds more than were written: the number alone tells
(`length_lines_terminate_iff`).
-/
import Mathlib

namespace Banck.Lib.Lines

variable {α : Type} [DecidableEq α] {e : α}

def terminate (e : α) (written : List (List α)) : List α :=
  written.flatMap fun line => line ++ [e]

/-- What comes before each terminator, and after the last one if that is
not empty. -/
def lines (e : α) : List α → List (List α)
  | [] => []
  | a :: rest =>
      if a = e then
        [] :: lines e rest
      else
        match lines e rest with
        | [] => [[a]]
        | line :: more => (a :: line) :: more

theorem lines_cons_self (rest : List α) : lines e (e :: rest) = [] :: lines e rest := by
  rw [lines, if_pos rfl]

/-- What has no terminator in it, and one behind it, is a line. -/
theorem lines_append {line : List α} (h : e ∉ line) (rest : List α) :
    lines e (line ++ e :: rest) = line :: lines e rest := by
  induction line with
  | nil => exact lines_cons_self rest
  | cons a line ih =>
    have ha : a ≠ e := fun he => h (he ▸ List.mem_cons_self)
    have hline : e ∉ line := fun hmem => h (List.mem_cons_of_mem a hmem)
    rw [List.cons_append, lines, if_neg ha, ih hline]

theorem lines_terminate {written : List (List α)} (h : ∀ line ∈ written, e ∉ line) :
    lines e (terminate e written) = written := by
  induction written with
  | nil => rfl
  | cons line rest ih =>
    have htext : terminate e (line :: rest) = line ++ e :: terminate e rest := by
      simp [terminate]
    rw [htext, lines_append (h line List.mem_cons_self),
      ih fun other hmem => h other (List.mem_cons_of_mem line hmem)]

/-- Each terminator in a sequence makes one line more of it. -/
theorem length_lines_append (line rest : List α) :
    (lines e (line ++ e :: rest)).length = line.count e + 1 + (lines e rest).length := by
  induction line with
  | nil =>
    rw [List.nil_append, lines_cons_self, List.length_cons, List.count_nil]
    omega
  | cons a line ih =>
    rw [List.cons_append, lines]
    by_cases ha : a = e
    · subst ha
      rw [if_pos rfl, List.length_cons, ih, List.count_cons_self]
      omega
    · rw [if_neg ha, List.count_cons_of_ne ha]
      cases hsplit : lines e (line ++ e :: rest) with
      | nil =>
        rw [hsplit, List.length_nil] at ih
        omega
      | cons first more =>
        rw [hsplit, List.length_cons] at ih
        exact ih

theorem length_lines_terminate (written : List (List α)) :
    (lines e (terminate e written)).length =
      written.length + (written.map (List.count e)).sum := by
  induction written with
  | nil => rfl
  | cons line rest ih =>
    have htext : terminate e (line :: rest) = line ++ e :: terminate e rest := by
      simp [terminate]
    rw [htext, length_lines_append, ih, List.map_cons, List.sum_cons, List.length_cons]
    omega

/-- There are as many lines as were written exactly if none of these has
the terminator in it. -/
theorem length_lines_terminate_iff {written : List (List α)} :
    (lines e (terminate e written)).length = written.length ↔ ∀ line ∈ written, e ∉ line := by
  rw [length_lines_terminate, Nat.add_eq_left, List.sum_eq_zero_iff_forall_eq_nat]
  simp only [List.mem_map, forall_exists_index, and_imp, forall_apply_eq_imp_iff₂,
    List.count_eq_zero]

end Banck.Lib.Lines
