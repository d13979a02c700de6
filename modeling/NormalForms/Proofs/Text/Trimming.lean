import Mathlib.Data.List.DropRight
import NormalForms.Text.Blank

/-!
# Trimmed texts

A text is trimmed if there is no blank at its ends. Trimming makes a text so
(`isTrimmed_trim`), and leaves it alone if it is so (`IsTrimmed.trim_eq`). What is
visible stays (`mem_trim`); and of two texts after one another only the second one
loses blanks at its end, unless it has nothing else (`trimEnd_append_of_ne_nil`).
-/

namespace NormalForms.Text

variable {cs : List Char}

/-! ## Both ends -/

/-- The text neither begins nor ends with a blank. -/
structure IsTrimmed (cs : List Char) : Prop where
  starts : ∀ c ∈ cs.head?, isBlank c = false
  ends : ∀ c ∈ cs.getLast?, isBlank c = false

theorem isBlank_head?_dropWhile {c : Char} (h : c ∈ (cs.dropWhile isBlank).head?) :
    isBlank c = false := by
  have hnot := List.head?_dropWhile_not isBlank cs
  rw [Option.mem_def.1 h] at hnot
  exact hnot

theorem trim_prefix_trimStart (cs : List Char) : trim cs <+: trimStart cs :=
  List.rdropWhile_prefix _ _

theorem trim_sublist (cs : List Char) : (trim cs).Sublist cs :=
  (trim_prefix_trimStart cs).sublist.trans (List.dropWhile_sublist _)

theorem isTrimmed_trim (cs : List Char) : IsTrimmed (trim cs) where
  starts := by
    intro c hc
    obtain ⟨after, he⟩ := trim_prefix_trimStart cs
    have hstart : c ∈ (cs.dropWhile isBlank).head? := by
      rw [← trimStart, ← he, List.head?_append, Option.mem_def.1 hc]
      rfl
    exact isBlank_head?_dropWhile hstart
  ends := by
    intro c hc
    rw [trim, trimEnd, List.getLast?_reverse] at hc
    exact isBlank_head?_dropWhile hc

/-- There is nothing to trim. -/
theorem IsTrimmed.trim_eq (h : IsTrimmed cs) : trim cs = cs := by
  have hstart : trimStart cs = cs := by
    cases cs with
    | nil => rfl
    | cons c cs => rw [trimStart, List.dropWhile_cons, h.starts c rfl]; rfl
  have hend : trimEnd cs = cs := by
    rw [trimEnd]
    cases hr : cs.reverse with
    | nil => rw [List.reverse_eq_nil_iff.1 hr]; rfl
    | cons c r =>
      have hlast : cs.getLast? = some c := by rw [List.getLast?_eq_head?_reverse, hr]; rfl
      rw [List.dropWhile_cons, h.ends c hlast, ← hr]
      exact List.reverse_reverse cs
  rw [trim, hstart, hend]

theorem trim_trim (cs : List Char) : trim (trim cs) = trim cs := (isTrimmed_trim cs).trim_eq

theorem mem_dropWhile {p : Char → Bool} {c : Char} {cs : List Char} (hc : c ∈ cs)
    (hp : p c = false) : c ∈ cs.dropWhile p := by
  rw [← List.takeWhile_append_dropWhile (p := p) (l := cs)] at hc
  rcases List.mem_append.1 hc with hc | hc
  · have htrue : p c = true := List.all_eq_true.1 List.all_takeWhile c hc
    rw [hp] at htrue
    cases htrue
  · exact hc

/-- Trimming removes blanks alone. -/
theorem mem_trim {c : Char} {cs : List Char} (hc : c ∈ cs) (hb : isBlank c = false) :
    c ∈ trim cs :=
  List.mem_reverse.2 (mem_dropWhile (List.mem_reverse.2 (mem_dropWhile hc hb)) hb)

/-! ## The end of a text -/

theorem trimEnd_append_of_eq_nil {xs ys : List Char} (h : trimEnd ys = []) :
    trimEnd (xs ++ ys) = trimEnd xs := by
  have hy : ys.reverse.dropWhile isBlank = [] := List.reverse_eq_nil_iff.1 h
  rw [trimEnd, List.reverse_append, List.dropWhile_append, hy]
  rfl

theorem trimEnd_append_of_ne_nil {xs ys : List Char} (h : trimEnd ys ≠ []) :
    trimEnd (xs ++ ys) = xs ++ trimEnd ys := by
  have hy : (ys.reverse.dropWhile isBlank).isEmpty = false := by
    cases hr : ys.reverse.dropWhile isBlank with
    | nil => exact absurd (List.reverse_eq_nil_iff.2 hr) h
    | cons _ _ => rfl
  rw [trimEnd, List.reverse_append, List.dropWhile_append, hy, trimEnd]
  simp

theorem trimEnd_cons_visible {c : Char} (h : isBlank c = false) (cs : List Char) :
    trimEnd (c :: cs) = c :: trimEnd cs := by
  by_cases hc : trimEnd cs = []
  · rw [← List.singleton_append, trimEnd_append_of_eq_nil hc, hc, trimEnd]
    simp [h]
  · exact @trimEnd_append_of_ne_nil [c] cs hc

theorem trimEnd_feed_of_eq_nil {cs : List Char} (h : trimEnd cs = []) :
    trimEnd ('\n' :: cs) = [] :=
  @trimEnd_append_of_eq_nil ['\n'] cs h

theorem trimEnd_feed_of_ne_nil {cs : List Char} (h : trimEnd cs ≠ []) :
    trimEnd ('\n' :: cs) = '\n' :: trimEnd cs :=
  @trimEnd_append_of_ne_nil ['\n'] cs h

theorem mem_of_mem_trimEnd {c : Char} {cs : List Char} (h : c ∈ trimEnd cs) : c ∈ cs :=
  List.mem_reverse.1 ((List.dropWhile_sublist _).subset (List.mem_reverse.1 h))

end NormalForms.Text
