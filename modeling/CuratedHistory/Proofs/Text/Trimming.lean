import Mathlib
import CuratedHistory.Text.Basic

namespace CuratedHistory.Text

/-! What trimming and lower case leave behind. -/

variable {text start tail : Text}

/-- Something stands in the text, and no blank character at either end. -/
structure Trimmed (text : Text) : Prop where
  nonempty : text ≠ []
  first : ∀ c ∈ text.head?, isBlank c = false
  last : ∀ c ∈ text.getLast?, isBlank c = false

theorem trimStart_head (text : Text) : ∀ c ∈ (trimStart text).head?, isBlank c = false := by
  intro c isFirst
  have first := List.head?_dropWhile_not isBlank text
  rw [Option.mem_def, trimStart] at isFirst
  rwa [isFirst] at first

theorem trimEnd_getLast (text : Text) : ∀ c ∈ (trimEnd text).getLast?, isBlank c = false := by
  intro c isLast
  rw [trimEnd, List.getLast?_reverse] at isLast
  exact trimStart_head text.reverse c isLast

theorem trimEnd_isPrefix (text : Text) : trimEnd text <+: text := by
  have suffix := List.dropWhile_suffix (l := text.reverse) isBlank
  simpa only [trimEnd, List.reverse_reverse] using List.reverse_prefix.mpr suffix

/-- Cutting at the end keeps the first character, unless nothing is left. -/
theorem trimEnd_head (left : trimEnd text ≠ []) : (trimEnd text).head? = text.head? := by
  obtain ⟨cut, whole⟩ := trimEnd_isPrefix text
  obtain ⟨c, rest, shape⟩ := List.exists_cons_of_ne_nil left
  rw [shape] at whole
  rw [shape, ← whole]
  rfl

theorem trim_trimmed (left : trim text ≠ []) : (trim text).Trimmed where
  nonempty := left
  first := by
    intro c isFirst
    rw [trim, trimEnd_head left] at isFirst
    exact trimStart_head text c isFirst
  last := trimEnd_getLast (trimStart text)

theorem nonBlank?_trimmed {kept : Text} (found : nonBlank? text = some kept) :
    kept.Trimmed := by
  simp only [nonBlank?] at found
  split at found
  · contradiction
  · rename_i left
    cases found
    exact trim_trimmed left

theorem exists_blank_append_trimStart (text : Text) :
    ∃ start, (∀ c ∈ start, isBlank c = true) ∧ text = start ++ trimStart text :=
  ⟨text.takeWhile isBlank, fun _ => List.mem_takeWhile_imp, List.takeWhile_append_dropWhile.symm⟩

theorem trimStart_eq_self (first : ∀ c ∈ text.head?, isBlank c = false) : trimStart text = text := by
  cases text with
  | nil => rfl
  | cons c rest => exact List.dropWhile_cons_of_neg (by simp [first c rfl])

theorem trimEnd_eq_self (last : ∀ c ∈ text.getLast?, isBlank c = false) : trimEnd text = text := by
  have reversed : trimStart text.reverse = text.reverse :=
    trimStart_eq_self (by simpa only [List.head?_reverse] using last)
  rw [trimEnd, ← trimStart, reversed, List.reverse_reverse]

theorem Trimmed.trim_eq (trimmed : text.Trimmed) : trim text = text := by
  rw [trim, trimStart_eq_self trimmed.first, trimEnd_eq_self trimmed.last]

theorem trimEnd_cons {c : Char} (solid : isBlank c = false) (rest : Text) :
    trimEnd (c :: rest) = c :: trimEnd rest := by
  rw [trimEnd, trimEnd, List.reverse_cons, List.dropWhile_append]
  cases kept : rest.reverse.dropWhile isBlank <;> simp [solid]

theorem trimEnd_append_blank (blank : ∀ c ∈ tail, isBlank c = true) :
    trimEnd (text ++ tail) = trimEnd text := by
  rw [trimEnd, List.reverse_append, List.dropWhile_append_of_pos (by simpa using blank), trimEnd]

theorem trim_blank_append (blank : ∀ c ∈ start, isBlank c = true) :
    trim (start ++ text) = trim text := by
  rw [trim, trimStart, List.dropWhile_append_of_pos blank, trim, trimStart]

theorem trimStart_append (text tail : Text) : trimStart (text ++ tail) =
    if (trimStart text).isEmpty then trimStart tail else trimStart text ++ tail :=
  List.dropWhile_append

theorem trim_append_blank (blank : ∀ c ∈ tail, isBlank c = true) :
    trim (text ++ tail) = trim text := by
  rw [trim, trimStart_append]
  cases kept : trimStart text with
  | nil =>
      have nothing : trimStart tail = [] := List.dropWhile_eq_nil_iff.2 blank
      simp [trim, kept, nothing]
  | cons c rest =>
      rw [List.isEmpty_cons, if_neg Bool.false_ne_true, trimEnd_append_blank blank, trim, kept]

theorem trim_isInfix (text : Text) : trim text <:+: text :=
  (trimEnd_isPrefix (trimStart text)).isInfix.trans (List.dropWhile_suffix isBlank).isInfix

theorem Trimmed.append (trimmed : text.Trimmed) (something : start ≠ [])
    (first : ∀ c ∈ start.head?, isBlank c = false) : (start ++ text).Trimmed where
  nonempty := List.append_ne_nil_of_left_ne_nil something text
  first := by rwa [List.head?_append_of_ne_nil _ something]
  last := by rw [List.getLast?_append_of_ne_nil _ trimmed.nonempty]; exact trimmed.last

theorem Trimmed.nonBlank?_eq (trimmed : text.Trimmed) : nonBlank? text = some text := by
  rw [nonBlank?, trimmed.trim_eq, if_neg trimmed.nonempty]

theorem nonBlank?_isInfix {kept : Text} (found : nonBlank? text = some kept) : kept <:+: text := by
  simp only [nonBlank?] at found
  split at found
  · contradiction
  · cases found
    exact trim_isInfix text

theorem nonBlank?_blank_append (blank : ∀ c ∈ start, isBlank c = true) :
    nonBlank? (start ++ text) = nonBlank? text := by
  rw [nonBlank?, trim_blank_append blank, nonBlank?]

theorem trimEnd_append (text tail : Text) : trimEnd (text ++ tail) =
    if (trimEnd tail).isEmpty then trimEnd text else text ++ trimEnd tail := by
  rw [trimEnd, List.reverse_append, List.dropWhile_append, trimEnd]
  by_cases nothing : tail.reverse.dropWhile isBlank = []
  · simp [nothing, trimEnd]
  · simp [nothing]

/-- A word without blanks stays whole, whatever is cut off behind it. -/
theorem trimEnd_solid_append (solid : ∀ c ∈ text, isBlank c = false) (tail : Text) :
    trimEnd (text ++ tail) = text ++ trimEnd tail := by
  rw [trimEnd_append]
  split
  · rename_i nothing
    rw [List.isEmpty_iff.mp nothing, List.append_nil]
    exact trimEnd_eq_self fun c isLast => solid c (List.mem_of_getLast? isLast)
  · rfl

theorem trimStart_trimEnd (text : Text) : trimStart (trimEnd text) = trim text := by
  obtain ⟨start, blank, split⟩ := exists_blank_append_trimStart text
  have cut : ∀ body : Text, trimStart (start ++ body) = trimStart body :=
    fun _ => List.dropWhile_append_of_pos blank
  conv_lhs => rw [split, trimEnd_append]
  rw [trim]
  split
  · rename_i nothing
    rw [List.isEmpty_iff.mp nothing]
    exact List.dropWhile_eq_nil_iff.mpr fun c member => blank c ((trimEnd_isPrefix start).subset member)
  · rename_i something
    rw [cut]
    refine trimStart_eq_self ?_
    rw [trimEnd_head (by simpa using something)]
    exact trimStart_head text

@[simp] theorem lower_lower (text : Text) : lower (lower text) = lower text := by
  simp [lower, Function.comp_def]

end CuratedHistory.Text
