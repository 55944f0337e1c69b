import CuratedHistory.Files.Path
import CuratedHistory.Proofs.Text.Splitting

namespace CuratedHistory.Path

/-! Paths that an extension is added to, character for character. What stands after the
last separator decides whether the result has this extension, and where it lies. -/

variable {path name stem extension : Text}

/-- What stands after the last separator, a single dot included. -/
def lastPiece (path : Text) : Text :=
  (path.reverse.takeWhile (· ≠ '/')).reverse

/-- What stands up to the last separator, last character first. -/
def earlierReversed (path : Text) : Text :=
  path.reverse.dropWhile (· ≠ '/')

/-- Nothing is cut off at the end of a name. -/
theorem trimReversed_eq_self {reversed : Text} (noSlash : reversed.head? ≠ some '/')
    (noDot : reversed.take 2 ≠ ['.', '/']) : trimReversed reversed = reversed := by
  unfold trimReversed
  split
  · rfl
  · simp at noSlash
  · simp at noDot
  · rfl

theorem splitReversed_of_kept (kept : trimReversed path.reverse = path.reverse) :
    splitReversed path = ((lastPiece path).reverse, earlierReversed path) := by
  have same : (fun c : Char => !(c == '/')) = (fun c => decide (c ≠ '/')) := by
    funext c
    by_cases slash : c = '/' <;> simp [slash]
  rw [splitReversed, kept, Text.splitAtFirst, same, lastPiece, earlierReversed, List.reverse_reverse]

theorem splitReversed_of_plain (something : lastPiece path ≠ []) (noDot : lastPiece path ≠ ['.']) :
    splitReversed path = ((lastPiece path).reverse, earlierReversed path) := by
  apply splitReversed_of_kept
  unfold lastPiece at something noDot
  generalize path.reverse = reversed at something noDot ⊢
  apply trimReversed_eq_self
  · intro slash
    obtain ⟨rest, rfl⟩ := List.head?_eq_some_iff.mp slash
    simp at something
  · intro dot
    match reversed, dot with
    | c :: d :: rest, dot =>
        simp only [List.take_succ_cons, List.take_zero, List.cons.injEq, and_true] at dot
        obtain ⟨rfl, rfl⟩ := dot
        simp at noDot

section Append

variable (noSlash : '/' ∉ name)
include noSlash

theorem passes : ∀ c ∈ name.reverse, decide (c ≠ '/') = true :=
  Text.forall_ne_of_notMem fun member => noSlash (List.mem_reverse.mp member)

theorem lastPiece_append (path : Text) : lastPiece (path ++ name) = lastPiece path ++ name := by
  rw [lastPiece, List.reverse_append, List.takeWhile_append_of_pos (passes noSlash),
    List.reverse_append, List.reverse_reverse, lastPiece]

theorem earlierReversed_append (path : Text) :
    earlierReversed (path ++ name) = earlierReversed path := by
  rw [earlierReversed, List.reverse_append, List.dropWhile_append_of_pos (passes noSlash), earlierReversed]

theorem splitReversed_append (long : 2 ≤ name.length) (path : Text) :
    splitReversed (path ++ name) = ((lastPiece path ++ name).reverse, earlierReversed path) := by
  have plain : lastPiece (path ++ name) ≠ [] ∧ lastPiece (path ++ name) ≠ ['.'] := by
    rw [lastPiece_append noSlash]
    constructor
    · intro nothing
      rw [(List.append_eq_nil_iff.mp nothing).2] at long
      simp at long
    · intro dot
      have length := congrArg List.length dot
      simp only [List.length_append, List.length_singleton] at length
      omega
  rw [splitReversed_of_plain plain.1 plain.2, lastPiece_append noSlash, earlierReversed_append noSlash]

end Append

theorem parent?_of_split {piece earlier : Text} (split : splitReversed path = (piece, earlier))
    (something : piece ≠ []) :
    parent? path = if earlier = [] then some [] else some (trimReversed earlier).reverse := by
  obtain ⟨c, rest, rfl⟩ := List.exists_cons_of_ne_nil something
  unfold parent?
  rw [split]
  cases earlier <;> simp

/-- A name that grows at its end stays where it is. -/
theorem parent?_append (noSlash : '/' ∉ name) (long : 2 ≤ name.length)
    (something : lastPiece path ≠ []) (noDot : lastPiece path ≠ ['.']) :
    parent? (path ++ name) = parent? path := by
  have grown := splitReversed_append noSlash long path
  rw [parent?_of_split (splitReversed_of_plain something noDot) (by simpa using something),
    parent?_of_split grown (by simp [something])]

/-- A name is cut at its last dot, if anything stands before it. -/
theorem splitName_append (noDot : '.' ∉ extension) (stem : Text) :
    splitName (stem ++ '.' :: extension) =
      if stem = [] then ('.' :: extension, none) else (stem, some extension) := by
  have inside : ∀ c ∈ extension.reverse, (c == '.') = false := by
    intro c member
    rw [beq_eq_false_iff_ne]
    rintro rfl
    exact noDot (List.mem_reverse.mp member)
  have cut : Text.splitAtFirst (· == '.') (stem ++ '.' :: extension).reverse =
      (extension.reverse, '.' :: stem.reverse) := by
    rw [List.reverse_append, List.reverse_cons, List.append_assoc, List.singleton_append]
    exact Text.splitAtFirst_append inside (by simp)
  unfold splitName
  rw [cut]
  cases reversed : stem.reverse with
  | nil =>
      rw [List.reverse_eq_nil_iff] at reversed
      rw [if_pos reversed, reversed]
      rfl
  | cons c earlier =>
      have something : stem ≠ [] := by
        rintro rfl
        cases reversed
      have same : (c :: earlier).reverse = stem := by rw [← reversed, List.reverse_reverse]
      simp only [if_neg something, same, List.reverse_reverse]

/-- An extension: a dot, and after it no further dot and no separator. -/
structure IsExtension (extension : Text) : Prop where
  something : extension ≠ []
  noDot : '.' ∉ extension
  noSlash : '/' ∉ extension

namespace IsExtension

variable (isExtension : IsExtension extension)
include isExtension

theorem fileName?_append (path : Text) :
    fileName? (path ++ '.' :: extension) = some (lastPiece path ++ '.' :: extension) := by
  have noSlash : '/' ∉ '.' :: extension := by simp [isExtension.noSlash]
  have long : 2 ≤ ('.' :: extension).length := by
    have one := List.length_pos_iff.mpr isExtension.something
    simp only [List.length_cons]
    omega
  have whole : 2 ≤ (lastPiece path ++ '.' :: extension).length := by
    rw [List.length_append]
    omega
  unfold fileName?
  rw [splitReversed_append noSlash long]
  simp only [List.reverse_reverse]
  split
  case h_1 nothing => rw [nothing] at whole; simp at whole
  case h_2 dot => rw [dot] at whole; simp at whole
  case h_3 dots =>
    -- The second dot would be the last character of the extension.
    have length := congrArg List.length dots
    have first : lastPiece path = [] := by
      apply List.eq_nil_of_length_eq_zero
      simp only [List.length_append, List.length_cons, List.length_nil] at length long
      omega
    rw [first, List.nil_append, List.cons.injEq] at dots
    exact absurd (dots.2 ▸ List.mem_singleton_self '.') isExtension.noDot
  case h_4 => rfl

/-- The added extension counts unless there was no name to add it to. -/
theorem extension?_append (path : Text) :
    extension? (path ++ '.' :: extension) = if lastPiece path = [] then none else some extension := by
  rw [extension?, fileName?_append isExtension, Option.bind_some, splitName_append isExtension.noDot]
  split <;> rfl

end IsExtension

end CuratedHistory.Path
