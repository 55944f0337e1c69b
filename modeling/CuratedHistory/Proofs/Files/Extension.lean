import Mathlib.Data.List.TakeWhile
import CuratedHistory.Proofs.Files.Path
import CuratedHistory.Proofs.Files.Touching

namespace CuratedHistory.Path

/-! Paths whose extension is replaced. The extension is taken off from the end of the path, where
separators and single dots can stand behind it, and the name is read again from what is left. -/

variable {path front stem extension part behind kept text name : Text} {c : Char}

theorem trimReversed_suffix (text : Text) : trimReversed text <:+ text := by
  fun_induction trimReversed text with
  | case1 => exact List.suffix_refl _
  | case2 rest _ ih => exact ih.trans (List.suffix_cons '/' rest)
  | case3 rest ih => exact ih.trans (List.suffix_cons '.' ('/' :: rest))
  | case4 => exact List.suffix_refl _

theorem trimReversed_tail (cut : trimReversed (c :: text) = kept) (shorter : kept.length ≤ text.length) :
    trimReversed text = kept := by
  unfold trimReversed at cut
  split at cut
  case h_1 root =>
      rw [← cut] at shorter
      simp [(List.cons.inj root).2] at shorter
  case h_2 slash => rwa [(List.cons.inj slash).2]
  case h_3 dot => rwa [(List.cons.inj dot).2]
  case h_4 =>
      rw [← cut, List.length_cons] at shorter
      omega

/-- What is cut off at the end is cut off as well if some of it is missing. -/
theorem trimReversed_drop (cut : trimReversed (behind ++ kept) = kept) (count : Nat) :
    trimReversed (behind.drop count ++ kept) = kept := by
  induction count generalizing behind with
  | zero => exact cut
  | succ count ih =>
      cases behind with
      | nil => exact cut
      | cons c behind => exact ih (trimReversed_tail cut (by simp))

/-- The text is empty, or names a directory by a separator at its end. -/
def IsDirectory (front : Text) : Prop :=
  front = [] ∨ ∃ before, front = before ++ ['/']

theorem isDirectory_iff : IsDirectory path ↔ lastPiece path = [] := by
  constructor
  · rintro (rfl | ⟨before, rfl⟩)
    · rfl
    · simp [lastPiece]
  · intro nothing
    cases reversed : path.reverse with
    | nil => exact .inl (List.reverse_eq_nil_iff.mp reversed)
    | cons c before =>
        rw [List.reverse_eq_cons_iff] at reversed
        subst reversed
        have slash : c = '/' := by simpa [lastPiece] using nothing
        exact .inr ⟨before.reverse, by rw [slash]⟩

theorem IsDirectory.earlierReversed_eq (isDirectory : IsDirectory front) :
    earlierReversed front = front.reverse := by
  obtain rfl | ⟨before, rfl⟩ := isDirectory
  · rfl
  · simp [earlierReversed]

theorem IsDirectory.splitReversed_append (isDirectory : IsDirectory front) (noSlash : '/' ∉ name)
    (long : 2 ≤ name.length) : splitReversed (front ++ name) = (name.reverse, front.reverse) := by
  rw [Path.splitReversed_append noSlash long, isDirectory_iff.mp isDirectory, isDirectory.earlierReversed_eq,
    List.nil_append]

/-- A path with an extension, in pieces: what stands up to the last separator that counts, the stem
and the extension of the name, and what stands behind it and does not count. -/
structure Pieces (path front stem extension behind : Text) : Prop where
  whole : path = front ++ (stem ++ '.' :: extension) ++ behind
  directory : IsDirectory front
  stemmed : stem ≠ []
  noSlash : '/' ∉ stem
  isExtension : IsExtension extension
  uncounted : trimReversed path.reverse = (stem ++ '.' :: extension).reverse ++ front.reverse

theorem splitReversed_fst (named : fileName? path = some name) : (splitReversed path).1 = name.reverse := by
  unfold fileName? at named
  split at named
  · contradiction
  · contradiction
  · contradiction
  · rw [← Option.some.inj named, List.reverse_reverse]

theorem exists_stem (found : (splitName name).2 = some extension) :
    ∃ stem, name = stem ++ '.' :: extension ∧ stem ≠ [] ∧ '.' ∉ extension := by
  have joined := Text.splitAtFirst_join (· == '.') name.reverse
  have inside : ∀ c ∈ (Text.splitAtFirst (· == '.') name.reverse).1, c ≠ '.' := by
    intro c member
    simpa using List.mem_takeWhile_imp member
  have dot := List.head?_dropWhile_not (fun c => !(c == '.')) name.reverse
  unfold splitName at found
  split at found
  case h_1 => contradiction
  case h_2 => contradiction
  case h_3 last c stem something cut =>
    have behind : name.reverse.dropWhile (fun c => !(c == '.')) = c :: stem := congrArg Prod.snd cut
    rw [cut] at joined inside
    rw [behind] at dot
    have isDot : c = '.' := by simpa using dot
    have same : last.reverse = extension := Option.some.inj found
    refine ⟨stem.reverse, ?_, ?_, ?_⟩
    · rw [← same, ← isDot, ← List.reverse_inj, ← joined]
      simp
    · rintro nothing
      rw [List.reverse_eq_nil_iff] at nothing
      subst nothing
      exact something rfl
    · rw [← same, List.mem_reverse]
      exact fun member => inside '.' member rfl

theorem exists_pieces (found : extension? path = some extension) (something : extension ≠ []) :
    ∃ front stem behind, Pieces path front stem extension behind := by
  obtain ⟨name, named, split⟩ := Option.bind_eq_some_iff.mp found
  obtain ⟨stem, rfl, stemmed, noDot⟩ := exists_stem split
  have piece := splitReversed_fst named
  have joined := Text.splitAtFirst_join (· == '/') (trimReversed path.reverse)
  have inside : ∀ c ∈ (splitReversed path).1, c ≠ '/' := by
    intro c member
    simpa using List.mem_takeWhile_imp member
  have stops := List.head?_dropWhile_not (fun c => !(c == '/')) (trimReversed path.reverse)
  rw [← splitReversed, piece] at joined
  rw [piece] at inside
  have noSlash : '/' ∉ stem ++ '.' :: extension := fun member => inside '/' (List.mem_reverse.mpr member) rfl
  rw [List.mem_append, List.mem_cons, not_or, not_or] at noSlash
  obtain ⟨behind, whole⟩ := trimReversed_suffix path.reverse
  refine ⟨(splitReversed path).2.reverse, stem, behind.reverse, ?_, ?_, stemmed, noSlash.1,
    ⟨something, noDot, noSlash.2.2⟩, ?_⟩
  · rw [← joined] at whole
    rw [← List.reverse_inj, ← whole]
    simp
  · cases rest : (splitReversed path).2 with
    | nil => exact .inl rfl
    | cons c before =>
        have same : (trimReversed path.reverse).dropWhile (fun c => !(c == '/')) = c :: before := rest
        rw [same] at stops
        have slash : c = '/' := by simpa using stops
        exact .inr ⟨before.reverse, by rw [slash, List.reverse_cons]⟩
  · rw [List.reverse_reverse, joined]

theorem eq_dots_iff (stemmed : stem ≠ []) :
    stem ++ '.' :: part = ['.', '.'] ↔ stem = ['.'] ∧ part = [] := by
  obtain ⟨c, rest, rfl⟩ := List.exists_cons_of_ne_nil stemmed
  cases rest <;> simp

theorem fileName?_of_split (split : splitReversed path = ((stem ++ '.' :: part).reverse, front.reverse))
    (stemmed : stem ≠ []) :
    fileName? path = if stem = ['.'] ∧ part = [] then none else some (stem ++ '.' :: part) := by
  unfold fileName?
  rw [split, List.reverse_reverse]
  split
  case h_1 nothing => simp at nothing
  case h_2 dot =>
      obtain ⟨c, rest, rfl⟩ := List.exists_cons_of_ne_nil stemmed
      simp at dot
  case h_3 dots => rw [if_pos ((eq_dots_iff stemmed).mp dots)]
  case h_4 notDots => rw [if_neg fun both => notDots ((eq_dots_iff stemmed).mpr both)]

/-- A name that ends anywhere in its extension has the same stem, unless it is only dots. -/
theorem upToStem?_of_split (split : splitReversed path = ((stem ++ '.' :: part).reverse, front.reverse))
    (stemmed : stem ≠ []) (noDot : '.' ∉ part) :
    upToStem? path = if stem = ['.'] ∧ part = [] then none else some (front ++ stem) := by
  unfold upToStem?
  rw [fileName?_of_split split stemmed]
  split_ifs
  · rfl
  · simp only [Option.map_some, split, splitName_append noDot, if_neg stemmed, List.reverse_reverse]

theorem two_le_length (stemmed : stem ≠ []) (part : Text) : 2 ≤ (stem ++ '.' :: part).length := by
  have one := List.length_pos_iff.mpr stemmed
  simp only [List.length_append, List.length_cons]
  omega

namespace Pieces

variable (pieces : Pieces path front stem extension behind)
include pieces

theorem slash_notMem : '/' ∉ stem ++ '.' :: extension := by
  simp [pieces.noSlash, pieces.isExtension.noSlash]

theorem splitReversed_eq : splitReversed path = ((stem ++ '.' :: extension).reverse, front.reverse) := by
  have same : trimReversed (front ++ (stem ++ '.' :: extension)).reverse = trimReversed path.reverse := by
    have cut := pieces.uncounted
    rw [pieces.whole, List.reverse_append, List.reverse_append] at cut
    have all := trimReversed_drop cut behind.reverse.length
    rw [List.drop_length, List.nil_append] at all
    rw [pieces.uncounted, List.reverse_append, all]
  rw [splitReversed, ← same, ← splitReversed,
    pieces.directory.splitReversed_append pieces.slash_notMem (two_le_length pieces.stemmed extension)]

theorem fileName?_eq : fileName? path = some (stem ++ '.' :: extension) := by
  rw [fileName?_of_split pieces.splitReversed_eq pieces.stemmed,
    if_neg fun both => pieces.isExtension.something both.2]

/-- Another name in its place lies in the same directory. -/
theorem parent?_append (noSlash : '/' ∉ name) (long : 2 ≤ name.length) :
    parent? (front ++ name) = parent? path := by
  have something : name.reverse ≠ [] := by
    rintro nothing
    rw [List.reverse_eq_nil_iff] at nothing
    simp [nothing] at long
  rw [parent?_of_split (pieces.directory.splitReversed_append noSlash long) something,
    parent?_of_split pieces.splitReversed_eq (by simp)]

/-- The path without as many characters at its end as its extension has: the name is all there if
enough stands behind it, else the end of the extension is missing. -/
theorem splitReversed_take : splitReversed (path.take (path.length - extension.length)) =
    ((stem ++ '.' :: extension.take behind.length).reverse, front.reverse) := by
  have left : path.take (path.length - extension.length) =
      front ++ (stem ++ ['.']) ++ (extension ++ behind).take behind.length := by
    have spelled : path = front ++ (stem ++ ['.']) ++ (extension ++ behind) := by
      rw [pieces.whole]
      simp
    have count : path.length - extension.length = (front ++ (stem ++ ['.'])).length + behind.length := by
      rw [spelled]
      simp only [List.length_append]
      omega
    rw [count, spelled, List.take_length_add_append]
  rcases Nat.lt_or_ge behind.length extension.length with missing | enough
  · have noSlash : '/' ∉ stem ++ '.' :: extension.take behind.length := by
      have noSlash : '/' ∉ extension.take behind.length :=
        fun member => pieces.isExtension.noSlash (List.mem_of_mem_take member)
      simp [pieces.noSlash, noSlash]
    rw [left, List.take_append_of_le_length missing.le]
    simpa using pieces.directory.splitReversed_append noSlash (two_le_length pieces.stemmed _)
  · rw [left, List.take_append, List.take_of_length_le enough, ← pieces.splitReversed_eq]
    have cut := pieces.uncounted
    rw [pieces.whole, List.reverse_append, List.reverse_append] at cut
    have some := trimReversed_drop cut (behind.length - (behind.length - extension.length))
    rw [← List.reverse_take] at some
    rw [splitReversed, splitReversed, pieces.uncounted, ← some]
    simp

theorem extension?_eq : extension? path = some extension := by
  rw [extension?, pieces.fileName?_eq, Option.bind_some, splitName_append pieces.isExtension.noDot,
    if_neg pieces.stemmed]

/-- The stem stays and gets another extension, except that a single dot makes two with the dot of
the extension, and two dots are no name. -/
theorem withExtension_eq (other : Text) :
    withExtension other path =
      if stem = ['.'] ∧ behind = [] then front ++ ['.', '.'] else front ++ (stem ++ '.' :: other) := by
  have noDot : '.' ∉ extension.take behind.length :=
    fun member => pieces.isExtension.noDot (List.mem_of_mem_take member)
  have nothing : extension.take behind.length = [] ↔ behind = [] := by
    simp [List.take_eq_nil_iff, pieces.isExtension.something]
  have stem? := upToStem?_of_split pieces.splitReversed_take pieces.stemmed noDot
  simp only [nothing] at stem?
  simp only [withExtension, pieces.extension?_eq, stem?]
  by_cases dots : stem = ['.'] ∧ behind = []
  · obtain ⟨rfl, rfl⟩ := dots
    have spelled : path = (front ++ ['.', '.']) ++ extension := by
      rw [pieces.whole]
      simp
    rw [if_pos ⟨rfl, rfl⟩, if_pos ⟨rfl, rfl⟩, spelled, List.length_append, Nat.add_sub_cancel,
      List.take_left]
  · simp only [if_neg dots, List.append_assoc]

end Pieces

/-- A name with an extension at the end of a path is told from nothing that stands behind it. -/
theorem Pieces.of_append (isDirectory : IsDirectory front) (stemmed : stem ≠ []) (noSlash : '/' ∉ stem)
    (isExtension : IsExtension extension) :
    Pieces (front ++ (stem ++ '.' :: extension)) front stem extension [] where
  whole := (List.append_nil _).symm
  directory := isDirectory
  stemmed := stemmed
  noSlash := noSlash
  isExtension := isExtension
  uncounted := by
    obtain ⟨before, last, rfl⟩ := (List.eq_nil_or_concat extension).resolve_left isExtension.something
    have member : last ∈ before.concat last := by simp
    have noSlash : last ≠ '/' := fun slash => isExtension.noSlash (slash ▸ member)
    have noDot : last ≠ '.' := fun dot => isExtension.noDot (dot ▸ member)
    rw [← List.reverse_append]
    apply trimReversed_eq_self
    · simp [noSlash]
    · simp [noDot]

/-- An extension that no name stands before is the name, and gets the other one behind it. -/
theorem withExtension_hidden (isDirectory : IsDirectory front) (isExtension : IsExtension extension)
    (other : Text) :
    withExtension other (front ++ '.' :: extension) = front ++ ('.' :: extension ++ '.' :: other) := by
  have noSlash : '/' ∉ '.' :: extension := by simp [isExtension.noSlash]
  have long : 2 ≤ ('.' :: extension).length := by
    have one := List.length_pos_iff.mpr isExtension.something
    simp only [List.length_cons]
    omega
  have none := isExtension.extension?_append front
  rw [if_pos (isDirectory_iff.mp isDirectory)] at none
  have name := isExtension.fileName?_append front
  rw [isDirectory_iff.mp isDirectory, List.nil_append] at name
  have stem := splitName_append isExtension.noDot []
  rw [if_pos rfl, List.nil_append] at stem
  simp only [withExtension, none, upToStem?, name, Option.map_some, stem,
    isDirectory.splitReversed_append noSlash long, List.reverse_reverse, List.append_assoc]

end CuratedHistory.Path

namespace CuratedHistory.FileSystem

open CuratedHistory.Path

variable {files : FileSystem} {location : Location} {path front name stem extension behind : Text}

/-- The steps that a path asks for. -/
def steps (path : Text) : List Text :=
  (Text.pieces '/' path).filter (· ≠ [])

theorem steps_append_stop (front back : Text) : steps (front ++ '/' :: back) = steps front ++ steps back := by
  rw [steps, Text.pieces_append_stop, List.filter_append, steps, steps]

theorem steps_name (noSlash : '/' ∉ name) (something : name ≠ []) : steps name = [name] := by
  rw [steps, Text.pieces_of_notMem noSlash]
  simp [something]

@[simp] theorem advance_dot (location : Location) : advance location ['.'] = location :=
  if_pos rfl

theorem advance_parent (location : Location) : advance location ['.', '.'] = location.dropLast :=
  (if_neg (by decide)).trans (if_pos rfl)

theorem place_eq (files : FileSystem) (path : Text) : files.place path =
    (steps path).foldl advance (if path.head? = some '/' then [] else files.workingDirectory) := by
  unfold place pathPieces
  rw [List.foldl_append, ← steps]
  split_ifs <;> simp

theorem place_append (isDirectory : IsDirectory front) (noSlash : '/' ∉ name) (something : name ≠ []) :
    files.place (front ++ name) = advance (files.place front) name := by
  obtain rfl | ⟨before, rfl⟩ := isDirectory
  · have relative : name.head? ≠ some '/' := fun slash => noSlash (List.mem_of_head? slash)
    rw [List.nil_append, place_eq, place_eq, steps_name noSlash something, if_neg relative]
    rfl
  · have start : (before ++ ['/'] ++ name).head? = (before ++ ['/']).head? := by
      cases before <;> rfl
    rw [place_eq, place_eq, start, List.append_assoc, List.singleton_append, steps_append_stop,
      steps_append_stop, steps_name noSlash something, List.foldl_append, List.foldl_append]
    rfl

/-- A name that is more than dots leads one step down. -/
theorem place_append_name (isDirectory : IsDirectory front) (noSlash : '/' ∉ name) (long : 2 ≤ name.length)
    (notDots : name ≠ ['.', '.']) : files.place (front ++ name) = files.place front ++ [name] := by
  have something : name ≠ [] := by
    rintro rfl
    simp at long
  have notDot : name ≠ ['.'] := by
    rintro rfl
    simp at long
  rw [place_append isDirectory noSlash something, advance, if_neg notDot, if_neg notDots]

theorem place_concat_slash (something : path ≠ []) : files.place (path ++ ['/']) = files.place path := by
  obtain ⟨c, rest, rfl⟩ := List.exists_cons_of_ne_nil something
  rw [place_eq, place_eq, steps_append_stop, List.foldl_append]
  rfl

/-- What does not count at the end of a path leads nowhere. -/
theorem place_trimReversed (files : FileSystem) (reversed : Text) :
    files.place (trimReversed reversed).reverse = files.place reversed.reverse := by
  fun_induction trimReversed reversed with
  | case1 => rfl
  | case2 rest notRoot ih =>
      have something : rest.reverse ≠ [] := by
        rw [ne_eq, List.reverse_eq_nil_iff]
        exact notRoot
      rw [ih, List.reverse_cons, place_concat_slash something]
  | case3 rest ih =>
      have isDirectory : IsDirectory ('/' :: rest).reverse := .inr ⟨rest.reverse, List.reverse_cons⟩
      have whole : ('.' :: '/' :: rest).reverse = ('/' :: rest).reverse ++ ['.'] := List.reverse_cons
      rw [ih, whole, place_append isDirectory (by decide) (by decide), advance_dot]
  | case4 => rfl

theorem place_of_pieces (pieces : Pieces path front stem extension behind) :
    files.place path = files.place front ++ [stem ++ '.' :: extension] := by
  have trimmed := place_trimReversed files path.reverse
  rw [pieces.uncounted, List.reverse_reverse, ← List.reverse_append, List.reverse_reverse] at trimmed
  rw [← trimmed, place_append_name pieces.directory pieces.slash_notMem
    (two_le_length pieces.stemmed extension)
    fun dots => pieces.isExtension.something ((eq_dots_iff pieces.stemmed).mp dots).2]

end CuratedHistory.FileSystem
