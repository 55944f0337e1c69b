import Mathlib.Tactic.SplitIfs
import CuratedHistory.Text.Basic

namespace CuratedHistory.Text

/-! Texts that are taken apart at a character, or after a beginning. -/

theorem after?_eq_some_iff {beginning text following : Text} :
    after? beginning text = some following ↔ beginning ++ following = text := by
  induction beginning generalizing text with
  | nil => simp [after?, eq_comm]
  | cons b beginning ih =>
      cases text with
      | nil => simp [after?]
      | cons c text =>
          by_cases same : b = c
          · simp [after?, same, ih]
          · simp [after?, same]

theorem before?_eq_some_iff {ending text preceding : Text} :
    before? ending text = some preceding ↔ preceding ++ ending = text := by
  rw [before?, Option.map_eq_some_iff]
  constructor
  · rintro ⟨reversed, found, rfl⟩
    rw [← List.reverse_inj, List.reverse_append, List.reverse_reverse]
    exact after?_eq_some_iff.mp found
  · rintro rfl
    exact ⟨preceding.reverse, after?_eq_some_iff.mpr (by simp), preceding.reverse_reverse⟩

theorem splitAtFirst_append {ends : Char → Bool} {word rest : Text}
    (inside : ∀ c ∈ word, ends c = false) (stops : ∀ c ∈ rest.head?, ends c = true) :
    splitAtFirst ends (word ++ rest) = (word, rest) := by
  have passes : ∀ c ∈ word, (!ends c) = true := by simpa using inside
  rw [splitAtFirst, List.takeWhile_append_of_pos passes, List.dropWhile_append_of_pos passes]
  cases rest with
  | nil => simp
  | cons c rest => simp [stops c rfl]

theorem splitAtFirst_join (ends : Char → Bool) (text : Text) :
    (splitAtFirst ends text).1 ++ (splitAtFirst ends text).2 = text :=
  List.takeWhile_append_dropWhile

/-- A word, something without an ending character in it, stands in front of the rest, which
begins with an ending character if it is not empty. -/
structure FirstWord (ends : Char → Bool) (word rest : Text) : Prop where
  nonempty : word ≠ []
  inside : ∀ c ∈ word, ends c = false
  stops : ∀ c ∈ rest.head?, ends c = true

theorem FirstWord.splitAtFirst_eq {ends : Char → Bool} {word rest : Text}
    (isFirst : FirstWord ends word rest) : splitAtFirst ends (word ++ rest) = (word, rest) :=
  splitAtFirst_append isFirst.inside isFirst.stops

theorem exists_firstWord {ends : Char → Bool} {text : Text} (something : text ≠ [])
    (first : ∀ c ∈ text.head?, ends c = false) :
    ∃ word rest, text = word ++ rest ∧ FirstWord ends word rest := by
  obtain ⟨c, following, rfl⟩ := List.exists_cons_of_ne_nil something
  have inFront : ends c = false := first c rfl
  refine ⟨_, _, (splitAtFirst_join ends (c :: following)).symm, ?_, ?_, ?_⟩
  · simp [splitAtFirst, inFront]
  · intro d member
    simpa using List.all_eq_true.mp List.all_takeWhile d member
  · intro d isFirst
    have stop := List.head?_dropWhile_not (fun c => !ends c) (c :: following)
    rw [Option.mem_def, splitAtFirst] at isFirst
    rw [isFirst] at stop
    simpa using stop

theorem forall_ne_of_notMem {stop : Char} {front : Text} (absent : stop ∉ front) :
    ∀ c ∈ front, decide (c ≠ stop) = true := by
  intro c member
  rw [decide_eq_true_eq]
  rintro rfl
  exact absent member

theorem takeWhile_ne_append {stop : Char} {front : Text} (absent : stop ∉ front) (back : Text) :
    (front ++ stop :: back).takeWhile (· ≠ stop) = front := by
  rw [List.takeWhile_append_of_pos (forall_ne_of_notMem absent), List.takeWhile_cons_of_neg (by simp),
    List.append_nil]

theorem eq_of_append_stop {stop : Char} {one another rest more : Text} (absent : stop ∉ one)
    (absentToo : stop ∉ another) (same : one ++ stop :: rest = another ++ stop :: more) :
    one = another := by
  rw [← takeWhile_ne_append absent rest, same, takeWhile_ne_append absentToo]

theorem pieces_ne_nil (separator : Char) (text : Text) : pieces separator text ≠ [] := by
  cases text with
  | nil => exact List.cons_ne_nil _ _
  | cons c rest =>
      rw [pieces]
      split_ifs
      · exact List.cons_ne_nil _ _
      · split <;> exact List.cons_ne_nil _ _

theorem pieces_append_stop (separator : Char) (front back : Text) :
    pieces separator (front ++ separator :: back) =
      pieces separator front ++ pieces separator back := by
  induction front with
  | nil => simp [pieces]
  | cons c front ih =>
      obtain ⟨piece, following, found⟩ := List.exists_cons_of_ne_nil (pieces_ne_nil separator front)
      rw [List.cons_append, pieces, ih, found, pieces, found]
      split_ifs <;> rfl

theorem pieces_of_notMem {separator : Char} {text : Text} (absent : separator ∉ text) :
    pieces separator text = [text] := by
  induction text with
  | nil => rfl
  | cons c rest ih =>
      rw [List.mem_cons, not_or] at absent
      rw [pieces, if_neg (Ne.symm absent.1), ih absent.2]

/-- Texts that are each written with a separator behind them are its pieces, and nothing is left
behind the last. -/
theorem pieces_flatMap {separator : Char} {texts : List Text} (absent : ∀ text ∈ texts, separator ∉ text) :
    pieces separator (texts.flatMap (· ++ [separator])) = texts ++ [[]] := by
  induction texts with
  | nil => rfl
  | cons text rest ih =>
      rw [List.forall_mem_cons] at absent
      rw [List.flatMap_cons, List.append_assoc, List.singleton_append, pieces_append_stop,
        pieces_of_notMem absent.1, ih absent.2]
      rfl

/-- A literal is looked at as the characters that it is made of, which saves reading it. -/
theorem notMem_literal {c : Char} {characters : Text} (absent : c ∉ characters) :
    c ∉ (String.ofList characters).toList := by
  rwa [String.toList_ofList]

end CuratedHistory.Text
