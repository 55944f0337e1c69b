import CuratedHistory.Text.Basic

namespace CuratedHistory.Similarity

/-! How alike two texts are, by the Jaro measure: the characters that they share at
places not too far apart, and how many of these are out of order. -/

/-- How far apart equal characters may stand, counted to their places. -/
def reach (first second : Text) : Nat :=
  max first.length second.length / 2 - 1

/-- Marks the first character in a window that equals the given one and is not
marked yet. Nothing comes of it if there is none. -/
def markFrom (c : Char) (skipped window : Nat) : List (Char × Bool) → Option (List (Char × Bool))
  | [] => none
  | (d, marked) :: rest =>
      match skipped, window with
      | skip + 1, _ => (markFrom c skip window rest).map ((d, marked) :: ·)
      | 0, 0 => none
      | 0, more + 1 =>
          if c = d ∧ !marked then some ((d, true) :: rest)
          else (markFrom c 0 more rest).map ((d, marked) :: ·)

/-- The shared characters in the order of the first text, and the second text with
its shared characters marked. -/
def sharedFrom (reach place : Nat) : Text → List (Char × Bool) → Text × List (Char × Bool)
  | [], marks => ([], marks)
  | c :: rest, marks =>
      let start := place - reach
      match markFrom c start (place + reach + 1 - start) marks with
      | none => sharedFrom reach (place + 1) rest marks
      | some marks =>
          let (shared, marks) := sharedFrom reach (place + 1) rest marks
          (c :: shared, marks)

/-- The number of shared characters, and of pairs of them that are out of order. -/
def shared (first second : Text) : Nat × Nat :=
  let (ours, marks) :=
    sharedFrom (reach first second) 0 first (second.map fun c => (c, false))
  let theirs := (marks.filter Prod.snd).map Prod.fst
  (ours.length, (List.zip ours theirs).countP (fun pair => pair.1 != pair.2) / 2)

/-- Texts resemble each other if the measure is seven tenths or more: the mean of
the shares of shared characters in each, and of those in order among them. -/
def resembles (first second : Text) : Bool :=
  let (common, swapped) := shared first second
  let n := first.length
  let m := second.length
  common ≠ 0 &&
    21 * (n * m * common) ≤
      10 * (common * m * common + common * n * common + (common - swapped) * n * m)

end CuratedHistory.Similarity
