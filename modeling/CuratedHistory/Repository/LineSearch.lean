namespace CuratedHistory

/-! The search for lines that two sequences have in common. Lines are numbers, so
that equal lines have equal numbers. A box of old and new lines is split at a place
on a cheapest path through it, which is found from both of its corners at once; a
search that takes too long settles for a good place. Lines outside all the runs of
equal lines that are found are marked as changed. -/

namespace LineSearch

/-- Part of the old and of the new lines: from a start up to a stop. -/
structure Box where
  oldStart : Nat
  oldStop : Nat
  newStart : Nat
  newStop : Nat
  deriving DecidableEq, Repr

def Box.size (box : Box) : Nat :=
  (box.oldStop - box.oldStart) + (box.newStop - box.newStart)

/-- The two sequences, and the cost from which on a search gives up. -/
structure Lines where
  old : Array Nat
  new : Array Nat
  costLimit : Nat
  deriving Repr

namespace Lines

def agree (lines : Lines) (oldPlace newPlace : Nat) : Bool :=
  match lines.old[oldPlace]?, lines.new[newPlace]? with
  | some line, some next => line == next
  | _, _ => false

/-- How many equal lines stand at the start of a box, at most so many. -/
def runAfter (lines : Lines) (oldPlace newPlace : Nat) : Nat → Nat
  | 0 => 0
  | more + 1 =>
      if lines.agree oldPlace newPlace then
        lines.runAfter (oldPlace + 1) (newPlace + 1) more + 1
      else 0

/-- How many equal lines stand directly before two places, at most so many. -/
def runBefore (lines : Lines) (oldPlace newPlace : Nat) : Nat → Nat
  | 0 => 0
  | more + 1 =>
      if lines.agree (oldPlace - 1) (newPlace - 1) then
        lines.runBefore (oldPlace - 1) (newPlace - 1) more + 1
      else 0

/-- The box without the equal lines at its start and at its stop. -/
def shrink (lines : Lines) (box : Box) : Box :=
  let common := lines.runAfter box.oldStart box.newStart
    (min (box.oldStop - box.oldStart) (box.newStop - box.newStart))
  let box := { box with oldStart := box.oldStart + common, newStart := box.newStart + common }
  let common := lines.runBefore box.oldStop box.newStop
    (min (box.oldStop - box.oldStart) (box.newStop - box.newStart))
  { box with oldStop := box.oldStop - common, newStop := box.newStop - common }

end Lines

/-- How far paths from one corner reach. A diagonal is the difference between the
old and the new place; the old place that is reached is kept for each one. -/
structure Frontier where
  /-- The diagonal of the first entry. -/
  origin : Int
  reach : Array Int
  lowest : Int
  highest : Int
  deriving Repr

namespace Frontier

/-- The frontier with nothing but a corner. -/
def atCorner (origin : Int) (width : Nat) (diagonal place : Int) : Frontier where
  origin
  reach := (Array.replicate width 0).setIfInBounds (diagonal - origin).toNat place
  lowest := diagonal
  highest := diagonal

def get (frontier : Frontier) (diagonal : Int) : Int :=
  frontier.reach.getD (diagonal - frontier.origin).toNat 0

def set (frontier : Frontier) (diagonal place : Int) : Frontier :=
  { frontier with
    reach := frontier.reach.setIfInBounds (diagonal - frontier.origin).toNat place }

/-- One diagonal more on either side, or one less where the box ends. The next one
beyond is as if nothing were reached there. -/
def widen (frontier : Frontier) (first last nothing : Int) : Frontier :=
  let below :=
    if first < frontier.lowest then
      { frontier.set (frontier.lowest - 2) nothing with lowest := frontier.lowest - 1 }
    else { frontier with lowest := frontier.lowest + 1 }
  if below.highest < last then
    { below.set (below.highest + 2) nothing with highest := below.highest + 1 }
  else { below with highest := below.highest - 1 }

/-- Every second diagonal, the highest one first. -/
def diagonals (frontier : Frontier) : List Int :=
  (List.range ((frontier.highest - frontier.lowest) / 2 + 1).toNat).map fun (n : Nat) =>
    frontier.highest - 2 * (n : Int)

def isOn (frontier : Frontier) (diagonal : Int) : Bool :=
  frontier.lowest ≤ diagonal && diagonal ≤ frontier.highest

end Frontier

/-- Where a box is split, and whether its parts are to be searched thoroughly. -/
structure Split where
  oldPlace : Nat
  newPlace : Nat
  thoroughBefore : Bool
  thoroughAfter : Bool
  deriving Repr

/-- What one sweep over the diagonals of a frontier gives. -/
structure Sweep where
  frontier : Frontier
  /-- Whether a long run of equal lines was passed. -/
  longRun : Bool
  /-- The place where the paths of both corners meet. -/
  meeting : Option Split
  deriving Repr

def longRunLength : Nat := 20

def costOfImpatience : Nat := 256

/-- How much further than its cost a path must have come to end a search. -/
def progressFactor : Nat := 4

def splitAt (oldPlace newPlace : Int) (thoroughBefore thoroughAfter : Bool) : Split where
  oldPlace := oldPlace.toNat
  newPlace := newPlace.toNat
  thoroughBefore
  thoroughAfter

/-- One step forward on each diagonal, and on over equal lines. -/
def sweepForward (lines : Lines) (box : Box) (opposite : Frontier) (meets : Bool) :
    Sweep → List Int → Sweep
  | sweep, [] => sweep
  | sweep, diagonal :: rest =>
      let before := sweep.frontier.get (diagonal - 1)
      let after := sweep.frontier.get (diagonal + 1)
      let start := if after ≤ before then before + 1 else after
      let room := min (box.oldStop - start) (box.newStop - (start - diagonal))
      let run := lines.runAfter start.toNat (start - diagonal).toNat room.toNat
      let place := start + run
      let sweep :=
        { sweep with
          frontier := sweep.frontier.set diagonal place
          longRun := sweep.longRun || longRunLength < run }
      if meets && opposite.isOn diagonal && opposite.get diagonal ≤ place then
        { sweep with meeting := some (splitAt place (place - diagonal) true true) }
      else sweepForward lines box opposite meets sweep rest

/-- One step backward on each diagonal, and on over equal lines. -/
def sweepBackward (lines : Lines) (box : Box) (opposite : Frontier) (meets : Bool) :
    Sweep → List Int → Sweep
  | sweep, [] => sweep
  | sweep, diagonal :: rest =>
      let before := sweep.frontier.get (diagonal - 1)
      let after := sweep.frontier.get (diagonal + 1)
      let start := if before < after then before else after - 1
      let room := min (start - box.oldStart) (start - diagonal - box.newStart)
      let run := lines.runBefore start.toNat (start - diagonal).toNat room.toNat
      let place := start - run
      let sweep :=
        { sweep with
          frontier := sweep.frontier.set diagonal place
          longRun := sweep.longRun || longRunLength < run }
      if meets && opposite.isOn diagonal && place ≤ opposite.get diagonal then
        { sweep with meeting := some (splitAt place (place - diagonal) true true) }
      else sweepBackward lines box opposite meets sweep rest

/-- The diagonal on which a value is greatest, with the value; of equal ones the
first. Values up to the given one do not count. -/
def greatest (least : Int) (value : Int → Int) (diagonals : List Int) : Option (Int × Int) :=
  diagonals.foldl
    (fun best diagonal =>
      if (best.elim least Prod.snd) < value diagonal then some (diagonal, value diagonal)
      else best)
    none

/-- The end of a long run that a path from the first corner has reached far out. -/
def goodForward? (lines : Lines) (box : Box) (middle : Int) (cost : Nat)
    (frontier : Frontier) : Option Split :=
  let value (diagonal : Int) : Int :=
    let place := frontier.get diagonal
    let newPlace := place - diagonal
    let progress := (place - box.oldStart) + (newPlace - box.newStart) -
      ((diagonal - middle).natAbs : Int)
    if ((progressFactor * cost : Nat) : Int) < progress &&
        (box.oldStart + longRunLength : Int) ≤ place && place < box.oldStop &&
        (box.newStart + longRunLength : Int) ≤ newPlace && newPlace < box.newStop &&
        lines.runBefore place.toNat newPlace.toNat longRunLength == longRunLength then
      progress
    else 0
  (greatest 0 value frontier.diagonals).map fun (diagonal, _) =>
    splitAt (frontier.get diagonal) (frontier.get diagonal - diagonal) true false

/-- The start of a long run that a path from the last corner has reached far out. -/
def goodBackward? (lines : Lines) (box : Box) (middle : Int) (cost : Nat)
    (frontier : Frontier) : Option Split :=
  let value (diagonal : Int) : Int :=
    let place := frontier.get diagonal
    let newPlace := place - diagonal
    let progress := (box.oldStop - place) + (box.newStop - newPlace) -
      ((diagonal - middle).natAbs : Int)
    if ((progressFactor * cost : Nat) : Int) < progress &&
        (box.oldStart : Int) < place && place ≤ (box.oldStop : Int) - longRunLength &&
        (box.newStart : Int) < newPlace && newPlace ≤ (box.newStop : Int) - longRunLength &&
        lines.runAfter place.toNat newPlace.toNat longRunLength == longRunLength then
      progress
    else 0
  (greatest 0 value frontier.diagonals).map fun (diagonal, _) =>
    splitAt (frontier.get diagonal) (frontier.get diagonal - diagonal) false true

/-- The place on a diagonal of the box that is nearest to the one that a path from
the first corner has reached. -/
def insideForward (box : Box) (frontier : Frontier) (diagonal : Int) : Int :=
  min (min (frontier.get diagonal) box.oldStop) (box.newStop + diagonal)

def insideBackward (box : Box) (frontier : Frontier) (diagonal : Int) : Int :=
  max (max (frontier.get diagonal) box.oldStart) (box.newStart + diagonal)

/-- The place that a search which gives up settles for: the one that is furthest
from its corner. -/
def furthest (box : Box) (forward backward : Frontier) : Split :=
  let corner : Split := splitAt box.oldStop box.newStop false true
  let gone (diagonal : Int) : Int :=
    let place := insideForward box forward diagonal
    place + (place - diagonal) - (box.oldStart + box.newStart)
  let left (diagonal : Int) : Int :=
    let place := insideBackward box backward diagonal
    (box.oldStop + box.newStop) - (place + (place - diagonal))
  let least : Int := -((box.oldStop + box.newStop + 1 : Nat) : Int)
  match greatest least gone forward.diagonals, greatest least left backward.diagonals with
  | some (first, forwards), some (last, backwards) =>
      if backwards < forwards then
        let place := insideForward box forward first
        splitAt place (place - first) true false
      else
        let place := insideBackward box backward last
        splitAt place (place - last) false true
  | _, _ => corner

/-- Searches for the place to split at, given the cost so far. The fuel is more
than any path through the box can cost. -/
def search (lines : Lines) (box : Box) (thorough : Bool) :
    Nat → Nat → Frontier → Frontier → Split
  | 0, _, forward, backward => furthest box forward backward
  | fuel + 1, cost, forward, backward =>
      let first : Int := box.oldStart - box.newStop
      let last : Int := box.oldStop - box.newStart
      let forwardMiddle : Int := box.oldStart - box.newStart
      let backwardMiddle : Int := box.oldStop - box.newStop
      let meetsForward := (forwardMiddle - backwardMiddle) % 2 != 0
      let widened := forward.widen first last (-1)
      let ahead := sweepForward lines box backward meetsForward
        ⟨widened, false, none⟩ widened.diagonals
      match ahead.meeting with
      | some split => split
      | none =>
          let widened := backward.widen first last (box.oldStop + box.newStop + 1)
          let back := sweepBackward lines box ahead.frontier (!meetsForward)
            ⟨widened, ahead.longRun, none⟩ widened.diagonals
          match back.meeting with
          | some split => split
          | none =>
              let good :=
                if !thorough && back.longRun && costOfImpatience < cost then
                  (goodForward? lines box forwardMiddle cost ahead.frontier).or
                    (goodBackward? lines box backwardMiddle cost back.frontier)
                else none
              match good with
              | some split => split
              | none =>
                  if !thorough && lines.costLimit ≤ cost then
                    furthest box ahead.frontier back.frontier
                  else search lines box thorough fuel (cost + 1) ahead.frontier back.frontier

/-- The place at which a box is split whose first lines differ, and its last ones. -/
def split (lines : Lines) (box : Box) (thorough : Bool) : Split :=
  let origin : Int := box.oldStart - box.newStop - 1
  let width := box.size + 3
  search lines box thorough (box.size + 1) 1
    (.atCorner origin width (box.oldStart - box.newStart) box.oldStart)
    (.atCorner origin width (box.oldStop - box.newStop) box.oldStop)

/-- Marks for the old and for the new lines: whether they are changed. -/
structure Marks where
  old : Array Bool
  new : Array Bool
  deriving Repr

def markRange (marks : Array Bool) (start stop : Nat) : Array Bool :=
  (List.range (stop - start)).foldl (fun marks n => marks.setIfInBounds (start + n) true) marks

/-- Marks the changed lines of a box. The fuel is more than the size of the box,
which each split makes smaller. -/
def markChanges (lines : Lines) : Nat → Bool → Box → Marks → Marks
  | 0, _, box, marks =>
      { old := markRange marks.old box.oldStart box.oldStop
        new := markRange marks.new box.newStart box.newStop }
  | fuel + 1, thorough, box, marks =>
      let box := lines.shrink box
      if box.oldStart = box.oldStop ∨ box.newStart = box.newStop then
        { old := markRange marks.old box.oldStart box.oldStop
          new := markRange marks.new box.newStart box.newStop }
      else
        let place := split lines box thorough
        let first := { box with oldStop := place.oldPlace, newStop := place.newPlace }
        let second := { box with oldStart := place.oldPlace, newStart := place.newPlace }
        markChanges lines fuel place.thoroughAfter second
          (markChanges lines fuel place.thoroughBefore first marks)

def roughRoot (n : Nat) : Nat :=
  if n = 0 then 1 else 2 * roughRoot (n / 4)
termination_by n
decreasing_by omega

/-- Lines are told apart at no lower cost limit than this. -/
def leastCostLimit : Nat := 256

def marks (old new : Array Nat) : Marks :=
  let lines : Lines :=
    { old, new, costLimit := max leastCostLimit (roughRoot (old.size + new.size + 3)) }
  markChanges lines (old.size + new.size + 1) false ⟨0, old.size, 0, new.size⟩
    ⟨Array.replicate old.size false, Array.replicate new.size false⟩

end LineSearch

end CuratedHistory
