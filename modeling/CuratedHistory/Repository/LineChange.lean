import CuratedHistory.Repository.LineSearch
import CuratedHistory.Text.Utf8

namespace CuratedHistory

/-! Which lines of two contents are changed. Lines that both contents have at their
start or at their end are not. Of the others those that the other content lacks
are, and those that it repeats too often to tell a place, as long as they stand
among lines that it lacks. The rest is searched for common lines. At last each
group of changed lines is moved down as far as it goes, unless it can stand beside
a group of the other content. -/

namespace LineChange

def numbers (lines : List Bytes) : List Nat :=
  lines.map lines.idxOf

def occurrences (size : Nat) (numbers : List Nat) : Array Nat :=
  numbers.foldl (fun counts number => counts.modify number (· + 1)) (Array.replicate size 0)

def commonLength : List Nat → List Nat → Nat
  | line :: old, next :: new => if line = next then commonLength old new + 1 else 0
  | _, _ => 0

/-- How often the other content has a line. -/
inductive Frequency where
  | never
  | seldom
  | often
  deriving DecidableEq, Repr

def frequencyLimit : Nat := 1024

def frequency (limit count : Nat) : Frequency :=
  if count = 0 then .never else if limit ≤ count then .often else .seldom

def neighbourhood : Nat := 100

/-- How many lines that are lacking must come on one that is frequent. -/
def lackingPerFrequent : Nat := 4

def standsAmongLacking (before after : List Frequency) : Bool :=
  let before := (before.take neighbourhood).takeWhile (· ≠ .seldom)
  let after := (after.take neighbourhood).takeWhile (· ≠ .seldom)
  let lacking := before.count .never + after.count .never
  let frequent := before.count .often + after.count .often + 2
  before.contains .never && after.contains .never &&
    decide (frequent * lackingPerFrequent < frequent + lacking)

/-- For each line whether it counts as changed before any search, given the lines
before it, the last one first. -/
def discards (before : List Frequency) : List Frequency → List Bool
  | [] => []
  | line :: after =>
      (match line with
        | .never => true
        | .seldom => false
        | .often => standsAmongLacking before after) :: discards (line :: before) after

/-- The lines of one content that take part in a search, each with its place. -/
structure Candidates where
  /-- Marks for all lines. -/
  discarded : List Bool
  places : Array Nat
  numbers : Array Nat
  deriving Repr

/-- The candidates of a content, given how many common lines stand at its ends. -/
def candidates (numbers : List Nat) (starting ending : Nat) (others : Array Nat) :
    Candidates :=
  let limit := min frequencyLimit (LineSearch.roughRoot numbers.length)
  let middle := (numbers.drop starting).take (numbers.length - starting - ending)
  let discarded := discards [] (middle.map fun number => frequency limit (others.getD number 0))
  let chosen := (middle.zip discarded).zipIdx.filter fun entry => !entry.1.2
  { discarded :=
      List.replicate starting false ++ discarded ++ List.replicate ending false
    places := (chosen.map fun entry => starting + entry.2).toArray
    numbers := (chosen.map fun entry => entry.1.1).toArray }

def Candidates.marks (candidates : Candidates) (marks : Array Bool) : Array Bool :=
  (candidates.places.toList.zip marks.toList).foldl
    (fun all entry => if entry.2 then all.setIfInBounds entry.1 true else all)
    candidates.discarded.toArray

/-! Moving groups. -/

/-- A content with its marks. -/
structure Side where
  numbers : Array Nat
  changed : Array Bool
  deriving Repr

/-- A run of changed lines, which may be empty, between lines that are not changed. -/
structure Group where
  start : Nat
  stop : Nat
  deriving DecidableEq, Repr

namespace Side

def isChanged (side : Side) (place : Nat) : Bool :=
  side.changed.getD place false

def size (side : Side) : Nat :=
  side.numbers.size

/-- The first place that is not changed, from a given one on. -/
def runStop (side : Side) (place : Nat) : Nat :=
  if _h : side.isChanged place ∧ place < side.changed.size then side.runStop (place + 1)
  else place
termination_by side.changed.size - place
decreasing_by omega

/-- The start of the run of changed lines that ends at a given place. -/
def runStart (side : Side) : Nat → Nat
  | 0 => 0
  | place + 1 => if side.isChanged place then side.runStart place else place + 1

def firstGroup (side : Side) : Group :=
  { start := 0, stop := side.runStop 0 }

def next? (side : Side) (group : Group) : Option Group :=
  if group.stop = side.size then none
  else some { start := group.stop + 1, stop := side.runStop (group.stop + 1) }

def previous? (side : Side) (group : Group) : Option Group :=
  match group.start with
  | 0 => none
  | start + 1 => some { start := side.runStart start, stop := start }

def agree (side : Side) (first second : Nat) : Bool :=
  side.numbers.getD first 0 == side.numbers.getD second 0

def mark (side : Side) (place : Nat) (changed : Bool) : Side :=
  { side with changed := side.changed.setIfInBounds place changed }

/-- Moves a group one line up. It takes in a group that it then touches. -/
def slideUp? (side : Side) (group : Group) : Option (Side × Group) :=
  match group.start with
  | 0 => none
  | start + 1 =>
      if side.agree start (group.stop - 1) then
        let side := (side.mark start true).mark (group.stop - 1) false
        some (side, { start := side.runStart start, stop := group.stop - 1 })
      else none

/-- Moves a group one line down. It takes in a group that it then touches. -/
def slideDown? (side : Side) (group : Group) : Option (Side × Group) :=
  if group.stop < side.size && side.agree group.start group.stop then
    let side := (side.mark group.start false).mark group.stop true
    some (side, { start := group.start + 1, stop := side.runStop (group.stop + 1) })
  else none

end Side

/-- A group of one content, and the group at the same place of the other one. -/
structure Alignment where
  side : Side
  group : Group
  beside : Group
  deriving Repr

namespace Alignment

def isBeside (alignment : Alignment) : Bool :=
  alignment.beside.start < alignment.beside.stop

def up? (other : Side) (alignment : Alignment) : Option Alignment :=
  (alignment.side.slideUp? alignment.group).map fun (side, group) =>
    { side, group, beside := (other.previous? alignment.beside).getD alignment.beside }

def down? (other : Side) (alignment : Alignment) : Option Alignment :=
  (alignment.side.slideDown? alignment.group).map fun (side, group) =>
    { side, group, beside := (other.next? alignment.beside).getD alignment.beside }

/-- Moves the group up as far as it goes, or to the fuel's end. -/
def top (other : Side) : Nat → Alignment → Alignment
  | 0, alignment => alignment
  | fuel + 1, alignment =>
      match alignment.up? other with
      | some above => top other fuel above
      | none => alignment

/-- Moves the group down as far as it goes, and tells whether it came to stand
beside a group of the other content. -/
def bottom (other : Side) : Nat → Bool → Alignment → Alignment × Bool
  | 0, met, alignment => (alignment, met)
  | fuel + 1, met, alignment =>
      match alignment.down? other with
      | some below => bottom other fuel (met || below.isBeside) below
      | none => (alignment, met)

/-- Moves the group up until it stands beside a group of the other content. -/
def untilBeside (other : Side) : Nat → Alignment → Alignment
  | 0, alignment => alignment
  | fuel + 1, alignment =>
      if alignment.isBeside then alignment
      else
        match alignment.up? other with
        | some above => untilBeside other fuel above
        | none => alignment

/-- The group at its place: as far down as it goes, or beside the last group of the
other content that it can stand beside. A group that has taken in others is moved
again. -/
def settle (other : Side) (room : Nat) : Nat → Alignment → Alignment
  | 0, alignment => alignment
  | fuel + 1, alignment =>
      let size := alignment.group.stop - alignment.group.start
      let highest := alignment.top other room
      let (lowest, met) := highest.bottom other room highest.isBeside
      if lowest.group.stop - lowest.group.start ≠ size then settle other room fuel lowest
      else if lowest.group.stop ≠ highest.group.stop && met then
        lowest.untilBeside other room
      else lowest

/-- Settles one group after the other. -/
def settleAll (other : Side) (room : Nat) : Nat → Alignment → Side
  | 0, alignment => alignment.side
  | fuel + 1, alignment =>
      let settled :=
        if alignment.group.start = alignment.group.stop then alignment
        else alignment.settle other room room
      match settled.side.next? settled.group with
      | none => settled.side
      | some group =>
          settleAll other room fuel
            { settled with group, beside := (other.next? settled.beside).getD settled.beside }

end Alignment

/-- The marks of a content after its groups have been moved. Each group may move over
every line, which then come after it again. -/
def Side.compacted (side other : Side) : Side :=
  let room := side.size + 1
  Alignment.settleAll other room (room * room)
    { side, group := side.firstGroup, beside := other.firstGroup }

/-- Marks for the old and for the new lines: whether they are changed. -/
def marks (old new : List Bytes) : List Bool × List Bool :=
  let all := numbers (old ++ new)
  let oldNumbers := all.take old.length
  let newNumbers := all.drop old.length
  let starting := commonLength oldNumbers newNumbers
  let ending := commonLength (oldNumbers.drop starting).reverse (newNumbers.drop starting).reverse
  let oldOnes := candidates oldNumbers starting ending (occurrences all.length newNumbers)
  let newOnes := candidates newNumbers starting ending (occurrences all.length oldNumbers)
  let found := LineSearch.marks oldOnes.numbers newOnes.numbers
  let oldSide : Side := { numbers := oldNumbers.toArray, changed := oldOnes.marks found.old }
  let newSide : Side := { numbers := newNumbers.toArray, changed := newOnes.marks found.new }
  let oldSide := oldSide.compacted newSide
  let newSide := newSide.compacted oldSide
  (oldSide.changed.toList, newSide.changed.toList)

end LineChange

end CuratedHistory
