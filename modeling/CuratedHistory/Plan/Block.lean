import CuratedHistory.Plan.Record

namespace CuratedHistory

/-! Report units. Picked and dropped commits stand alone; neighbouring squashed
commits, and neighbouring bundled ones, form one unit. -/

inductive BlockKind where
  | single
  | dropped
  | squashRun
  | bundleRun
  deriving DecidableEq, Repr

inductive Block where
  | single (record : Record)
  | dropped (record : Record)
  | squashRun (records : List Record)
  /-- The section is the one in effect at the start of the run. -/
  | bundleRun (sectionLabel : Text) (records : List Record)
  deriving DecidableEq, Repr

namespace Block

def kind : Block → BlockKind
  | .single _ => .single
  | .dropped _ => .dropped
  | .squashRun _ => .squashRun
  | .bundleRun _ _ => .bundleRun

/-- The records that the block covers, in order. -/
def records : Block → List Record
  | .single record => [record]
  | .dropped record => [record]
  | .squashRun records => records
  | .bundleRun _ records => records

end Block

/-- A run that the next record may still continue. -/
inductive OpenRun where
  | squash (records : List Record)
  /-- The section is the one in effect at the start of the run. -/
  | bundle (sectionLabel : Text) (records : List Record)
  deriving DecidableEq, Repr

namespace OpenRun

def action : OpenRun → Action
  | .squash _ => .squash
  | .bundle _ _ => .bundle

def push (record : Record) : OpenRun → OpenRun
  | .squash records => .squash (records ++ [record])
  | .bundle sectionLabel records => .bundle sectionLabel (records ++ [record])

def close : OpenRun → Block
  | .squash records => .squashRun records
  | .bundle sectionLabel records => .bundleRun sectionLabel records

end OpenRun

/-- The blocks that are complete, and the run that is open after them. -/
structure Grouping where
  blocks : List Block
  openRun : Option OpenRun
  deriving DecidableEq, Repr

namespace Grouping

def empty : Grouping :=
  { blocks := [], openRun := none }

/-- All blocks, with the open run as the last one. -/
def closed (grouping : Grouping) : List Block :=
  match grouping.openRun with
  | some run => grouping.blocks ++ [run.close]
  | none => grouping.blocks

/-- The grouping after a record that does not continue the open run. -/
def start (grouping : Grouping) (record : Record) : Grouping :=
  match record.action with
  | .pick => { blocks := grouping.closed ++ [.single record], openRun := none }
  | .drop => { blocks := grouping.closed ++ [.dropped record], openRun := none }
  | .squash => { blocks := grouping.closed, openRun := some (.squash [record]) }
  | .bundle =>
      { blocks := grouping.closed
        openRun := some (.bundle (record.sectionLabel.getD []) [record]) }

def add (grouping : Grouping) (record : Record) : Grouping :=
  match grouping.openRun with
  | some run =>
      if run.action = record.action then { grouping with openRun := some (run.push record) }
      else grouping.start record
  | none => grouping.start record

end Grouping

/-- The blocks of a plan: every record in one block, in plan order, with runs as
long as they can be. -/
def compile (records : List Record) : List Block :=
  (records.foldl Grouping.add .empty).closed

/-- Counts of blocks and of the commits in runs. -/
structure Summary where
  singles : Nat
  dropped : Nat
  squashRuns : Nat
  squashedCommits : Nat
  bundleRuns : Nat
  bundledCommits : Nat
  deriving DecidableEq, Repr

namespace Summary

def empty : Summary :=
  ⟨0, 0, 0, 0, 0, 0⟩

def add (summary : Summary) : Block → Summary
  | .single _ => { summary with singles := summary.singles + 1 }
  | .dropped _ => { summary with dropped := summary.dropped + 1 }
  | .squashRun records =>
      { summary with
        squashRuns := summary.squashRuns + 1
        squashedCommits := summary.squashedCommits + records.length }
  | .bundleRun _ records =>
      { summary with
        bundleRuns := summary.bundleRuns + 1
        bundledCommits := summary.bundledCommits + records.length }

def ofBlocks (blocks : List Block) : Summary :=
  blocks.foldl add empty

def totalRecords (summary : Summary) : Nat :=
  summary.singles + summary.dropped + summary.squashedCommits + summary.bundledCommits

end Summary

end CuratedHistory
