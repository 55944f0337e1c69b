import CuratedHistory.Plan.Directive
import CuratedHistory.Plan.Range
import CuratedHistory.Plan.Record

namespace CuratedHistory

/-! A plan is checked line by line against the range that it selects from. Each
accepted directive becomes a record; the first refused line refuses the plan. -/

/-- What is threaded from line to line: the commits accepted so far, the place
of the last one along the range, its action, its section, and the records. -/
structure PlanParser where
  range : PlanRange
  resolver : Resolver
  seen : List Text
  last : Option (Nat × Text)
  previousAction : Option Action
  sectionLabel : Option Text
  records : List Record

namespace PlanParser

def start (range : PlanRange) (resolver : Resolver) : PlanParser where
  range := range
  resolver := resolver
  seen := []
  last := none
  previousAction := none
  sectionLabel := none
  records := []

/-- The commit that a hash names, in lower case. -/
def resolveHash (parser : PlanParser) (hash : Text) : Except Refusal Text :=
  match parser.resolver hash with
  | .ok commit => .ok (Text.lower commit)
  | .error .notFound => .error (.unknownCommit hash)
  | .error .ambiguous => .error (.ambiguousCommit hash)

/-- The place of a commit along the range: a member not seen yet, after the last
accepted one. -/
def place (parser : PlanParser) (commit : Text) : Except Refusal Nat :=
  match parser.range.position? commit with
  | none => .error (.notInRange commit)
  | some position =>
      if parser.seen.contains commit then .error (.duplicate commit)
      else
        match parser.last with
        | some (lastPosition, previous) =>
            if position ≤ lastPosition then .error (.orderViolation commit previous)
            else .ok position
        | none => .ok position

/-- The label of a directive, none if it is blank, on an action that takes one. -/
def labelOf (directive : Directive) : Except Refusal (Option Text) :=
  match directive.label with
  | none => .ok none
  | some label =>
      if directive.action.takesLabel then .ok (if label = [] then none else some label)
      else .error (.labelNotAllowed directive.action)

/-- The section of a bundled commit: its own label, else the one of the bundle
that it continues. -/
def sectionFor (parser : PlanParser) (label : Option Text) : Except Refusal Text :=
  match label with
  | some label => .ok label
  | none =>
      match parser.previousAction, parser.sectionLabel with
      | some .bundle, some inherited => .ok inherited
      | _, _ => .error .missingSectionLabel

/-- The record of a directive on a numbered line and its place along the range. -/
def accept (parser : PlanParser) (line : Nat) (directive : Directive) :
    Except Refusal (Nat × Record) := do
  let commit ← parser.resolveHash directive.hash
  let position ← parser.place commit
  let label ← labelOf directive
  let record : Record :=
    { line, action := directive.action, commit, reason := none, sectionLabel := none,
      message := directive.message }
  match directive.action with
  | .pick | .squash => return (position, record)
  | .drop => return (position, { record with reason := label })
  | .bundle =>
      let sectionLabel ← parser.sectionFor label
      return (position, { record with sectionLabel := some sectionLabel })

/-- The parser after a record at a place of the range. -/
def push (parser : PlanParser) (position : Nat) (record : Record) : PlanParser :=
  { parser with
    seen := record.commit :: parser.seen
    last := some (position, record.commit)
    previousAction := some record.action
    sectionLabel := record.sectionLabel
    records := parser.records ++ [record] }

/-- The outcome of a line and the parser after it, which a refused line or one
without a directive leaves as it was. -/
def processLine (parser : PlanParser) (line : Nat) (raw : Text) :
    Except PlanError (Option Record) × PlanParser :=
  match Directive.ofLine raw with
  | .error cause => (.error { line, text := raw, cause }, parser)
  | .ok none => (.ok none, parser)
  | .ok (some directive) =>
      match parser.accept line directive with
      | .error cause => (.error { line, text := raw, cause }, parser)
      | .ok (position, record) => (.ok (some record), parser.push position record)

/-- The records after lines that are numbered from the given one. -/
def processLines (parser : PlanParser) (line : Nat) : List Text → Except PlanError (List Record)
  | [] => .ok parser.records
  | raw :: rest =>
      match parser.processLine line raw with
      | (.error error, _) => .error error
      | (.ok _, next) => next.processLines (line + 1) rest

end PlanParser

/-- The records of a plan over a range, in plan order. -/
def parsePlan (range : PlanRange) (resolver : Resolver) (text : Text) :
    Except PlanError (List Record) :=
  (PlanParser.start range resolver).processLines 1 (Text.lines text)

end CuratedHistory
