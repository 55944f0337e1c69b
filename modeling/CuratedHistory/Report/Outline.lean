import CuratedHistory.History.Commit
import CuratedHistory.Plan.Block
import CuratedHistory.Report.Html

namespace CuratedHistory

/-! The outline of a block: its markup in order, with the diffs that it asks for
still to be filled in. It depends on the metadata of commits only. A commit whose
metadata is not available gets a note in place of its details. -/

abbrev CommitLookup := Text → Option Commit

/-- One piece of an outline. -/
inductive Part where
  /-- Nodes on a line of their own. -/
  | html (nodes : List Html)
  /-- A note in place of something that is not available. -/
  | failure (note : Text)
  | diff (base : DiffBase) (child : Text)
  deriving Repr

/-- A part by itself, or the parts of one bundled commit. -/
inductive Entry where
  | line (part : Part)
  | member (parts : List Part)
  deriving Repr

structure Outline where
  title : Text
  entries : List Entry
  deriving Repr

def Part.request? : Part → Option (DiffBase × Text)
  | .diff base child => some (base, child)
  | _ => none

def Entry.parts : Entry → List Part
  | .line part => [part]
  | .member parts => parts

namespace Outline

def parts (outline : Outline) : List Part :=
  outline.entries.flatMap Entry.parts

/-- The diffs that the outline asks for, in order. -/
def requests (outline : Outline) : List (DiffBase × Text) :=
  outline.parts.filterMap Part.request?

def ofParts (title : Text) (parts : List Part) : Outline where
  title := title
  entries := parts.map .line

end Outline

namespace Block

def droppedNotice : String :=
  "Commit omitted; diff against neighbors not shown."

def noReason : Text :=
  "no reason provided".toList

def scopeNotice : String :=
  "Scope change: this diff spans the whole run. The intermediate transitions between these commits are hidden."

def bundleNotice : String :=
  "Bundled commits are grouped for reading only. Each keeps its own diff; grouping does not reduce diff scope."

def shaCode (attributes : List (Text × Text)) (hash : Text) : Html :=
  .element "code".toList attributes [.markup hash]

def commitHeader (short : Text) (commit : Commit) : Html :=
  Html.classed "div" "commit-header" (
    [Html.newline,
      Html.plain "h3" [shaCode [("class".toList, "sha".toList)] short,
        .text (' ' :: commit.subject)],
      Html.newline,
      Html.classed "p" "meta" [
        .text (commit.author ++ " <".toList ++ commit.authorEmail ++ "> ".toList),
        .markup "&middot;".toList, .text (' ' :: commit.time.minuteText ++ [' ']),
        .markup "&middot;".toList, Html.string " ", shaCode [] commit.hash],
      Html.newline] ++
    (if commit.body = [] then []
      else [Html.classed "pre" "message" [.text commit.body], Html.newline]))

def recordHeader (short : Text) (record : Record) : Html :=
  Html.classed "div" "commit-header" [Html.newline,
    Html.plain "h3" [shaCode [("class".toList, "sha".toList)] short], Html.newline,
    Html.classed "p" "meta" [Html.plain "code" [.text record.commit]], Html.newline]

def planNote (record : Record) : List Html :=
  match record.message with
  | some (c :: rest) =>
      [Html.newline,
        Html.classed "p" "plan-note" [Html.string "Plan note: ", .text (c :: rest)]]
  | _ => []

/-- The header of a record, from the details of its commit if there are any. -/
def header (record : Record) : Option Commit → Option (List Html)
  | some commit => do
      let short ← shortHash? commit.hash
      return commitHeader short commit :: planNote record
  | none => do
      let short ← shortHash? record.commit
      return recordHeader short record :: planNote record

/-- The title of a record: its abbreviated hash, and the subject if it is known. -/
def recordTitle (record : Record) : Option Commit → Option Text
  | some commit => do
      let short ← shortHash? commit.hash
      return short ++ ' ' :: commit.subject
  | none => shortHash? record.commit

def detailsNote (record : Record) (commit : Option Commit) : Option (List Part) :=
  match commit with
  | some _ => some []
  | none => do
      let short ← shortHash? record.commit
      return [.failure ("Details for commit ".toList ++ short ++ " are unavailable.".toList)]

/-- The header of a record after a note if there are no details. -/
def headed (record : Record) (commit : Option Commit) : Option (List Part) := do
  let note ← detailsNote record commit
  let header ← header record commit
  return note ++ [.html header]

/-- The label of a bundled commit whose section is not the one of its run. -/
def labelLine : Option Text → List Part
  | some label =>
      [.html [Html.classed "p" "section-label" [Html.string "Section: ", .text label]]]
  | none => []

/-- The change that a commit makes, against its first parent. -/
def ownDiff : Option Commit → List Part
  | some commit => [.diff (DiffBase.ofCommit commit) commit.hash]
  | none => []

def commitParts (record : Record) (label : Option Text) (commit : Option Commit) :
    Option (List Part) := do
  let headed ← headed record commit
  return headed ++ labelLine label ++ ownDiff commit

def singleOutline (commits : CommitLookup) (record : Record) : Option Outline := do
  let commit := commits record.commit
  let parts ← commitParts record none commit
  let title ← recordTitle record commit
  return .ofParts title parts

/-- The notice on a dropped commit, with the reason. -/
def reasonNode (record : Record) : Html :=
  Html.classed "p" "notice dropped"
    [Html.string (droppedNotice ++ " Reason: "), .text (record.reason.getD noReason)]

def droppedOutline (commits : CommitLookup) (record : Record) : Option Outline := do
  let commit := commits record.commit
  let headed ← headed record commit
  let title ← recordTitle record commit
  return .ofParts (title ++ " (dropped)".toList) (headed ++ [.html [reasonNode record]])

/-- The one diff of a squash run: from the first parent of its first commit to its
last commit. -/
def squashedDiff (first : Option Commit) (last : Record) : Part :=
  match first with
  | some commit => .diff (DiffBase.ofCommit commit) last.commit
  | none => .failure "The combined diff is unavailable without the first commit.".toList

def squashedItem (commits : CommitLookup) (record : Record) : Option Html := do
  let header ← header record (commits record.commit)
  return Html.plain "li" header

/-- What a squash run is headed with: how many commits, and the span from the first
to the last one. -/
def runHeader (count span : Text) (first last : Record) : Html :=
  Html.classed "h2" "run-header"
    [Html.string "Squashed ", .text count, Html.string " commits ",
      shaCode [("title".toList, first.commit ++ "..".toList ++ last.commit)] span]

def squashedList (items : List Html) : Html :=
  Html.classed "ol" "squashed" (Html.newline :: Html.lines items)

def scopeNode : Html :=
  Html.classed "p" "notice scope" [Html.string scopeNotice]

def squashOutline (commits : CommitLookup) (records : List Record) : Option Outline :=
  match records, records.getLast? with
  | first :: _, some last => do
      let firstShort ← shortHash? first.commit
      let lastShort ← shortHash? last.commit
      let span := firstShort ++ "..".toList ++ lastShort
      let count := Decimal.digits records.length
      let notes ← records.mapM fun record => detailsNote record (commits record.commit)
      let items ← records.mapM (squashedItem commits)
      return .ofParts (span ++ " squashed (".toList ++ count ++ " commits)".toList)
        (.html [runHeader count span first last] :: notes.flatten ++
          [squashedDiff (commits first.commit) last, .html [squashedList items], .html [scopeNode]])
  | _, _ => some (.ofParts [] [])

/-- The section of a bundled commit, unless it is the one of its run. -/
def ownLabel (sectionLabel : Text) (record : Record) : Option Text :=
  record.sectionLabel.filter (· ≠ sectionLabel)

def bundleMember (commits : CommitLookup) (sectionLabel : Text) (record : Record) :
    Option Entry := do
  let parts ← commitParts record (ownLabel sectionLabel record) (commits record.commit)
  return .member parts

/-- What stands before the commits of a section. -/
def sectionOpening (sectionLabel : Text) : Html :=
  Html.classed "div" "bundle-begin"
    [Html.plain "h2" [Html.string "Section: ", .text sectionLabel], Html.newline,
      Html.classed "p" "notice" [Html.string bundleNotice]]

/-- What stands after the commits of a section. -/
def sectionClosing (sectionLabel : Text) : Html :=
  Html.classed "div" "bundle-end" [Html.string "End of section: ", .text sectionLabel]

def bundleOutline (commits : CommitLookup) (sectionLabel : Text) (records : List Record) :
    Option Outline := do
  let members ← records.mapM (bundleMember commits sectionLabel)
  return {
    title := "Section: ".toList ++ sectionLabel ++ " (".toList ++
      Decimal.digits records.length ++ " commits)".toList
    entries := .line (.html [sectionOpening sectionLabel]) :: members ++
      [.line (.html [sectionClosing sectionLabel])] }

/-- The outline of a block. There is none when a hash that it shows cannot be
abbreviated. -/
def outline? (commits : CommitLookup) : Block → Option Outline
  | .single record => singleOutline commits record
  | .dropped record => droppedOutline commits record
  | .squashRun records => squashOutline commits records
  | .bundleRun sectionLabel records => bundleOutline commits sectionLabel records

end Block

end CuratedHistory
