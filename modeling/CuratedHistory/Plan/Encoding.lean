import CuratedHistory.Json.Basic
import CuratedHistory.Plan.Block

namespace CuratedHistory

/-! Plan records, blocks and summaries as JSON. A block has its kind as a field
beside its other fields. -/

def Action.toJson (action : Action) : Json :=
  .string action.keyword

def Action.ofWord? (word : Text) : Option Action :=
  Action.all.find? (·.keyword == word)

def Action.ofJson? (json : Json) : Option Action :=
  json.word?.bind Action.ofWord?

def Action.ofTaggedJson? (json : Json) : Option Action :=
  json.taggedWord?.bind Action.ofWord?

namespace Record

def fieldNames : List Text :=
  ["line", "action", "commit", "reason", "section", "message"].map String.toList

def members (record : Record) : List (Text × Json) :=
  fieldNames.zip [.ofNat record.line, record.action.toJson, .string record.commit,
    .ofOption record.reason, .ofOption record.sectionLabel, .ofOption record.message]

def toJson (record : Record) : Json :=
  .object record.members

/-- A record whose action is read in a given way. -/
def read? (actionOf : Json → Option Action) (json : Json) : Option Record :=
  match json.fields? fieldNames with
  | some [line, action, commit, reason, sectionLabel, message] => do
      return {
        line := ← Json.required? Json.count? line
        action := ← Json.required? actionOf action
        commit := ← Json.required? Json.text? commit
        reason := ← Json.nullable? Json.text? reason
        sectionLabel := ← Json.nullable? Json.text? sectionLabel
        message := ← Json.nullable? Json.text? message }
  | _ => none

def ofJson? (json : Json) : Option Record :=
  read? Action.ofJson? json

def ofTaggedJson? (json : Json) : Option Record :=
  read? Action.ofTaggedJson? json

def listToJson (records : List Record) : Json :=
  .array (records.map toJson)

end Record

namespace BlockKind

def all : List BlockKind := [.single, .dropped, .squashRun, .bundleRun]

def word : BlockKind → Text
  | .single => "single".toList
  | .dropped => "dropped".toList
  | .squashRun => "squash_run".toList
  | .bundleRun => "bundle_run".toList

def ofWord? (word : Text) : Option BlockKind :=
  all.find? (·.word == word)

def toJson (kind : BlockKind) : Json :=
  .string kind.word

def ofJson? (json : Json) : Option BlockKind :=
  json.word?.bind ofWord?

end BlockKind

namespace Block

def tagName : Text := "kind".toList

def members : Block → List (Text × Json)
  | .single record => record.members
  | .dropped record => record.members
  | .squashRun records => [("records".toList, Record.listToJson records)]
  | .bundleRun sectionLabel records =>
      [("section".toList, .string sectionLabel), ("records".toList, Record.listToJson records)]

def toJson (block : Block) : Json :=
  .object ((tagName, block.kind.toJson) :: block.members)

def ofFields? : BlockKind → Json → Option Block
  | .single, json => (Record.ofTaggedJson? json).map .single
  | .dropped, json => (Record.ofTaggedJson? json).map .dropped
  | .squashRun, json =>
      match json.fields? ["records".toList] with
      | some [records] =>
          (Json.required? (Json.list? Record.ofTaggedJson?) records).map .squashRun
      | _ => none
  | .bundleRun, json =>
      match json.fields? ["section".toList, "records".toList] with
      | some [sectionLabel, records] => do
          return .bundleRun (← Json.required? Json.text? sectionLabel)
            (← Json.required? (Json.list? Record.ofTaggedJson?) records)
      | _ => none

def ofJson? (json : Json) : Option Block := do
  let (tag, fields) ← json.tagged? tagName
  let kind ← BlockKind.ofWord? tag
  ofFields? kind fields

def listToJson (blocks : List Block) : Json :=
  .array (blocks.map toJson)

end Block

namespace Summary

def fieldNames : List Text :=
  ["singles", "dropped", "squash_runs", "squashed_commits", "bundle_runs",
    "bundled_commits"].map String.toList

def toJson (summary : Summary) : Json :=
  .object (fieldNames.zip ([summary.singles, summary.dropped, summary.squashRuns,
    summary.squashedCommits, summary.bundleRuns, summary.bundledCommits].map Json.ofNat))

def ofJson? (json : Json) : Option Summary :=
  match json.fields? fieldNames with
  | some [singles, dropped, squashRuns, squashedCommits, bundleRuns, bundledCommits] => do
      return {
        singles := ← Json.required? Json.count? singles
        dropped := ← Json.required? Json.count? dropped
        squashRuns := ← Json.required? Json.count? squashRuns
        squashedCommits := ← Json.required? Json.count? squashedCommits
        bundleRuns := ← Json.required? Json.count? bundleRuns
        bundledCommits := ← Json.required? Json.count? bundledCommits }
  | _ => none

end Summary

def planToJson (records : List Record) : Json :=
  .object [("records".toList, Record.listToJson records)]

def planOfJson? (json : Json) : Option (List Record) :=
  match json.fields? ["records".toList] with
  | some [records] => Json.required? (Json.list? Record.ofJson?) records
  | _ => none

end CuratedHistory
