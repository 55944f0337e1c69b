import CuratedHistory.History.Commit
import CuratedHistory.History.InstantReader
import CuratedHistory.Json.Basic

namespace CuratedHistory

/-! Commits, ranges and diffs as JSON. -/

def Instant.toJson (instant : Instant) : Json :=
  .string instant.text

def Instant.ofJson? (json : Json) : Option Instant :=
  json.text?.bind Instant.ofText?

namespace Commit

def fieldNames : List Text :=
  ["sha", "message", "author", "author_email", "timestamp", "parents"].map String.toList

def toJson (commit : Commit) : Json :=
  .object (fieldNames.zip [.string commit.hash, .string commit.message, .string commit.author,
    .string commit.authorEmail, commit.time.toJson, .array (commit.parents.map .string)])

def ofJson? (json : Json) : Option Commit :=
  match json.fields? fieldNames with
  | some [hash, message, author, authorEmail, time, parents] => do
      return {
        hash := ← Json.required? Json.text? hash
        message := ← Json.required? Json.text? message
        author := ← Json.required? Json.text? author
        authorEmail := ← Json.required? Json.text? authorEmail
        time := ← Json.required? Instant.ofJson? time
        parents := ← Json.required? (Json.list? Json.text?) parents }
  | _ => none

end Commit

namespace CommitRange

def fieldNames : List Text :=
  ["base", "tip", "commits"].map String.toList

def toJson (range : CommitRange) : Json :=
  .object (fieldNames.zip [.string range.base, .string range.tip,
    .array (range.commits.map Commit.toJson)])

def ofJson? (json : Json) : Option CommitRange :=
  match json.fields? fieldNames with
  | some [base, tip, commits] => do
      return {
        base := ← Json.required? Json.text? base
        tip := ← Json.required? Json.text? tip
        commits := ← Json.required? (Json.list? Commit.ofJson?) commits }
  | _ => none

end CommitRange

namespace DiffBase

def commitWord : Text := "Commit".toList

def emptyTreeWord : Text := "EmptyTree".toList

def toJson : DiffBase → Json
  | .commit hash => .object [(commitWord, .string hash)]
  | .emptyTree => .string emptyTreeWord

def ofJson? (json : Json) : Option DiffBase :=
  match json with
  | .object [(word, .string hash)] => if word = commitWord then some (.commit hash) else none
  | _ => if json.word? = some emptyTreeWord then some .emptyTree else none

end DiffBase

namespace Patch

def fieldNames : List Text :=
  ["text", "files_changed", "insertions", "deletions"].map String.toList

def toJson (patch : Patch) : Json :=
  .object (fieldNames.zip [.string patch.text, .ofNat patch.filesChanged,
    .ofNat patch.insertions, .ofNat patch.deletions])

def ofJson? (json : Json) : Option Patch :=
  match json.fields? fieldNames with
  | some [text, filesChanged, insertions, deletions] => do
      return {
        text := ← Json.required? Json.text? text
        filesChanged := ← Json.required? Json.count? filesChanged
        insertions := ← Json.required? Json.count? insertions
        deletions := ← Json.required? Json.count? deletions }
  | _ => none

end Patch

end CuratedHistory
