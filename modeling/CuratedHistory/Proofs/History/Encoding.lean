import CuratedHistory.History.Encoding
import CuratedHistory.Proofs.History.Instant
import CuratedHistory.Proofs.Json.Reading
import CuratedHistory.Repository.Basic

namespace CuratedHistory

/-! Commits and ranges that are written as JSON and read back. Their times are kept, however the
calendar and the clock that they were given by, and so are the times of stored commits. -/

open Timestamp (Spelled)

variable {json : Json}

namespace Commit

variable {commit : Commit}

/-- The values of the fields, the time by the given text. -/
def values (commit : Commit) (timeText : Text) : List Json :=
  [.string commit.hash, .string commit.message, .string commit.author, .string commit.authorEmail,
    .string timeText, .array (commit.parents.map .string)]

theorem nodup_fieldNames : fieldNames.Nodup := by decide

theorem fields?_toJson (commit : Commit) :
    commit.toJson.fields? fieldNames = some ((commit.values commit.time.text).map some) :=
  Json.fields?_zip nodup_fieldNames rfl

theorem exists_timeText (read : ofJson? json = some commit) : ∃ timeText,
    json.fields? fieldNames = some ((commit.values timeText).map some) ∧
      Instant.ofText? timeText = some commit.time := by
  unfold ofJson? at read
  split at read
  · rename_i found
    simp only [Option.bind_eq_bind, Option.bind_eq_some_iff, Option.pure_def, Option.some.injEq] at read
    obtain ⟨_, isHash, _, isMessage, _, isAuthor, _, isEmail, time, isTime, _, areParents, rfl⟩ := read
    obtain rfl := Json.required?_text_eq_some isHash
    obtain rfl := Json.required?_text_eq_some isMessage
    obtain rfl := Json.required?_text_eq_some isAuthor
    obtain rfl := Json.required?_text_eq_some isEmail
    obtain ⟨_, rfl, instant⟩ := Json.required?_eq_some isTime
    obtain ⟨_, rfl, parents⟩ := Json.required?_eq_some areParents
    obtain ⟨timeText, isText, told⟩ := Option.bind_eq_some_iff.mp instant
    rw [Json.text?_eq_some isText, Json.texts?_eq_some parents] at found
    exact ⟨timeText, found, told⟩
  · contradiction

theorem ofJson?_of_fields? {timeText : Text}
    (found : json.fields? fieldNames = some ((commit.values timeText).map some))
    (told : Instant.ofText? timeText = some commit.time) : ofJson? json = some commit := by
  have time : Instant.ofJson? (.string timeText) = some commit.time := told
  simp only [ofJson?, found, values, List.map_cons, List.map_nil, Json.required?, Json.text?, time,
    Json.texts?_array, Option.bind_eq_bind, Option.bind_some, Option.pure_def]

theorem ofJson?_eq_some_iff : ofJson? json = some commit ↔ ∃ timeText,
    json.fields? fieldNames = some ((commit.values timeText).map some) ∧
      Instant.ofText? timeText = some commit.time := by
  constructor
  · exact exists_timeText
  · rintro ⟨timeText, found, told⟩
    exact ofJson?_of_fields? found told

theorem representable_of_ofJson? (read : ofJson? json = some commit) : commit.time.representable = true := by
  obtain ⟨_, _, told⟩ := exists_timeText read
  exact Instant.representable_of_ofText? told

theorem ofJson?_toJson_iff : ofJson? commit.toJson = some commit ↔ commit.time.representable = true :=
  ⟨representable_of_ofJson?, fun representable =>
    ofJson?_of_fields? (fields?_toJson commit) (Instant.ofText?_text representable)⟩

end Commit

namespace CommitRange

variable {range : CommitRange}

theorem nodup_fieldNames : fieldNames.Nodup := by decide

theorem exists_items (read : ofJson? json = some range) : ∃ items,
    json.fields? fieldNames = some [some (.string range.base), some (.string range.tip), some (.array items)] ∧
      items.mapM Commit.ofJson? = some range.commits := by
  unfold ofJson? at read
  split at read
  · rename_i found
    simp only [Option.bind_eq_bind, Option.bind_eq_some_iff, Option.pure_def, Option.some.injEq] at read
    obtain ⟨_, isBase, _, isTip, _, areCommits, rfl⟩ := read
    obtain rfl := Json.required?_text_eq_some isBase
    obtain rfl := Json.required?_text_eq_some isTip
    obtain ⟨_, rfl, commits⟩ := Json.required?_eq_some areCommits
    obtain ⟨items, rfl, each⟩ := Json.list?_eq_some commits
    exact ⟨items, found, each⟩
  · contradiction

theorem representable_of_ofJson? (read : ofJson? json = some range) :
    ∀ commit ∈ range.commits, commit.time.representable = true := by
  intro commit member
  obtain ⟨items, _, each⟩ := exists_items read
  obtain ⟨item, _, isCommit⟩ := exists_item_of_mapM each commit member
  exact Commit.representable_of_ofJson? isCommit

theorem ofJson?_toJson (representable : ∀ commit ∈ range.commits, commit.time.representable = true) :
    ofJson? range.toJson = some range := by
  have found : range.toJson.fields? fieldNames = some [some (.string range.base), some (.string range.tip),
      some (.array (range.commits.map Commit.toJson))] := Json.fields?_zip nodup_fieldNames rfl
  have commits : Json.list? Commit.ofJson? (.array (range.commits.map Commit.toJson)) = some range.commits :=
    Json.list?_array fun commit member => Commit.ofJson?_toJson_iff.mpr (representable commit member)
  simp only [ofJson?, found, Json.required?, Json.text?, commits, Option.bind_eq_bind, Option.bind_some,
    Option.pure_def]

theorem ofJson?_toJson_iff : ofJson? range.toJson = some range ↔
    ∀ commit ∈ range.commits, commit.time.representable = true :=
  ⟨representable_of_ofJson?, ofJson?_toJson⟩

end CommitRange

/-- JSON keeps the time of a commit. The days go by the calendar from the first of January 1970. A
commit is read back from its JSON just if its time is in range, and so are the commits of a
range. What is read from JSON of any make is at the instant that its timestamp spells, which is
spelled in UTC when the commit is written again and read as the same commit then. A stored commit
is at its own time, or at the epoch if that is out of range. -/
theorem Commit.json_keeps_time :
    (Date.ofDays 0 = ⟨1970, 1, 1⟩ ∧ (∀ days, Date.ofDays (days + 1) = (Date.ofDays days).tomorrow) ∧
      ∀ date : Date, date.Valid → Date.ofDays date.toDays = date) ∧
    (∀ instant : Instant, instant.representable = true ↔
      (-8334601228800 ≤ instant.seconds ∧ instant.seconds ≤ 8210266876799) ∧
        (instant.nanos < Instant.nanosPerSecond ∨
          instant.nanos < 2 * Instant.nanosPerSecond ∧ instant.seconds % 60 = 59)) ∧
    (∀ commit : Commit, ofJson? commit.toJson = some commit ↔ commit.time.representable = true) ∧
    (∀ range : CommitRange, CommitRange.ofJson? range.toJson = some range ↔
      ∀ commit ∈ range.commits, commit.time.representable = true) ∧
    (∀ json commit, ofJson? json = some commit ↔ ∃ timeText stamp,
      json.fields? fieldNames = some ((commit.values timeText).map some) ∧ Spelled stamp timeText ∧
        stamp.Valid ∧ stamp.date.inRange = true ∧ stamp.instant = commit.time ∧
        commit.time.date.inRange = true) ∧
    (∀ json commit, ofJson? json = some commit →
      commit.toJson.fields? fieldNames = some ((commit.values commit.time.text).map some) ∧
        Spelled commit.time.utc commit.time.text ∧ commit.time.utc.Valid ∧ commit.time.utc.offset = 0 ∧
        commit.time.utc.instant = commit.time ∧ ofJson? commit.toJson = some commit) ∧
    (∀ json range, CommitRange.ofJson? json = some range →
      (∃ items, json.fields? CommitRange.fieldNames =
          some [some (.string range.base), some (.string range.tip), some (.array items)] ∧
        List.Forall₂ (fun item commit => ofJson? item = some commit) items range.commits) ∧
      CommitRange.ofJson? range.toJson = some range) ∧
    ∀ stored : StoredCommit,
      stored.metadata.time =
          (if -8334601228800 ≤ stored.time ∧ stored.time ≤ 8210266876799 then ⟨stored.time, 0⟩
          else Instant.epoch) ∧
        ofJson? stored.metadata.toJson = some stored.metadata := by
  refine ⟨⟨by decide, Date.ofDays_succ, fun _ => Date.ofDays_toDays⟩, Instant.representable_iff_seconds,
    fun _ => ofJson?_toJson_iff, fun _ => CommitRange.ofJson?_toJson_iff, ?_, ?_, ?_, ?_⟩
  · intro json commit
    rw [ofJson?_eq_some_iff]
    simp only [Instant.ofText?_eq_some_iff, exists_and_left]
  · intro json commit read
    have representable := representable_of_ofJson? read
    exact ⟨fields?_toJson commit, Instant.text_spelled representable, Instant.utc_valid representable, rfl,
      Instant.instant_utc representable, ofJson?_toJson_iff.mpr representable⟩
  · intro json range read
    obtain ⟨items, found, each⟩ := CommitRange.exists_items read
    exact ⟨⟨items, found, forall₂_of_mapM each⟩,
      CommitRange.ofJson?_toJson (CommitRange.representable_of_ofJson? read)⟩
  · intro stored
    exact ⟨Instant.ofSeconds_eq stored.time,
      ofJson?_toJson_iff.mpr (Instant.ofSeconds_representable stored.time)⟩

/-- JSON of some other make with a leap second of the new year on a clock in the east. -/
def leapJson : Json :=
  .object [("parents".toList, .array [.string "a0".toList, .string "a0".toList]),
    ("timestamp".toList, .string "-2-01-01 05:29:60.25 +0530".toList), ("sha".toList, .string "b1".toList),
    ("message".toList, .string "tea &\r\n".toList), ("tag".toList, .null),
    ("author_email".toList, .string []), ("author".toList, .string "Ann".toList)]

/-- The commit that is read from it, still in the old year. -/
def leapCommit : Commit where
  hash := "b1".toList
  message := "tea &\r\n".toList
  author := "Ann".toList
  authorEmail := []
  time := ⟨-62230291201, 1250000000⟩
  parents := ["a0".toList, "a0".toList]

theorem Commit.json_keeps_leapTime :
    ofJson? leapJson = some leapCommit ∧ leapCommit.time.text = "-0003-12-31T23:59:60.250Z".toList ∧
      ofJson? leapCommit.toJson = some leapCommit := by
  have read : ofJson? leapJson = some leapCommit := by cbv
  obtain ⟨_, _, _, _, _, again, _⟩ := json_keeps_time
  obtain ⟨_, _, _, _, _, same⟩ := again leapJson leapCommit read
  exact ⟨read, by cbv, same⟩

end CuratedHistory
