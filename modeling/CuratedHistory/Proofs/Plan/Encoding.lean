import CuratedHistory.CommandLine.Run
import CuratedHistory.Proofs.Json.Printing
import CuratedHistory.Proofs.Json.Reading
import CuratedHistory.Proofs.Plan.Grouping

namespace CuratedHistory

/-! Blocks that are written as JSON and read back. What is read is what was written, and what was
written by others reads the same once it is written again. -/

open Json (Becomes Rewritten Respelled)

variable {json : Json} {field : Option Json} {word : Text}

namespace Action

variable {action : Action}

theorem ofTaggedJson?_toJson (action : Action) : ofTaggedJson? action.toJson = some action := by
  cases action <;> decide

theorem rewritten (read : ofTaggedJson? json = some action) : Rewritten Respelled json action.toJson := by
  rw [ofTaggedJson?, Option.bind_eq_some_iff] at read
  obtain ⟨word, isWord, found⟩ := read
  have keyword : action.keyword = word := by simpa using List.find?_some found
  rw [toJson, keyword]
  unfold Json.taggedWord? Json.word? at isWord
  split at isWord
  · rw [← Option.some.inj isWord]
    exact .respelled (.emptyWord _) (.same _)
  · split at isWord
    · rw [← Option.some.inj isWord]
      exact .same _
    · rw [← Option.some.inj isWord]
      exact .respelled (.word _) (.same _)
    · contradiction

end Action

namespace Record

variable {record : Record} {records : List Record}

/-- The values of the fields. -/
def values (record : Record) : List Json :=
  [.ofNat record.line, record.action.toJson, .string record.commit, .ofOption record.reason,
    .ofOption record.sectionLabel, .ofOption record.message]

theorem nodup_fieldNames : fieldNames.Nodup := by decide

theorem names_members (record : Record) : record.members.map Prod.fst = fieldNames :=
  List.map_fst_zip (Nat.le_refl 6)

theorem fields?_toJson (record : Record) :
    record.toJson.fields? fieldNames = some (record.values.map some) :=
  Json.fields?_zip nodup_fieldNames rfl

theorem ofTaggedJson?_toJson (small : record.line < Json.countLimit) :
    ofTaggedJson? record.toJson = some record := by
  simp only [ofTaggedJson?, read?, fields?_toJson, values, List.map_cons, List.map_nil, Json.required?,
    Json.count?_ofNat small, Action.ofTaggedJson?_toJson, Json.text?, Json.nullable?_ofOption,
    Option.bind_eq_bind, Option.bind_some, Option.pure_def]

theorem becomes_of_ofTaggedJson? (read : ofTaggedJson? json = some record) :
    ∃ fields, json.fields? fieldNames = some fields ∧ List.Forall₂ Becomes fields record.values ∧
      record.line < Json.countLimit := by
  unfold ofTaggedJson? read? at read
  split at read
  · rename_i line action commit reason sectionLabel message found
    simp only [Option.bind_eq_bind, Option.bind_eq_some_iff, Option.pure_def, Option.some.injEq] at read
    obtain ⟨count, isLine, kind, isAction, hash, isCommit, why, isReason, label, isLabel, words, isMessage,
      rfl⟩ := read
    have actionToo : Becomes action kind.toJson := by
      cases action with
      | none => contradiction
      | some value => exact .given (Action.rewritten isAction)
    obtain ⟨lineToo, small⟩ := Json.becomes_of_count? isLine
    exact ⟨_, found, .cons lineToo (.cons actionToo (.cons (Json.becomes_of_text? isCommit)
      (.cons (Json.becomes_of_nullable? isReason) (.cons (Json.becomes_of_nullable? isLabel)
        (.cons (Json.becomes_of_nullable? isMessage) .nil))))), small⟩
  · contradiction

theorem rewritten (read : ofTaggedJson? json = some record) : Rewritten Respelled json record.toJson := by
  obtain ⟨fields, found, each, _⟩ := becomes_of_ofTaggedJson? read
  exact .of_fields? nodup_fieldNames found each

theorem line_lt (read : ofTaggedJson? json = some record) : record.line < Json.countLimit := by
  obtain ⟨_, _, _, small⟩ := becomes_of_ofTaggedJson? read
  exact small

theorem becomes_of_list? (read : Json.required? (Json.list? ofTaggedJson?) field = some records) :
    Becomes field (listToJson records) ∧ ∀ record ∈ records, record.line < Json.countLimit := by
  cases field with
  | none => contradiction
  | some value =>
      refine ⟨.given (Json.rewritten_of_list? (fun _ _ => rewritten) read), ?_⟩
      obtain ⟨items, _, found⟩ := Json.list?_eq_some read
      intro record member
      obtain ⟨item, _, isRecord⟩ := exists_item_of_mapM found record member
      exact line_lt isRecord

theorem listToJson_reads_back (small : ∀ record ∈ records, record.line < Json.countLimit) :
    Json.list? ofTaggedJson? (listToJson records) = some records :=
  Json.list?_array fun record member => ofTaggedJson?_toJson (small record member)

theorem exact_toJson (record : Record) : record.toJson.Exact := by
  have label (label : Option Text) : (Json.ofOption label).Exact := by
    cases label
    · exact .null
    · exact .string _
  refine .object fun member inside => ?_
  have value : member.2 ∈ record.values := List.of_mem_zip inside |>.2
  simp only [Record.values, List.mem_cons, List.mem_nil_iff, or_false] at value
  rcases value with same | same | same | same | same | same <;> rw [same]
  · exact .number _
  · exact .string _
  · exact .string _
  · exact label _
  · exact label _
  · exact label _

theorem exact_listToJson (records : List Record) : (listToJson records).Exact := by
  refine .array ?_
  rw [List.forall_mem_map]
  exact fun record _ => exact_toJson record

end Record

namespace Block

variable {block : Block} {kind : BlockKind}

theorem ofWord?_word (kind : BlockKind) : BlockKind.ofWord? kind.word = some kind := by
  cases kind <;> decide

theorem word_of_ofWord? (found : BlockKind.ofWord? word = some kind) : kind.word = word := by
  simpa using List.find?_some found

/-- The names of the fields beside the tag. -/
def fieldNames : BlockKind → List Text
  | .single | .dropped => Record.fieldNames
  | .squashRun => ["records".toList]
  | .bundleRun => ["section".toList, "records".toList]

/-- Nothing that a block holds goes by the name of the tag, and no two fields by one name. -/
theorem distinct_fieldNames (kind : BlockKind) : (tagName :: fieldNames kind).Nodup := by
  cases kind <;> decide

theorem names_members (block : Block) : block.members.map Prod.fst = fieldNames block.kind := by
  cases block with
  | single record => exact record.names_members
  | dropped record => exact record.names_members
  | squashRun records => rfl
  | bundleRun sectionLabel records => rfl

/-- The line numbers of a block fit into 64 bits. -/
def Counted (block : Block) : Prop :=
  ∀ record ∈ block.records, record.line < Json.countLimit

theorem ofFields?_members (counted : block.Counted) :
    ofFields? block.kind (.object block.members) = some block := by
  have distinct : (block.members.map Prod.fst).Nodup := by
    rw [names_members]
    exact (List.nodup_cons.mp (distinct_fieldNames block.kind)).2
  have found := Json.fields?_object distinct
  rw [names_members] at found
  cases block with
  | single record =>
      have read := Record.ofTaggedJson?_toJson (counted record (List.mem_singleton_self record))
      exact congrArg (Option.map Block.single) read
  | dropped record =>
      have read := Record.ofTaggedJson?_toJson (counted record (List.mem_singleton_self record))
      exact congrArg (Option.map Block.dropped) read
  | squashRun records =>
      have read : Json.list? Record.ofTaggedJson? (Record.listToJson records) = some records :=
        Record.listToJson_reads_back counted
      have found : Json.fields? ["records".toList] (.object (Block.squashRun records).members) =
          some [some (Record.listToJson records)] := found
      simp only [ofFields?, kind, found, Json.required?, read, Option.map_some]
  | bundleRun sectionLabel records =>
      have read : Json.list? Record.ofTaggedJson? (Record.listToJson records) = some records :=
        Record.listToJson_reads_back counted
      have found : Json.fields? ["section".toList, "records".toList]
          (.object (Block.bundleRun sectionLabel records).members) =
            some [some (.string sectionLabel), some (Record.listToJson records)] := found
      simp only [ofFields?, kind, found, Json.required?, read, Json.text?, Option.bind_eq_bind,
        Option.bind_some, Option.pure_def]

theorem tagged?_toJson (block : Block) :
    Json.tagged? tagName block.toJson = some (block.kind.word, .object block.members) := by
  have fresh : tagName ∉ block.members.map Prod.fst := by
    rw [names_members]
    exact (List.nodup_cons.mp (distinct_fieldNames block.kind)).1
  exact Json.tagged?_object fresh

theorem ofJson?_toJson (counted : block.Counted) : ofJson? block.toJson = some block := by
  simp only [ofJson?, tagged?_toJson, Option.bind_eq_bind, Option.bind_some, ofWord?_word,
    ofFields?_members counted]

theorem becomes_of_ofFields? (read : ofFields? kind json = some block) :
    block.kind = kind ∧ block.Counted ∧ ∃ fields news, json.fields? (fieldNames kind) = some fields ∧
      List.Forall₂ Becomes fields news ∧ block.members = (fieldNames kind).zip news := by
  have alone {record : Record} (isRecord : Record.ofTaggedJson? json = some record) :
      (∀ other ∈ [record], other.line < Json.countLimit) ∧
        ∃ fields news, json.fields? Record.fieldNames = some fields ∧
          List.Forall₂ Becomes fields news ∧ record.members = Record.fieldNames.zip news := by
    obtain ⟨fields, found, each, small⟩ := Record.becomes_of_ofTaggedJson? isRecord
    exact ⟨List.forall_mem_singleton.mpr small, fields, record.values, found, each, rfl⟩
  cases kind with
  | single =>
      obtain ⟨record, isRecord, rfl⟩ := Option.map_eq_some_iff.mp read
      exact ⟨rfl, alone isRecord⟩
  | dropped =>
      obtain ⟨record, isRecord, rfl⟩ := Option.map_eq_some_iff.mp read
      exact ⟨rfl, alone isRecord⟩
  | squashRun =>
      rw [ofFields?] at read
      split at read
      · rename_i found
        obtain ⟨records, isList, rfl⟩ := Option.map_eq_some_iff.mp read
        obtain ⟨becomes, small⟩ := Record.becomes_of_list? isList
        exact ⟨rfl, small, _, [Record.listToJson records], found, .cons becomes .nil, rfl⟩
      · contradiction
  | bundleRun =>
      rw [ofFields?] at read
      split at read
      · rename_i found
        simp only [Option.bind_eq_bind, Option.bind_eq_some_iff, Option.pure_def,
          Option.some.injEq] at read
        obtain ⟨label, isLabel, records, isList, rfl⟩ := read
        obtain ⟨becomes, small⟩ := Record.becomes_of_list? isList
        exact ⟨rfl, small, _, [.string label, Record.listToJson records], found,
          .cons (Json.becomes_of_text? isLabel) (.cons becomes .nil), rfl⟩
      · contradiction

/-- A block that is read from JSON of any make can be written, with every field as it was given. -/
theorem rewritten (read : ofJson? json = some block) :
    Rewritten Respelled json block.toJson ∧ block.Counted := by
  simp only [ofJson?, Option.bind_eq_bind, Option.bind_eq_some_iff] at read
  obtain ⟨⟨tag, inner⟩, isTagged, kind, isKind, read⟩ := read
  obtain ⟨rfl, counted, fields, news, found, each, written⟩ := becomes_of_ofFields? read
  obtain ⟨fresh, distinct⟩ := List.nodup_cons.mp (distinct_fieldNames block.kind)
  have whole := Json.fields?_of_tagged? fresh isTagged found
  have becomes : List.Forall₂ Becomes (some (.string tag) :: fields) (.string tag :: news) :=
    .cons (.given (.same _)) each
  have result := Rewritten.of_fields? (distinct_fieldNames block.kind) whole becomes
  have isWord : block.kind.word = tag := word_of_ofWord? isKind
  rw [List.zip_cons_cons, ← written, ← isWord] at result
  exact ⟨result, counted⟩

theorem exact_toJson (block : Block) : block.toJson.Exact := by
  refine .object (List.forall_mem_cons.mpr ⟨.string _, ?_⟩)
  have record (record : Record) : ∀ member ∈ record.members, member.2.Exact := by
    cases record.exact_toJson with
    | object inner => exact inner
  cases block with
  | single only => exact record only
  | dropped only => exact record only
  | squashRun records => exact List.forall_mem_singleton.mpr (Record.exact_listToJson records)
  | bundleRun sectionLabel records =>
      exact List.forall_mem_cons.mpr
        ⟨.string _, List.forall_mem_singleton.mpr (Record.exact_listToJson records)⟩

end Block

end CuratedHistory
