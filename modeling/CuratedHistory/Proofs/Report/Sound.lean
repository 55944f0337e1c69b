import CuratedHistory.Proofs.Report.Rendering
import CuratedHistory.Proofs.Report.Tags

namespace CuratedHistory

/-! Sound trees, from which well-formed HTML is rendered whatever texts are in them, and the
parts of a block, all of which are sound when its hashes are hexadecimal. -/

namespace Html

mutual

/-- Elements of the program, texts, and finished markup that is well-formed by itself. -/
@[simp] def Sound : Html → Prop
  | .text _ => True
  | .markup content => WellFormed content
  | .element tag attributes children =>
      (∃ name ∈ elementNames, tag = name.toList) ∧ OwnTag (tag ++ renderAttributes attributes) ∧
        AllSound children

@[simp] def AllSound : List Html → Prop
  | [] => True
  | node :: rest => Sound node ∧ AllSound rest

end

variable {nodes later : List Html} {tag : Text} {attributes : List (Text × Text)}

theorem allSound_iff : AllSound nodes ↔ ∀ node ∈ nodes, node.Sound := by
  induction nodes with
  | nil => simp [AllSound]
  | cons node rest ih => rw [AllSound, ih, List.forall_mem_cons]

theorem AllSound.append (one : AllSound nodes) (another : AllSound later) :
    AllSound (nodes ++ later) := by
  rw [allSound_iff] at *
  exact List.forall_mem_append.mpr ⟨one, another⟩

theorem AllSound.lines (sound : ∀ node ∈ nodes, node.Sound) : AllSound (Html.lines nodes) := by
  rw [allSound_iff, Html.lines, List.forall_mem_flatMap]
  intro node member
  rw [List.forall_mem_cons, List.forall_mem_singleton]
  exact ⟨sound node member, trivial⟩

theorem Sound.plain {tag : String} (listed : tag ∈ elementNames ∧ tag ∈ fixedTags)
    (inner : AllSound nodes) : (Html.plain tag nodes).Sound := by
  refine ⟨⟨tag, listed.1, rfl⟩, ?_, inner⟩
  rw [renderAttributes, List.flatMap_nil, List.append_nil]
  exact .fixed listed.2

theorem Sound.classed {tag className : String} (named : tag ∈ elementNames)
    (listed : tag ++ " class=\"" ++ className ++ "\"" ∈ fixedTags) (inner : AllSound nodes) :
    (Html.classed tag className nodes).Sound := by
  refine ⟨⟨tag, named, rfl⟩, ?_, inner⟩
  have written : tag.toList ++ renderAttributes [("class".toList, className.toList)] =
      (tag ++ " class=\"" ++ className ++ "\"").toList := by
    simp [renderAttributes]
  rw [written]
  exact .fixed listed

theorem code_title (value : Text) : "code".toList ++ renderAttributes [("title".toList, value)] =
    "code title=\"".toList ++ value ++ ['"'] := by
  simp [renderAttributes]

mutual

theorem Sound.wellFormed : ∀ node : Html, node.Sound → WellFormed node.render
  | .text content, _ => .escaped content
  | .markup _, finished => finished
  | .element _ _ children, ⟨⟨_, listed, rfl⟩, own, inner⟩ =>
      .element listed own (AllSound.wellFormed children inner)

theorem AllSound.wellFormed : ∀ nodes : List Html, AllSound nodes → WellFormed (renderAll nodes)
  | [], _ => .of_bare (by decide)
  | node :: rest, ⟨head, others⟩ => (Sound.wellFormed node head).append (AllSound.wellFormed rest others)

end

end Html

open Html

theorem middot_wellFormed : WellFormed "&middot;".toList :=
  .entity (by decide)

/-- Sound nodes, a note, or a diff that a note can stand in for. -/
def Part.Sound : Part → Prop
  | .html nodes => AllSound nodes
  | .failure _ => True
  | .diff _ child => child.Hexadecimal

namespace Block

variable {commits : CommitLookup} {record first last : Record} {records : List Record} {hash : Text}

theorem hash_wellFormed (hex : hash.Hexadecimal) : WellFormed hash :=
  .of_bare (.hexadecimal hex)

theorem planNote_sound (record : Record) : AllSound (planNote record) := by
  unfold planNote
  split
  · exact ⟨trivial, .classed (by simp) (by simp) ⟨trivial, trivial, trivial⟩, trivial⟩
  · trivial

theorem shaCode_sound (hex : hash.Hexadecimal) :
    (shaCode [] hash).Sound ∧ (shaCode [("class".toList, "sha".toList)] hash).Sound :=
  ⟨.plain (by simp) ⟨hash_wellFormed hex, trivial⟩,
    .classed (by simp) (by simp) ⟨hash_wellFormed hex, trivial⟩⟩

theorem commitHeader_sound (hex : hash.Hexadecimal) {commit : Commit} (known : commit.hash.Hexadecimal) :
    (commitHeader hash commit).Sound := by
  have title : (Html.plain "h3" [shaCode [("class".toList, "sha".toList)] hash,
      .text (' ' :: commit.subject)]).Sound :=
    .plain (by simp) ⟨(shaCode_sound hex).2, trivial, trivial⟩
  have details : (Html.classed "p" "meta" [
      .text (commit.author ++ " <".toList ++ commit.authorEmail ++ "> ".toList),
      .markup "&middot;".toList, .text (' ' :: commit.time.minuteText ++ [' ']),
      .markup "&middot;".toList, Html.string " ", shaCode [] commit.hash]).Sound :=
    .classed (by simp) (by simp)
      ⟨trivial, middot_wellFormed, trivial, middot_wellFormed, trivial, (shaCode_sound known).1, trivial⟩
  have message : AllSound (if commit.body = [] then []
      else [Html.classed "pre" "message" [.text commit.body], Html.newline]) := by
    split
    · trivial
    · exact ⟨.classed (by simp) (by simp) ⟨trivial, trivial⟩, trivial, trivial⟩
  refine .classed (by simp) (by simp) (AllSound.append ?_ message)
  exact ⟨trivial, title, trivial, details, trivial, trivial⟩

theorem recordHeader_sound (hex : hash.Hexadecimal) (record : Record) :
    (recordHeader hash record).Sound := by
  have title : (Html.plain "h3" [shaCode [("class".toList, "sha".toList)] hash]).Sound :=
    .plain (by simp) ⟨(shaCode_sound hex).2, trivial⟩
  have code : (Html.plain "code" [.text record.commit]).Sound :=
    .plain (by simp) ⟨trivial, trivial⟩
  have details : (Html.classed "p" "meta" [Html.plain "code" [.text record.commit]]).Sound :=
    .classed (by simp) (by simp) ⟨code, trivial⟩
  exact .classed (by simp) (by simp) ⟨trivial, title, trivial, details, trivial, trivial⟩

theorem shownHeader_sound (hex : record.Hexadecimal commits) :
    AllSound (shownHeader record (commits record.commit)) := by
  have short := shownHash_hexadecimal hex
  cases known : commits record.commit with
  | none =>
      rw [known] at short
      exact ⟨recordHeader_sound short record, planNote_sound record⟩
  | some commit =>
      rw [known] at short
      exact ⟨commitHeader_sound short (hex.known commit known), planNote_sound record⟩

theorem labelLine_sound (label : Option Text) : ∀ part ∈ labelLine label, part.Sound := by
  cases label with
  | none => exact List.forall_mem_nil _
  | some label =>
      rw [labelLine, List.forall_mem_singleton]
      exact ⟨.classed (by simp) (by simp) ⟨trivial, trivial, trivial⟩, trivial⟩

theorem ownDiff_sound (hex : record.Hexadecimal commits) :
    ∀ part ∈ ownDiff (commits record.commit), part.Sound := by
  cases known : commits record.commit with
  | none => exact List.forall_mem_nil _
  | some commit =>
      rw [ownDiff, List.forall_mem_singleton]
      exact hex.known commit known

theorem missingNote_sound (record : Record) (commit : Option Commit) :
    ∀ part ∈ missingNote record commit, part.Sound := by
  cases commit with
  | none => exact List.forall_mem_singleton.mpr trivial
  | some commit => exact List.forall_mem_nil _

theorem shownParts_sound (hex : record.Hexadecimal commits) :
    ∀ part ∈ shownParts record (commits record.commit), part.Sound := by
  rw [shownParts, List.forall_mem_append, List.forall_mem_singleton]
  exact ⟨missingNote_sound record _, shownHeader_sound hex⟩

theorem commitParts_sound (hex : record.Hexadecimal commits) (label : Option Text) :
    ∀ part ∈ shownParts record (commits record.commit) ++ labelLine label ++
      ownDiff (commits record.commit), part.Sound := by
  rw [List.forall_mem_append, List.forall_mem_append]
  exact ⟨⟨shownParts_sound hex, labelLine_sound label⟩, ownDiff_sound hex⟩

theorem reasonNode_sound (record : Record) : (reasonNode record).Sound :=
  .classed (by simp) (by simp) ⟨trivial, trivial, trivial⟩

theorem spanOf_bare (hex : first.commit.Hexadecimal) (hexLast : last.commit.Hexadecimal) :
    Bare (spanOf first last) :=
  ((Bare.hexadecimal (hex.take 7)).append (by decide : Bare "..".toList)).append
    (.hexadecimal (hexLast.take 7))

theorem runHeader_sound (hex : first.commit.Hexadecimal) (hexLast : last.commit.Hexadecimal)
    (count : Text) : (runHeader count (spanOf first last) first last).Sound := by
  have title : OwnTag ("code".toList ++ renderAttributes
      [("title".toList, first.commit ++ "..".toList ++ last.commit)]) := by
    rw [code_title]
    simpa using OwnTag.span hex hexLast
  have span : (shaCode [("title".toList, first.commit ++ "..".toList ++ last.commit)]
      (spanOf first last)).Sound :=
    ⟨⟨"code", by simp, rfl⟩, title, .of_bare (spanOf_bare hex hexLast), trivial⟩
  exact .classed (by simp) (by simp) ⟨trivial, trivial, trivial, span, trivial⟩

theorem squashedDiff_sound (hex : last.commit.Hexadecimal) (commit : Option Commit) :
    (squashedDiff commit last).Sound := by
  cases commit with
  | none => trivial
  | some commit => exact hex

theorem squashedList_sound (hex : ∀ record ∈ records, record.Hexadecimal commits) :
    (squashedList (records.map fun record =>
      Html.plain "li" (shownHeader record (commits record.commit)))).Sound := by
  refine .classed (by simp) (by simp) ⟨trivial, .lines ?_⟩
  rw [List.forall_mem_map]
  exact fun record member => .plain (by simp) (shownHeader_sound (hex record member))

theorem scopeNode_sound : scopeNode.Sound :=
  .classed (by simp) (by simp) ⟨trivial, trivial⟩

theorem sectionOpening_sound (sectionLabel : Text) : (sectionOpening sectionLabel).Sound := by
  have label : (Html.plain "h2" [Html.string "Section: ", .text sectionLabel]).Sound :=
    .plain (by simp) ⟨trivial, trivial, trivial⟩
  have notice : (Html.classed "p" "notice" [Html.string bundleNotice]).Sound :=
    .classed (by simp) (by simp) ⟨trivial, trivial⟩
  exact .classed (by simp) (by simp) ⟨label, trivial, notice, trivial⟩

theorem sectionClosing_sound (sectionLabel : Text) : (sectionClosing sectionLabel).Sound :=
  .classed (by simp) (by simp) ⟨trivial, trivial, trivial⟩

/-- Each block of hexadecimal hashes has an outline with nothing but sound parts. -/
theorem exists_sound_outline (block : Block) (hex : ∀ record ∈ block.records, record.Hexadecimal commits) :
    ∃ outline, block.outline? commits = some outline ∧ ∀ part ∈ outline.parts, part.Sound := by
  cases block with
  | single record =>
      have known := hex record (List.mem_singleton_self record)
      refine ⟨_, singleOutline_eq known, ?_⟩
      rw [parts_ofParts, List.forall_mem_append]
      exact ⟨shownParts_sound known, ownDiff_sound known⟩
  | dropped record =>
      have known := hex record (List.mem_singleton_self record)
      refine ⟨_, droppedOutline_eq known, ?_⟩
      rw [parts_ofParts, List.forall_mem_append, List.forall_mem_singleton]
      exact ⟨shownParts_sound known, reasonNode_sound record, trivial⟩
  | squashRun records =>
      cases records with
      | nil => exact ⟨_, rfl, List.forall_mem_nil _⟩
      | cons opener rest =>
          obtain ⟨last, isLast⟩ := Option.isSome_iff_exists.mp
            (List.getLast?_isSome.mpr (List.cons_ne_nil opener rest))
          have start := (hex opener List.mem_cons_self).named
          have stop := (hex last (List.mem_of_getLast? isLast)).named
          have notes : ∀ part ∈ (opener :: rest).flatMap fun record =>
              missingNote record (commits record.commit), part.Sound :=
            List.forall_mem_flatMap.mpr fun record _ => missingNote_sound record _
          refine ⟨_, squashOutline_eq hex isLast, ?_⟩
          rw [parts_ofParts]
          refine List.forall_mem_append.mpr
            ⟨List.forall_mem_cons.mpr ⟨⟨runHeader_sound start stop _, trivial⟩, notes⟩, ?_⟩
          rw [List.forall_mem_cons, List.forall_mem_cons, List.forall_mem_singleton]
          exact ⟨squashedDiff_sound stop _, ⟨squashedList_sound hex, trivial⟩, scopeNode_sound, trivial⟩
  | bundleRun sectionLabel records =>
      refine ⟨_, bundleOutline_eq hex, ?_⟩
      rw [Outline.parts, List.forall_mem_flatMap, List.forall_mem_append, List.forall_mem_cons,
        List.forall_mem_singleton, List.forall_mem_map]
      simp only [Entry.parts, List.forall_mem_singleton]
      exact ⟨⟨⟨sectionOpening_sound sectionLabel, trivial⟩,
        fun record member => commitParts_sound (hex record member) _⟩,
        sectionClosing_sound sectionLabel, trivial⟩

end Block

namespace Fragment

variable {history : History} {part : Part} {entry : Entry} {base : DiffBase} {child : Text}
  {nodes : List Html} {block : Block} {blocks : List Block} {outline : Outline} {body : Body}
  {bodies : List Body} {fragment : Fragment} {fragments : List Fragment} {number : Nat}

theorem failure_sound (note : Text) : AllSound (Body.failure note).nodes :=
  ⟨.classed (by simp) (by simp) ⟨trivial, trivial⟩, trivial, trivial⟩

theorem html_sound (sound : AllSound nodes) : AllSound (Body.html nodes).nodes :=
  sound.append ⟨trivial, trivial⟩

theorem escapedHtml_sound (text : Text) : (Markup.escapedHtml text).Sound := by
  refine .classed (by simp) (by simp) ?_
  rw [allSound_iff, List.forall_mem_flatMap]
  rintro ⟨kind, line⟩ _
  rw [Markup.ofLine, List.forall_mem_cons, List.forall_mem_singleton]
  refine ⟨?_, trivial⟩
  cases kind <;> exact .classed (by simp) (by simp [DiffLineKind.className]) ⟨trivial, trivial⟩

theorem diffNodes_sound (made : diffNodes? history .escaped base child = some nodes) : AllSound nodes := by
  obtain rfl | ⟨patch, rfl⟩ := diffNodes_escaped made
  · exact ⟨.classed (by simp) (by simp) ⟨trivial, trivial⟩, trivial⟩
  · exact ⟨.classed (by simp) (by simp) ⟨trivial, trivial⟩, trivial, escapedHtml_sound _, trivial⟩

theorem sound_part (sound : part.Sound) (made : partBody history .escaped part = some body) :
    AllSound body.nodes := by
  cases part with
  | html nodes =>
      cases made
      exact html_sound sound
  | failure note =>
      cases made
      exact failure_sound note
  | diff base child =>
      obtain ⟨nodes, diffed, rfl⟩ | ⟨_, note, rfl⟩ := diffBody_cases made
      · exact html_sound (diffNodes_sound diffed)
      · exact failure_sound note

theorem sound_bodies {α : Type} {read : α → Option Body} {items : List α}
    (each : ∀ item ∈ items, ∀ body, read item = some body → AllSound body.nodes)
    (made : items.mapM read = some bodies) : AllSound (Body.concat bodies).nodes := by
  refine allSound_iff.mpr (List.forall_mem_flatMap.mpr fun body inside => ?_)
  obtain ⟨item, among, isBody⟩ := exists_item_of_mapM made body inside
  exact allSound_iff.mp (each item among body isBody)

theorem sound_entry (sound : ∀ part ∈ entry.parts, part.Sound)
    (made : entryBody history .escaped entry = some body) : AllSound body.nodes := by
  cases entry with
  | line part => exact sound_part (sound part (List.mem_singleton_self part)) made
  | member parts =>
      obtain ⟨bodies, read, rfl⟩ := memberBody_cases made
      have members : AllSound (Body.concat bodies).nodes :=
        sound_bodies (fun part inside _ => sound_part (sound part inside)) read
      exact ⟨.classed (by simp) (by simp) ⟨trivial, members⟩, trivial, trivial⟩

theorem kindClass_listed (kind : BlockKind) : kindClass kind ∈ sectionClasses := by
  cases kind <;> simp [kindClass]

theorem sectionHtml_sound (kind : BlockKind) (number : Nat) (sound : AllSound nodes) :
    (sectionHtml kind (anchorOf number) nodes).Sound := by
  refine ⟨⟨"section", by simp, rfl⟩, ?_, trivial, sound⟩
  simpa [renderAttributes, anchorOf] using OwnTag.block (kindClass_listed kind) number

/-- The nodes that the fragment of a block is rendered from. -/
theorem ofBlock?_sound (hex : ∀ record ∈ block.records, record.Hexadecimal history.commit?)
    (read : block.outline? history.commit? = some outline)
    (made : outline.entries.mapM (entryBody history .escaped) = some bodies) (number : Nat) :
    AllSound [sectionHtml block.kind (anchorOf number) (Body.concat bodies).nodes, Html.newline] := by
  obtain ⟨same, readToo, sound⟩ := Block.exists_sound_outline block hex
  rw [read, Option.some.injEq] at readToo
  subst same
  rw [Outline.parts, List.forall_mem_flatMap] at sound
  have inner : AllSound (Body.concat bodies).nodes :=
    sound_bodies (fun entry inside _ => sound_entry (sound entry inside)) made
  exact ⟨sectionHtml_sound block.kind number inner, trivial, trivial⟩

theorem wellFormed_of_made (hex : ∀ record ∈ block.records, record.Hexadecimal history.commit?)
    (made : ofBlock? history .escaped number block = some fragment) : WellFormed fragment.html := by
  obtain ⟨outline, bodies, outlined, read, rfl⟩ := ofBlock?_eq_some_iff.mp made
  exact AllSound.wellFormed _ (ofBlock?_sound hex outlined read number)

/-- Each fragment is one well-formed section with a numbered anchor. -/
theorem sound_of_made
    (hex : ∀ block ∈ blocks, ∀ record ∈ block.records, record.Hexadecimal history.commit?)
    (made : ofBlocksFrom? history .escaped number blocks = some fragments) :
    ∀ fragment ∈ fragments, (∃ place, fragment.anchor = anchorOf place) ∧ WellFormed fragment.html := by
  intro fragment member
  obtain ⟨block, inside, place, here⟩ := exists_block_of_made made member
  exact ⟨⟨place, (anchor_of_made here).1⟩, wellFormed_of_made (hex block inside) here⟩

end Fragment

end CuratedHistory
