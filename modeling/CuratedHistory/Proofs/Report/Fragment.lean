import CuratedHistory.Report.Fragment
import CuratedHistory.Proofs.Report.Outline

namespace CuratedHistory

/-! Fragments depend on their source through the metadata of commits and through the
diffs that the outlines of their blocks ask for. No other diff is looked at. -/

/-- The diffs that a block asks for, in order, if it can be outlined. -/
def Block.requests? (commits : CommitLookup) (block : Block) : Option (List (DiffBase × Text)) :=
  (block.outline? commits).map Outline.requests

theorem Part.mem_requests {part : Part} {parts : List Part} {request : DiffBase × Text}
    (inside : part ∈ parts) (asks : part.request? = some request) :
    request ∈ parts.filterMap Part.request? :=
  List.mem_filterMap.mpr ⟨part, inside, asks⟩

namespace Fragment

variable {history other : History} {markup otherMarkup : Markup} {block : Block} {outline : Outline}

/-- Both sources and ways of markup come to the same for the diffs that are asked for. -/
def AgreeOn (history other : History) (markup otherMarkup : Markup)
    (requests : List (DiffBase × Text)) : Prop :=
  ∀ request ∈ requests, diffBody history markup request.1 request.2 =
    diffBody other otherMarkup request.1 request.2

/-- A diff becomes its nodes, or a note in place of them. -/
theorem diffBody_cases {base : DiffBase} {child : Text} {body : Body}
    (made : diffBody history markup base child = some body) :
    (∃ nodes, diffNodes? history markup base child = some nodes ∧ body = .html nodes) ∨
      diffNodes? history markup base child = none ∧ ∃ note, body = .failure note := by
  unfold diffBody at made
  split at made
  · rename_i nodes diffed
    exact .inl ⟨nodes, diffed, (Option.some.inj made).symm⟩
  · rename_i missing
    obtain ⟨short, _, isNote⟩ := Option.bind_eq_some_iff.mp made
    exact .inr ⟨missing, _, (Option.some.inj isNote).symm⟩

/-- The parts of a member become one article. -/
theorem memberBody_cases {parts : List Part} {body : Body}
    (made : entryBody history markup (.member parts) = some body) :
    ∃ bodies, parts.mapM (partBody history markup) = some bodies ∧
      body = ⟨[Html.classed "article" "bundle-member" (Html.newline :: (Body.concat bodies).nodes),
        Html.newline], (Body.concat bodies).fallbacks⟩ := by
  obtain ⟨inner, made, isBody⟩ := Option.bind_eq_some_iff.mp made
  obtain ⟨bodies, read, isInner⟩ := Option.bind_eq_some_iff.mp made
  cases isInner
  exact ⟨bodies, read, (Option.some.inj isBody).symm⟩

theorem AgreeOn.of_diff? {requests : List (DiffBase × Text)}
    (same : ∀ request ∈ requests, other.diff? request.1 request.2 = history.diff? request.1 request.2) :
    AgreeOn other history markup markup requests := by
  intro request asked
  simp only [diffBody, diffNodes?, same request asked]

theorem partBody_congr {part : Part}
    (agree : ∀ request, part.request? = some request →
      diffBody history markup request.1 request.2 = diffBody other otherMarkup request.1 request.2) :
    partBody history markup part = partBody other otherMarkup part := by
  cases part with
  | html nodes => rfl
  | failure note => rfl
  | diff base child => exact agree (base, child) rfl

theorem entryBody_congr {entry : Entry}
    (agree : AgreeOn history other markup otherMarkup (entry.parts.filterMap Part.request?)) :
    entryBody history markup entry = entryBody other otherMarkup entry := by
  have each : ∀ part ∈ entry.parts,
      partBody history markup part = partBody other otherMarkup part := by
    intro part inside
    exact partBody_congr fun request asks => agree request (Part.mem_requests inside asks)
  cases entry with
  | line part => exact each part (List.mem_singleton_self part)
  | member parts =>
      have same : parts.mapM (partBody history markup) = parts.mapM (partBody other otherMarkup) :=
        mapM_congr each
      simp only [entryBody, partsBody, same]

/-- The fragment of a block is settled by its outline and by what becomes of the diffs
that the outline asks for. -/
theorem ofBlock?_congr (index : Nat) (same : block.outline? history.commit? = block.outline? other.commit?)
    (agree : ∀ outline, block.outline? other.commit? = some outline →
      AgreeOn history other markup otherMarkup outline.requests) :
    ofBlock? history markup index block = ofBlock? other otherMarkup index block := by
  unfold ofBlock?
  rw [same]
  cases outlined : block.outline? other.commit? with
  | none => rfl
  | some outline =>
      have each : ∀ entry ∈ outline.entries,
          entryBody history markup entry = entryBody other otherMarkup entry := by
        intro entry inside
        apply entryBody_congr
        intro request asked
        obtain ⟨part, among, asks⟩ := List.mem_filterMap.mp asked
        exact agree outline outlined request
          (Part.mem_requests (List.mem_flatMap.mpr ⟨entry, inside, among⟩) asks)
      simp only [Option.bind_eq_bind, Option.bind_some, mapM_congr each]

/-- The fragment of a block with this title, made of these bodies. -/
def ofBodies (index : Nat) (block : Block) (title : Text) (bodies : List Body) : Fragment where
  anchor := anchorOf index
  kind := block.kind
  title := title
  html := Html.renderAll
    [sectionHtml block.kind (anchorOf index) (Body.concat bodies).nodes, Html.newline]
  fallbacks := (Body.concat bodies).fallbacks

theorem ofBlock?_eq_some_iff {index : Nat} {fragment : Fragment} :
    ofBlock? history markup index block = some fragment ↔ ∃ outline bodies,
      block.outline? history.commit? = some outline ∧
        outline.entries.mapM (entryBody history markup) = some bodies ∧
          ofBodies index block outline.title bodies = fragment := by
  constructor
  · intro made
    obtain ⟨outline, outlined, made⟩ := Option.bind_eq_some_iff.mp made
    obtain ⟨bodies, read, isFragment⟩ := Option.bind_eq_some_iff.mp made
    exact ⟨outline, bodies, outlined, read, Option.some.inj isFragment⟩
  · rintro ⟨outline, bodies, outlined, read, rfl⟩
    simp only [ofBlock?, outlined, read, Option.bind_eq_bind, Option.bind_some]
    rfl

theorem anchor_of_made {index : Nat} {fragment : Fragment}
    (made : ofBlock? history markup index block = some fragment) :
    fragment.anchor = anchorOf index ∧ fragment.kind = block.kind := by
  obtain ⟨outline, bodies, _, _, rfl⟩ := ofBlock?_eq_some_iff.mp made
  exact ⟨rfl, rfl⟩

theorem exists_partBody {part : Part} (short : ∀ request, part.request? = some request →
      ∃ short, shortHash? request.2 = some short) :
    ∃ body, partBody history markup part = some body := by
  cases part with
  | html nodes => exact ⟨_, rfl⟩
  | failure note => exact ⟨_, rfl⟩
  | diff base child =>
      cases made : diffNodes? history markup base child with
      | some nodes => exact ⟨.html nodes, by simp only [partBody, diffBody, made]⟩
      | none =>
          obtain ⟨short, isShort⟩ := short (base, child) rfl
          refine ⟨.failure ("The diff for ".toList ++ short ++ " could not be rendered.".toList), ?_⟩
          simp only [partBody, diffBody, made, isShort, Option.bind_eq_bind, Option.bind_some, pure]

theorem exists_entryBody {entry : Entry} (short : ∀ request ∈ entry.parts.filterMap Part.request?,
      ∃ short, shortHash? request.2 = some short) :
    ∃ body, entryBody history markup entry = some body := by
  have each : ∀ part ∈ entry.parts, ∃ body, partBody history markup part = some body :=
    fun part inside => exists_partBody fun request asks => short request (Part.mem_requests inside asks)
  cases entry with
  | line part => exact each part (List.mem_singleton_self part)
  | member parts =>
      obtain ⟨bodies, made⟩ := exists_mapM each
      refine ⟨⟨[Html.classed "article" "bundle-member" (Html.newline :: (Body.concat bodies).nodes),
        Html.newline], (Body.concat bodies).fallbacks⟩, ?_⟩
      simp only [Entry.parts] at made
      simp only [entryBody, partsBody, made, Option.bind_eq_bind, Option.bind_some, pure]

/-- Blocks of hexadecimal hashes have fragments, whatever is not available. -/
theorem exists_fragment (hex : ∀ record ∈ block.records, record.Hexadecimal history.commit?)
    (markup : Markup) (index : Nat) : ∃ fragment, ofBlock? history markup index block = some fragment := by
  obtain ⟨outline, outlined, asked⟩ := block.exists_outline hex
  have short : ∀ request ∈ outline.requests, ∃ short, shortHash? request.2 = some short := by
    intro request asks
    rw [asked] at asks
    exact ⟨_, shortHash?_of_hexadecimal (Block.hexadecimal_of_mem_changes hex asks)⟩
  obtain ⟨bodies, read⟩ : ∃ bodies, outline.entries.mapM (entryBody history markup) = some bodies := by
    refine exists_mapM fun entry inside => exists_entryBody fun request asks => short request ?_
    rw [Outline.requests, Outline.parts, List.filterMap_flatMap]
    exact List.mem_flatMap_of_mem inside asks
  exact ⟨_, ofBlock?_eq_some_iff.mpr ⟨outline, bodies, outlined, read, rfl⟩⟩

section Blocks

variable {blocks : List Block} {fragments : List Fragment} {number : Nat}

theorem ofBlocksFrom?_congr (index : Nat)
    (each : ∀ block ∈ blocks, ∀ number,
      ofBlock? history markup number block = ofBlock? other otherMarkup number block) :
    ofBlocksFrom? history markup index blocks = ofBlocksFrom? other otherMarkup index blocks := by
  induction blocks generalizing index with
  | nil => rfl
  | cons block rest ih =>
      rw [List.forall_mem_cons] at each
      rw [ofBlocksFrom?, ofBlocksFrom?, each.1 index, ih (index + 1) each.2]

/-- Each fragment is made of the block at its place. -/
theorem forall₂_of_made (made : ofBlocksFrom? history markup number blocks = some fragments) :
    List.Forall₂ (fun block fragment => ∃ place, ofBlock? history markup place block = some fragment)
      blocks fragments := by
  induction blocks generalizing number fragments with
  | nil =>
      cases made
      exact .nil
  | cons block rest ih =>
      obtain ⟨fragment, here, made⟩ := Option.bind_eq_some_iff.mp made
      obtain ⟨following, later, whole⟩ := Option.bind_eq_some_iff.mp made
      cases whole
      exact .cons ⟨number, here⟩ (ih later)

/-- The fragment at a place is the one of the block there. -/
theorem getElem?_of_made (made : ofBlocksFrom? history markup number blocks = some fragments) (place : Nat) :
    fragments[place]? = blocks[place]?.bind (ofBlock? history markup (place + number)) := by
  induction blocks generalizing number fragments place with
  | nil =>
      cases made
      rfl
  | cons block rest ih =>
      obtain ⟨fragment, here, made⟩ := Option.bind_eq_some_iff.mp made
      obtain ⟨following, later, whole⟩ := Option.bind_eq_some_iff.mp made
      cases whole
      cases place with
      | zero => rw [List.getElem?_cons_zero, List.getElem?_cons_zero, Option.bind_some, Nat.zero_add, here]
      | succ place =>
          rw [List.getElem?_cons_succ, List.getElem?_cons_succ, ih later place, Nat.add_right_comm,
            Nat.add_assoc]

theorem exists_block_of_made (made : ofBlocksFrom? history markup number blocks = some fragments)
    {fragment : Fragment} (member : fragment ∈ fragments) :
    ∃ block ∈ blocks, ∃ place, ofBlock? history markup place block = some fragment := by
  obtain ⟨place, here⟩ := List.getElem?_of_mem member
  rw [getElem?_of_made made] at here
  obtain ⟨block, isBlock, here⟩ := Option.bind_eq_some_iff.mp here
  exact ⟨block, List.mem_of_getElem? isBlock, _, here⟩

/-- The anchors and kinds of fragments are those of their blocks, whatever fails. -/
theorem places_of_made (made : ofBlocksFrom? history markup number blocks = some fragments) :
    fragments.map (fun fragment => (fragment.anchor, fragment.kind)) =
      blocks.mapIdx fun place block => (anchorOf (place + number), block.kind) := by
  refine List.ext_getElem? fun place => ?_
  have here := getElem?_of_made made place
  rw [List.getElem?_map, List.getElem?_mapIdx]
  cases isBlock : blocks[place]? with
  | none => rw [here, isBlock]; rfl
  | some block =>
      have inside : place < fragments.length := by
        rw [← (forall₂_of_made made).length_eq]
        exact (List.getElem?_eq_some_iff.mp isBlock).1
      rw [isBlock, Option.bind_some, List.getElem?_eq_getElem inside] at here
      obtain ⟨anchor, kind⟩ := anchor_of_made here.symm
      rw [List.getElem?_eq_getElem inside, Option.map_some, Option.map_some, anchor, kind]

/-- Blocks of hexadecimal hashes have fragments, one for each. -/
theorem exists_fragments
    (hex : ∀ block ∈ blocks, ∀ record ∈ block.records, record.Hexadecimal history.commit?)
    (markup : Markup) (number : Nat) :
    ∃ fragments, ofBlocksFrom? history markup number blocks = some fragments := by
  induction blocks generalizing number with
  | nil => exact ⟨[], rfl⟩
  | cons block rest ih =>
      rw [List.forall_mem_cons] at hex
      obtain ⟨fragment, here⟩ := exists_fragment hex.1 markup number
      obtain ⟨following, later⟩ := ih hex.2 (number + 1)
      exact ⟨fragment :: following, by
        simp only [ofBlocksFrom?, here, later, Option.bind_eq_bind, Option.bind_some, pure]⟩

end Blocks

end Fragment

end CuratedHistory
