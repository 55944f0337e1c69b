import CuratedHistory.Proofs.Report.Document
import CuratedHistory.Proofs.Report.Sections

namespace CuratedHistory

/-! How many notes on failures a fragment has: one for each commit that is not known, one for each
diff that is asked for and cannot be shown, and one if a squash run cannot even ask for its diff. -/

namespace Fragment

variable {history : History} {markup : Markup} {part : Part} {entry : Entry} {body : Body}
  {bodies : List Body} {base : DiffBase} {child : Text} {block : Block} {fragment : Fragment}
  {number : Nat}

/-- Whether a diff cannot be shown: there is none, or something is changed and there is no markup
of it. -/
def cannotShow (history : History) (markup : Markup) (change : DiffBase × Text) : Bool :=
  match history.diff? change.1 change.2 with
  | none => true
  | some patch => !patch.isEmpty && !(markup.convertPatch patch).isOk

theorem diffNodes_isNone :
    (diffNodes? history markup base child).isNone = cannotShow history markup (base, child) := by
  unfold diffNodes? cannotShow
  cases history.diff? base child with
  | none => rfl
  | some patch =>
      cases empty : patch.isEmpty with
      | true => simp [empty]
      | false => cases converted : markup.convertPatch patch <;> simp [empty, converted, Except.isOk, Except.toBool]

/-- How many notes are made from parts: those among them, and one for each diff that cannot be
shown. -/
def notesIn (history : History) (markup : Markup) (parts : List Part) : Nat :=
  parts.countP Part.isFailure + (parts.filterMap Part.request?).countP (cannotShow history markup)

theorem notesIn_append (parts later : List Part) :
    notesIn history markup (parts ++ later) = notesIn history markup parts + notesIn history markup later := by
  rw [notesIn, List.countP_append, List.filterMap_append, List.countP_append, notesIn, notesIn]
  omega

theorem fallbacks_diff (made : diffBody history markup base child = some body) :
    body.fallbacks = (cannotShow history markup (base, child)).toNat := by
  rw [← diffNodes_isNone]
  obtain ⟨nodes, shown, rfl⟩ | ⟨missing, note, rfl⟩ := diffBody_cases made
  · rw [shown]
    rfl
  · rw [missing]
    rfl

theorem fallbacks_part (made : partBody history markup part = some body) :
    body.fallbacks = notesIn history markup [part] := by
  cases part with
  | html nodes =>
      cases made
      rfl
  | failure note =>
      cases made
      rfl
  | diff base child =>
      have asked : notesIn history markup [.diff base child] =
          0 + [(base, child)].countP (cannotShow history markup) := rfl
      rw [fallbacks_diff made, asked, Nat.zero_add, List.countP_singleton]
      cases cannotShow history markup (base, child) <;> rfl

theorem fallbacks_bodies {α : Type} {read : α → Option Body} {own : α → List Part} {items : List α}
    (each : ∀ item ∈ items, ∀ body, read item = some body →
      body.fallbacks = notesIn history markup (own item))
    (made : items.mapM read = some bodies) :
    (Body.concat bodies).fallbacks = notesIn history markup (items.flatMap own) := by
  have pairs := forall₂_of_mapM made
  clear made
  induction pairs with
  | nil => rfl
  | @cons item body rest others here _ ih =>
      rw [List.forall_mem_cons] at each
      have total : (Body.concat (body :: others)).fallbacks =
          body.fallbacks + (Body.concat others).fallbacks := rfl
      rw [total, each.1 body here, ih each.2, List.flatMap_cons, notesIn_append]

theorem fallbacks_entry (made : entryBody history markup entry = some body) :
    body.fallbacks = notesIn history markup entry.parts := by
  cases entry with
  | line part => exact fallbacks_part made
  | member parts =>
      obtain ⟨bodies, read, rfl⟩ := memberBody_cases made
      have whole : (Body.concat bodies).fallbacks = notesIn history markup (parts.flatMap fun part => [part]) :=
        fallbacks_bodies (fun part _ _ => fallbacks_part) read
      rwa [List.flatMap_singleton'] at whole

/-- The notes of a fragment, however it was made. -/
theorem fallbacks_of_made (made : ofBlock? history markup number block = some fragment) :
    fragment.fallbacks = block.missingNotes history.commit? +
      (block.changes history.commit?).countP (cannotShow history markup) := by
  obtain ⟨outline, bodies, outlined, read, rfl⟩ := ofBlock?_eq_some_iff.mp made
  have holds := Block.outline_holds outlined
  have counted := fallbacks_bodies (fun entry _ _ => fallbacks_entry) read
  have shown : (ofBodies number block outline.title bodies).fallbacks = (Body.concat bodies).fallbacks := rfl
  rw [shown, counted, ← Outline.parts, notesIn, holds.requests, holds.failures]

/-- With all commits known, each fragment has a note for each of its diffs that cannot be shown. -/
theorem map_fallbacks_of_made {blocks : List Block} {fragments : List Fragment}
    (known : ∀ block ∈ blocks, ∀ record ∈ block.records, Block.isMissing history.commit? record = false)
    (made : ofBlocksFrom? history markup number blocks = some fragments) :
    fragments.map Fragment.fallbacks = blocks.map fun block =>
      (block.changes history.commit?).countP (cannotShow history markup) := by
  have pairs := forall₂_of_made made
  clear made
  induction pairs with
  | nil => rfl
  | @cons block fragment rest others here _ ih =>
      rw [List.forall_mem_cons] at known
      obtain ⟨place, made⟩ := here
      rw [List.map_cons, List.map_cons, ih known.2, fallbacks_of_made made,
        Block.missingNotes_eq_zero known.1, Nat.zero_add]

theorem length_failuresIn (hex : ∀ record ∈ block.records, record.Hexadecimal history.commit?)
    (made : ofBlock? history .escaped number block = some fragment) :
    (failuresIn fragment.html).length = fragment.fallbacks := by
  rw [failuresIn_eq, ← List.countP_eq_length_filter]
  exact (landmarks_ofBlock hex made).failures

/-- The number of fallbacks is exact. The fragment of a block of hexadecimal hashes has one for each
record whose commit is not known, one for each diff that is asked for and cannot be shown, and one
for a squash run that asks for no diff since its first commit is not known. Made with escaped
markup, it has as many notes on failures in its HTML, whatever the texts in it are. -/
theorem fallbacks_exact (hex : ∀ record ∈ block.records, record.Hexadecimal history.commit?)
    (markup : Markup) (number : Nat) :
    ∃ fragment, ofBlock? history markup number block = some fragment ∧
      block.requests? history.commit? = some (block.changes history.commit?) ∧
      fragment.fallbacks = block.records.countP (Block.isMissing history.commit?) +
        (block.changes history.commit?).countP (cannotShow history markup) +
        (block.lacksFirst history.commit?).toNat ∧
      (markup = .escaped → (failuresIn fragment.html).length = fragment.fallbacks) := by
  obtain ⟨fragment, made⟩ := exists_fragment hex markup number
  obtain ⟨outline, outlined, asked⟩ := block.exists_outline hex
  refine ⟨fragment, made, ?_, ?_, ?_⟩
  · rw [Block.requests?, outlined, Option.map_some, asked]
  · rw [fallbacks_of_made made, Block.missingNotes]
    exact Nat.add_right_comm _ _ _
  · rintro rfl
    exact length_failuresIn hex made

/-- A squash run whose first commit is not known, and a section with a commit that is not known
and one whose diff cannot be had. -/
def brokenBlocks : List Block := [
  .squashRun [plainRecord 1 .squash 'b', plainRecord 2 .squash 'c'],
  .bundleRun "A".toList [plainRecord 3 .bundle 'a', plainRecord 4 .bundle 'b', plainRecord 5 .bundle 'e']]

theorem fallbacks_exact_brokenBlocks :
    (∀ block ∈ brokenBlocks, ∀ record ∈ block.records, record.Hexadecimal hostile.commit?) ∧
      ∀ block ∈ brokenBlocks, ∃ fragment, ofBlock? hostile .escaped 1 block = some fragment ∧
        fragment.fallbacks = 2 ∧ (failuresIn fragment.html).length = 2 := by
  have hex : ∀ block ∈ brokenBlocks, ∀ record ∈ block.records, record.Hexadecimal hostile.commit? := by
    simp only [brokenBlocks, Block.records, List.forall_mem_cons, List.mem_nil_iff, false_implies,
      implies_true, and_true]
    and_intros
    all_goals exact hostile_hexadecimal (by decide) _ rfl
  have two : ∀ block ∈ brokenBlocks, block.records.countP (Block.isMissing hostile.commit?) +
      (block.changes hostile.commit?).countP (cannotShow hostile .escaped) +
      (block.lacksFirst hostile.commit?).toNat = 2 := by
    decide +kernel
  refine ⟨hex, fun block member => ?_⟩
  obtain ⟨fragment, made, _, fallbacks, notes⟩ := fallbacks_exact (hex block member) .escaped 1
  rw [two block member] at fallbacks
  exact ⟨fragment, made, fallbacks, (notes rfl).trans fallbacks⟩

end Fragment

end CuratedHistory
