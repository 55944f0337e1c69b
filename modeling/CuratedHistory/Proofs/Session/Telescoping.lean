import CuratedHistory.Session.Source
import CuratedHistory.Proofs.Plan.Grouping
import CuratedHistory.Proofs.Plan.Run
import CuratedHistory.Proofs.Report.Asking
import CuratedHistory.Proofs.Report.Failures
import CuratedHistory.Proofs.Repository.Hashes
import CuratedHistory.Proofs.Repository.Range

namespace CuratedHistory

/-! The diffs that the blocks of a plan ask for, seen together. If the plan leaves no
commit of its range out and drops none, they lead from the base of the range to its tip:
each one starts at the commit where the one before it ended. -/

/-- Diffs that lead from one commit to another without a gap and without an overlap. -/
structure Telescopes (start finish : Text) (requests : List (DiffBase × Text)) : Prop where
  starts : requests.head?.map Prod.fst = some (.commit start)
  ends : requests.getLast?.map Prod.snd = some finish
  linked : requests.IsChain fun earlier later => later.1 = .commit earlier.2

namespace Telescopes

variable {start between finish : Text} {requests later : List (DiffBase × Text)}

theorem single (start finish : Text) : Telescopes start finish [(.commit start, finish)] where
  starts := rfl
  ends := rfl
  linked := .singleton _

theorem append (first : Telescopes start between requests) (second : Telescopes between finish later) :
    Telescopes start finish (requests ++ later) where
  starts := by
    rw [List.head?_append_of_ne_nil]
    · exact first.starts
    · rintro rfl
      exact absurd first.starts (by simp)
  ends := by
    rw [List.getLast?_append_of_ne_nil]
    · exact second.ends
    · rintro rfl
      exact absurd second.ends (by simp)
  linked := by
    refine List.isChain_append.mpr ⟨first.linked, second.linked, ?_⟩
    intro last isLast next isNext
    have ends := first.ends
    have starts := second.starts
    rw [Option.mem_def.mp isLast, Option.map_some, Option.some.injEq] at ends
    rw [Option.mem_def.mp isNext, Option.map_some, Option.some.injEq] at starts
    rw [starts, ends]

end Telescopes

namespace CommitRange

variable {range : CommitRange} {hash parent other start finish : Text} {hashes later : List Text}

/-- The commit with this hash is one of the range, and this is its first parent. -/
def HasFirstParent (range : CommitRange) (hash parent : Text) : Prop :=
  ∃ commit ∈ range.commits, commit.hash = hash ∧ commit.firstParent? = some parent

/-- The hashes lead from one commit to another, each of them over its first parent. -/
inductive Leads (range : CommitRange) : Text → List Text → Text → Prop where
  | here {hash : Text} : Leads range hash [] hash
  | step {parent hash finish : Text} {hashes : List Text} (first : range.HasFirstParent hash parent)
      (rest : Leads range hash hashes finish) : Leads range parent (hash :: hashes) finish

theorem HasFirstParent.unique (distinct : range.hashes.Nodup)
    (one : range.HasFirstParent hash parent) (another : range.HasFirstParent hash other) :
    parent = other := by
  obtain ⟨commit, member, rfl, isParent⟩ := one
  obtain ⟨commit', member', same, isOther⟩ := another
  obtain rfl := List.inj_on_of_nodup_map distinct member' member same
  exact Option.some.inj (isParent.symm.trans isOther)

namespace Leads

theorem split (leads : Leads range start (hashes ++ later) finish) :
    ∃ between, Leads range start hashes between ∧ Leads range between later finish := by
  induction hashes generalizing start with
  | nil => exact ⟨start, .here, leads⟩
  | cons hash rest ih =>
      cases leads with
      | step first further =>
          obtain ⟨between, before, after⟩ := ih further
          exact ⟨between, .step first before, after⟩

theorem finish_eq (leads : Leads range start hashes finish) :
    hashes.getLast?.getD start = finish := by
  induction leads with
  | here => rfl
  | step first rest ih => rw [List.getLast?_cons, Option.getD_some, ih]

theorem exists_parent (leads : Leads range start hashes finish) (member : hash ∈ hashes) :
    ∃ parent, range.HasFirstParent hash parent := by
  induction leads with
  | here => contradiction
  | step first rest ih =>
      rcases List.mem_cons.mp member with rfl | inside
      · exact ⟨_, first⟩
      · exact ih inside

/-- Commits of the range, each the first parent of the next one, lead on to the last. -/
theorem of_linked {commits : List Commit} (inside : ∀ commit ∈ commits, commit ∈ range.commits)
    (oldest : ∀ commit, commits.head? = some commit → commit.firstParent? = some start)
    (linked : commits.IsChain fun earlier later => later.firstParent? = some earlier.hash) :
    Leads range start (commits.map Commit.hash) ((commits.map Commit.hash).getLast?.getD start) := by
  induction commits generalizing start with
  | nil => exact .here
  | cons commit rest ih =>
      rw [List.forall_mem_cons] at inside
      obtain ⟨next, further⟩ := List.isChain_cons.mp linked
      have onward := ih inside.2 next further
      rw [List.map_cons, List.getLast?_cons, Option.getD_some]
      exact .step ⟨commit, inside.1, rfl, oldest commit rfl⟩ onward

end Leads

end CommitRange

theorem FirstParentRange.leads {repository : Repository} {first last : StoredCommit}
    {range : CommitRange} (exact : FirstParentRange repository first last range) :
    range.Leads range.base range.hashes range.tip := by
  have leads := CommitRange.Leads.of_linked (fun _ inside => inside) exact.oldest exact.linked
  have ends : (range.commits.map Commit.hash).getLast?.getD first.hash = last.hash := by
    rw [List.getLast?_map]
    cases isLast : range.commits.getLast? with
    | none =>
        have empty : range.isEmpty = true := by
          rw [CommitRange.isEmpty, List.getLast?_eq_none_iff.mp isLast, List.isEmpty_nil]
        exact exact.empty.mp empty
    | some newest => rw [exact.latest newest isLast]; rfl
  rw [exact.base, exact.tip, ← ends]
  exact leads

namespace Block

variable {range : CommitRange} {commits : CommitLookup} {block : Block} {blocks : List Block}
  {record : Record} {records : List Record} {requests : List (DiffBase × Text)}
  {answers : List (List (DiffBase × Text))} {start finish : Text}

/-- What a record asks for: the change of its commit against the first parent. -/
def OwnChange (range : CommitRange) (record : Record) (request : DiffBase × Text) : Prop :=
  ∃ parent, range.HasFirstParent record.commit parent ∧ request = (.commit parent, record.commit)

/-- What a block asks for. A squash run asks for all its changes at once. -/
inductive AsksFor (range : CommitRange) : Block → List (DiffBase × Text) → Prop where
  | single {record : Record} {request : DiffBase × Text} (change : OwnChange range record request) :
      AsksFor range (.single record) [request]
  | dropped {record : Record} : AsksFor range (.dropped record) []
  | squashRun {records : List Record} {first last : Record} {parent : Text}
      (isFirst : records.head? = some first) (isLast : records.getLast? = some last)
      (before : range.HasFirstParent first.commit parent) :
      AsksFor range (.squashRun records) [(.commit parent, last.commit)]
  | bundleRun {sectionLabel : Text} {records : List Record} {requests : List (DiffBase × Text)}
      (changes : List.Forall₂ (OwnChange range) records requests) :
      AsksFor range (.bundleRun sectionLabel records) requests

/-- What is known of the commit of a record is what the range has. -/
def Known (range : CommitRange) (commits : CommitLookup) (record : Record) : Prop :=
  ∃ commit ∈ range.commits, commit.hash = record.commit ∧ commits record.commit = some commit

theorem Known.isMissing_eq (known : Known range commits record) : isMissing commits record = false := by
  obtain ⟨commit, _, _, found⟩ := known
  rw [isMissing, found, Option.isNone_some]

theorem Known.exists_change (distinct : range.hashes.Nodup)
    (leads : range.Leads start range.hashes finish) (known : Known range commits record) :
    ∃ parent commit, range.HasFirstParent record.commit parent ∧
      commits record.commit = some commit ∧ commit.hash = record.commit ∧
        DiffBase.ofCommit commit = .commit parent := by
  obtain ⟨commit, member, same, found⟩ := known
  obtain ⟨parent, other, otherMember, otherSame, isParent⟩ :=
    leads.exists_parent (List.mem_map_of_mem member)
  obtain rfl := List.inj_on_of_nodup_map distinct otherMember member otherSame
  refine ⟨parent, other, ⟨other, member, same, isParent⟩, found, same, ?_⟩
  rw [DiffBase.ofCommit, isParent]

theorem Known.change_eq (distinct : range.hashes.Nodup)
    (leads : range.Leads start range.hashes finish) (known : Known range commits record) :
    ∃ request, change commits record = some request ∧ OwnChange range record request := by
  obtain ⟨parent, commit, isParent, found, same, base⟩ := known.exists_change distinct leads
  exact ⟨_, by rw [change, found, Option.map_some, base, same], parent, isParent, rfl⟩

theorem changes_of_known (distinct : range.hashes.Nodup)
    (leads : range.Leads start range.hashes finish)
    (known : ∀ record ∈ records, Known range commits record) :
    List.Forall₂ (OwnChange range) records (records.filterMap (change commits)) := by
  induction records with
  | nil => exact .nil
  | cons record rest ih =>
      rw [List.forall_mem_cons] at known
      obtain ⟨request, isChange, own⟩ := known.1.change_eq distinct leads
      rw [List.filterMap_cons_some isChange]
      exact .cons own (ih known.2)

/-- With all commits known, a block asks for what its kind stands for. -/
theorem asksFor_changes (distinct : range.hashes.Nodup)
    (leads : range.Leads start range.hashes finish) (uniform : block.Uniform)
    (known : ∀ record ∈ block.records, Known range commits record) :
    AsksFor range block (block.changes commits) := by
  cases block with
  | single record =>
      obtain ⟨request, isChange, own⟩ :=
        (known record (List.mem_singleton_self record)).change_eq distinct leads
      rw [changes, isChange]
      exact .single own
  | dropped record => exact .dropped
  | squashRun records =>
      obtain ⟨first, rest, rfl⟩ := List.exists_cons_of_ne_nil uniform.1
      obtain ⟨last, isLast⟩ := Option.isSome_iff_exists.mp
        (List.getLast?_isSome.mpr (List.cons_ne_nil first rest))
      obtain ⟨parent, commit, isParent, found, _, base⟩ :=
        (known first List.mem_cons_self).exists_change distinct leads
      simp only [changes, isLast, found, Option.map_some, base]
      exact .squashRun rfl isLast isParent
  | bundleRun sectionLabel records => exact .bundleRun (changes_of_known distinct leads known)

theorem ownChange_telescopes (distinct : range.hashes.Nodup) {request : DiffBase × Text}
    (before : range.HasFirstParent record.commit start) (change : OwnChange range record request) :
    Telescopes start record.commit [request] := by
  obtain ⟨parent, isParent, rfl⟩ := change
  obtain rfl := before.unique distinct isParent
  exact .single _ _

theorem ownChanges_telescope (distinct : range.hashes.Nodup) (something : records ≠ [])
    (leads : range.Leads start (records.map Record.commit) finish)
    (changes : List.Forall₂ (OwnChange range) records requests) :
    Telescopes start finish requests := by
  induction changes generalizing start with
  | nil => contradiction
  | @cons record request rest following change others ih =>
      cases leads with
      | step before further =>
          have first := ownChange_telescopes distinct before change
          cases rest with
          | nil =>
              cases others
              cases further
              exact first
          | cons next rest =>
              rw [← List.singleton_append]
              exact first.append (ih (List.cons_ne_nil next rest) further)

/-- A block that leaves nothing out leads over the commits of its records. -/
theorem AsksFor.telescopes (distinct : range.hashes.Nodup) (asks : AsksFor range block requests)
    (uniform : block.Uniform) (kept : ∀ record ∈ block.records, record.action ≠ .drop)
    (leads : range.Leads start (block.records.map Record.commit) finish) :
    Telescopes start finish requests := by
  cases asks with
  | single change =>
      exact ownChanges_telescope distinct (List.cons_ne_nil _ _) leads (.cons change .nil)
  | dropped => exact absurd uniform (kept _ (List.mem_singleton_self _))
  | @squashRun records first last parent isFirst isLast before =>
      obtain ⟨rest, rfl⟩ := List.head?_eq_some_iff.mp isFirst
      have ends := leads.finish_eq
      rw [records, List.getLast?_map, isLast] at ends
      cases leads with
      | step isParent further =>
          obtain rfl := isParent.unique distinct before
          subst ends
          exact .single _ _
  | bundleRun changes => exact ownChanges_telescope distinct uniform.1 leads changes

theorem asksFor_telescope (distinct : range.hashes.Nodup) (something : blocks ≠ [])
    (uniform : ∀ block ∈ blocks, block.Uniform)
    (kept : ∀ block ∈ blocks, ∀ record ∈ block.records, record.action ≠ .drop)
    (leads : range.Leads start ((blocks.flatMap Block.records).map Record.commit) finish)
    (asks : List.Forall₂ (AsksFor range) blocks answers) :
    Telescopes start finish answers.flatten := by
  induction asks generalizing start with
  | nil => contradiction
  | @cons block requests rest following first others ih =>
      rw [List.forall_mem_cons] at uniform kept
      rw [List.flatMap_cons, List.map_append] at leads
      -- The block ends at a commit of the way, where the blocks that follow start.
      obtain ⟨between, before, after⟩ := leads.split
      have opening := first.telescopes distinct uniform.1 kept.1 before
      rw [List.flatten_cons]
      cases rest with
      | nil =>
          cases others
          cases after
          rw [List.flatten_nil, List.append_nil]
          exact opening
      | cons next rest =>
          exact opening.append (ih (List.cons_ne_nil next rest) uniform.2 kept.2 after)

end Block

namespace Repository

variable {repository : Repository} {first last : StoredCommit} {range : CommitRange}
  {base tip text : Text} {records : List Record} {record : Record} {commits : CommitLookup}
  {history : History}

theorem members_planRange (named : repository.FullyNamed)
    (exact : FirstParentRange repository first last range) : range.planRange.members = range.hashes := by
  apply PlanRange.members_ofHashes exact.distinct
  intro hash member
  obtain ⟨commit, inside, rfl⟩ := List.mem_map.mp member
  obtain ⟨stored, found, _⟩ := exact.stored commit inside
  exact (named.of_find? found).2

theorem known_of_mem (named : repository.FullyNamed)
    (exact : FirstParentRange repository first last range) (inside : record.commit ∈ range.hashes) :
    Block.Known range repository.history.commit? record := by
  obtain ⟨commit, member, same⟩ := List.mem_map.mp inside
  obtain ⟨stored, found, rfl⟩ := exact.stored commit member
  rw [same] at found
  refine ⟨stored.metadata, member, same, ?_⟩
  simp only [history, revision_eq_ok named found, Except.toOption, Option.map_some]

theorem hexadecimal_of_known (named : repository.FullyNamed)
    (exact : FirstParentRange repository first last range) (known : Block.Known range commits record) :
    record.Hexadecimal commits := by
  obtain ⟨commit, member, same, isKnown⟩ := known
  obtain ⟨stored, found, _⟩ := exact.stored commit member
  have hex : commit.hash.Hexadecimal := .of_isFullHash (named.of_find? found).1
  refine ⟨same ▸ hex, ?_⟩
  intro other isOther
  rw [isKnown, Option.some.injEq] at isOther
  rwa [← isOther]

/-- A plan that leaves no commit of its range out has them all in order. -/
theorem commits_eq_hashes (named : repository.FullyNamed)
    (exact : FirstParentRange repository first last range)
    (accepted : repository.parsePlan range text = .ok records)
    (all : ∀ hash ∈ range.hashes, hash ∈ records.map Record.commit) :
    records.map Record.commit = range.hashes := by
  obtain ⟨parser, consistent, rfl⟩ := PlanParser.exists_consistent accepted
  have members := members_planRange named exact
  rw [← members]
  apply PlanRange.eq_members_of_precedes
  · rw [members]
    exact exact.distinct
  · exact List.pairwise_map.mpr consistent.ordered
  · intro hash
    constructor
    · intro inside
      obtain ⟨record, member, rfl⟩ := List.mem_map.mp inside
      exact (consistent.wellFormed record member).member
    · rw [members]
      exact all hash

end Repository

/-- What the blocks of a plan ask their source for: the diffs in their outlines, block by
block, each of them what the kind of its block stands for. A source that writes down what it
is asked for is asked for these, in this order. Whatever diffs a source has, a fragment has a
note for each of its own that cannot be shown. No other diff matters. -/
structure Asked (range : CommitRange) (history : History) (blocks : List Block)
    (requests : List (List (DiffBase × Text))) : Prop where
  outlined : blocks.mapM (Block.requests? history.commit?) = some requests
  each : List.Forall₂ (Block.AsksFor range) blocks requests
  recorded : ∀ markup : Markup, ∃ fragments, Fragment.ofBlocks? history markup blocks = some fragments ∧
    (Asking.ofBlocks history markup blocks).run [] = some (fragments, requests.flatten)
  noticed : ∀ (other : History) (markup : Markup), other.commit? = history.commit? →
    ∃ fragments, Fragment.ofBlocks? other markup blocks = some fragments ∧
      fragments.map Fragment.fallbacks = requests.map (List.countP (Fragment.cannotShow other markup))
  enough : ∀ (other : History) (markup : Markup), other.commit? = history.commit? →
    (∀ request ∈ requests.flatten, other.diff? request.1 request.2 = history.diff? request.1 request.2) →
      Fragment.ofBlocks? other markup blocks = Fragment.ofBlocks? history markup blocks

theorem asked_of_known {range : CommitRange} {history : History} {blocks : List Block}
    {start finish : Text} (distinct : range.hashes.Nodup)
    (leads : range.Leads start range.hashes finish) (uniform : ∀ block ∈ blocks, block.Uniform)
    (hex : ∀ block ∈ blocks, ∀ record ∈ block.records, record.Hexadecimal history.commit?)
    (known : ∀ block ∈ blocks, ∀ record ∈ block.records, Block.Known range history.commit? record) :
    Asked range history blocks (blocks.map (Block.changes history.commit?)) where
  outlined := by
    refine mapM_eq_some_map fun block member => ?_
    obtain ⟨outline, outlined, same⟩ := block.exists_outline (hex block member)
    rw [Block.requests?, outlined, Option.map_some, same]
  each := by
    rw [List.forall₂_map_right_iff, List.forall₂_same]
    intro block member
    exact Block.asksFor_changes distinct leads (uniform block member) (known block member)
  recorded := by
    intro markup
    obtain ⟨fragments, made⟩ := Fragment.exists_fragments hex markup 1
    have run := Asking.asks_ofBlocksFrom history markup blocks 1 []
    rw [made, Option.map_some, List.nil_append, List.flatMap_def] at run
    exact ⟨fragments, made, run⟩
  noticed := by
    intro other markup sameCommits
    have otherHex : ∀ block ∈ blocks, ∀ record ∈ block.records, record.Hexadecimal other.commit? := by
      rwa [sameCommits]
    obtain ⟨fragments, made⟩ := Fragment.exists_fragments otherHex markup 1
    refine ⟨fragments, made, ?_⟩
    rw [Fragment.map_fallbacks_of_made _ made, sameCommits, List.map_map]
    · rfl
    · intro block member record inside
      rw [sameCommits]
      exact (known block member record inside).isMissing_eq
  enough := by
    intro other markup sameCommits agree
    refine Fragment.ofBlocksFrom?_congr 1 fun block member number => ?_
    refine Fragment.ofBlock?_congr number (by rw [sameCommits]) ?_
    intro outline isOutline
    obtain ⟨shown, outlined, same⟩ := block.exists_outline (hex block member)
    rw [isOutline, Option.some.injEq] at outlined
    subst outlined
    apply Fragment.AgreeOn.of_diff?
    intro request asked
    rw [same] at asked
    exact agree request (List.mem_flatten_of_mem (List.mem_map_of_mem member) asked)

namespace Repository

variable {repository : Repository} {range : CommitRange} {base tip text : Text}
  {records : List Record}

/-- The diffs that a report on an accepted plan asks for, as long as the commits of its
records are known, which in the repository itself they are. If the plan names all commits
of a range and drops none, the diffs lead from the base of the range to its tip. -/
theorem requests_telescope (acyclic : repository.Acyclic) (named : repository.FullyNamed)
    (found : repository.range base tip = .ok range)
    (accepted : repository.parsePlan range text = .ok records) :
    (∀ record ∈ records, Block.Known range repository.history.commit? record) ∧
    ∀ history : History, (∀ record ∈ records, Block.Known range history.commit? record) →
      ∃ requests, Asked range history (compile records) requests ∧
        (range.isEmpty = false → (∀ hash ∈ range.hashes, hash ∈ records.map Record.commit) →
          (∀ record ∈ records, record.action ≠ .drop) →
            Telescopes range.base range.tip requests.flatten) := by
  obtain ⟨first, last, exact⟩ := exists_firstParentRange acyclic found
  have groups := compile_groups records
  constructor
  · intro record member
    obtain ⟨parser, consistent, rfl⟩ := PlanParser.exists_consistent accepted
    apply known_of_mem named exact
    rw [← members_planRange named exact]
    exact (consistent.wellFormed record member).member
  · intro history known
    have inBlocks : ∀ block ∈ compile records, ∀ record ∈ block.records, record ∈ records := by
      intro block member record inside
      rw [← groups.covers]
      exact List.mem_flatMap_of_mem member inside
    have asked : Asked range history (compile records) _ :=
      asked_of_known exact.distinct exact.leads groups.uniform
        (fun block member record inside =>
          hexadecimal_of_known named exact (known record (inBlocks block member record inside)))
        (fun block member record inside => known record (inBlocks block member record inside))
    refine ⟨_, asked, ?_⟩
    intro something all kept
    have whole := commits_eq_hashes named exact accepted all
    have blocks : compile records ≠ [] := by
      intro nothing
      have noRecords := groups.covers
      rw [nothing, List.flatMap_nil] at noRecords
      rw [← noRecords, List.map_nil] at whole
      rw [CommitRange.isEmpty, List.isEmpty_iff.mpr (List.map_eq_nil_iff.mp whole.symm)] at something
      contradiction
    refine Block.asksFor_telescope exact.distinct blocks groups.uniform ?_ ?_ asked.each
    · exact fun block member record inside => kept record (inBlocks block member record inside)
    · rw [groups.covers, whole]
      exact exact.leads

/-- The merge, with two more commits after it. -/
def continued : Repository where
  commits := merged.commits ++ [plainCommit 'e' ['d'], plainCommit 'f' ['e']]
  references := []
  head := some (.commit (List.replicate hashLength 'f'))

def continuedRange : CommitRange where
  base := List.replicate hashLength 'a'
  tip := List.replicate hashLength 'f'
  commits := [plainCommit 'b' ['a'], plainCommit 'd' ['b', 'c'], plainCommit 'e' ['d'],
    plainCommit 'f' ['e']].map StoredCommit.metadata

def continuedPlan : Text :=
  "pick bbbbbbb\nsquash ddddddd\nsquash eeeeeee\nbundle fffffff %Last".toList

def continuedRecords : List Record := [
  plainRecord 1 .pick 'b', plainRecord 2 .squash 'd', plainRecord 3 .squash 'e',
  { plainRecord 4 .bundle 'f' with sectionLabel := some "Last".toList }]

theorem continued_acyclic : continued.Acyclic :=
  acyclic_of_rank (fun hash => continued.hashes.idxOf hash) (by decide +kernel)

theorem continued_range : continued.range "HEAD~4".toList "HEAD".toList = .ok continuedRange := by
  have baseFound : continued.revision "HEAD~4".toList = .ok (plainCommit 'a' []) := by decide +kernel
  have tipFound : continued.revision "HEAD".toList = .ok (plainCommit 'f' ['e']) := by decide +kernel
  have first : FirstParentChain continued (plainCommit 'a' []).hash (plainCommit 'b' ['a']).hash
      ([] ++ [plainCommit 'b' ['a']]) := .step (by decide +kernel) rfl .arrived
  have merge : FirstParentChain continued (plainCommit 'a' []).hash (plainCommit 'd' ['b', 'c']).hash
      ([] ++ [plainCommit 'b' ['a']] ++ [plainCommit 'd' ['b', 'c']]) :=
    .step (by decide +kernel) rfl first
  have after : FirstParentChain continued (plainCommit 'a' []).hash (plainCommit 'e' ['d']).hash
      ([] ++ [plainCommit 'b' ['a']] ++ [plainCommit 'd' ['b', 'c']] ++ [plainCommit 'e' ['d']]) :=
    .step (by decide +kernel) rfl merge
  have chain : FirstParentChain continued (plainCommit 'a' []).hash (plainCommit 'f' ['e']).hash
      ([] ++ [plainCommit 'b' ['a']] ++ [plainCommit 'd' ['b', 'c']] ++ [plainCommit 'e' ['d']] ++
        [plainCommit 'f' ['e']]) :=
    .step (by decide +kernel) rfl after
  exact range_of_chain baseFound tipFound chain.reaches ((chain?_eq_some_iff continued_acyclic).2 chain)

theorem requests_telescope_continued :
    continued.Acyclic ∧ continued.FullyNamed ∧
      continued.range "HEAD~4".toList "HEAD".toList = .ok continuedRange ∧
      continued.parsePlan continuedRange continuedPlan = .ok continuedRecords ∧
      continuedRange.isEmpty = false ∧
      (∀ hash ∈ continuedRange.hashes, hash ∈ continuedRecords.map Record.commit) ∧
      (∀ record ∈ continuedRecords, record.action ≠ .drop) ∧
      (∀ record ∈ continuedRecords, Block.Known continuedRange continued.history.commit? record) ∧
      ∃ requests, Asked continuedRange continued.history (compile continuedRecords) requests ∧
        Telescopes continuedRange.base continuedRange.tip requests.flatten := by
  have named : continued.FullyNamed := by
    unfold FullyNamed
    decide +kernel
  have accepted : continued.parsePlan continuedRange continuedPlan = .ok continuedRecords := by
    decide +kernel
  have something : continuedRange.isEmpty = false := rfl
  have all : ∀ hash ∈ continuedRange.hashes, hash ∈ continuedRecords.map Record.commit := by decide +kernel
  have kept : ∀ record ∈ continuedRecords, record.action ≠ .drop := by decide
  obtain ⟨known, each⟩ := requests_telescope continued_acyclic named continued_range accepted
  obtain ⟨requests, asked, telescopes⟩ := each continued.history known
  exact ⟨continued_acyclic, named, continued_range, accepted, something, all, kept, known, requests,
    asked, telescopes something all kept⟩

end Repository

end CuratedHistory
