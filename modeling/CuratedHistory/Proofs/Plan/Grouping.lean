import Mathlib.Data.List.Chain
import CuratedHistory.Plan.Block

namespace CuratedHistory

/-! Compiling a plan groups its records in the only way that leaves no two
neighbouring blocks to be joined. One half follows the loop: each record keeps the
complete blocks and the open run a maximal grouping of what has been read. The
other half reads any maximal grouping back, block by block. -/

namespace Block

/-- The records of a block have the action that its kind stands for, and a run has
at least one. -/
def Uniform : Block → Prop
  | .single record => record.action = .pick
  | .dropped record => record.action = .drop
  | .squashRun records => records ≠ [] ∧ ∀ record ∈ records, record.action = .squash
  | .bundleRun _ records => records ≠ [] ∧ ∀ record ∈ records, record.action = .bundle

/-- A bundle run has the section of its first record, whatever the later ones have. -/
def Labelled : Block → Prop
  | .bundleRun sectionLabel records =>
      ∀ first, records.head? = some first → sectionLabel = first.sectionLabel.getD []
  | _ => True

/-- Both blocks are squash runs, or both are bundle runs. -/
def Joinable (earlier later : Block) : Prop :=
  earlier.kind = later.kind ∧ (later.kind = .squashRun ∨ later.kind = .bundleRun)

end Block

/-- Every record stands in one block, in order, and runs are as long as they can be. -/
structure MaximalGrouping (records : List Record) (blocks : List Block) : Prop where
  covers : blocks.flatMap Block.records = records
  uniform : ∀ block ∈ blocks, block.Uniform
  maximal : blocks.IsChain fun earlier later => ¬ Block.Joinable earlier later
  labelled : ∀ block ∈ blocks, block.Labelled

namespace MaximalGrouping

variable {records : List Record} {blocks : List Block} {block : Block}

theorem nil : MaximalGrouping [] [] where
  covers := rfl
  uniform := by simp
  maximal := .nil
  labelled := by simp

theorem snoc (grouping : MaximalGrouping records blocks)
    (uniform : block.Uniform) (labelled : block.Labelled)
    (apart : ∀ last ∈ blocks.getLast?, ¬ Block.Joinable last block) :
    MaximalGrouping (records ++ block.records) (blocks ++ [block]) where
  covers := by simp [grouping.covers]
  uniform := by
    rw [List.forall_mem_append, List.forall_mem_singleton]
    exact ⟨grouping.uniform, uniform⟩
  maximal := by
    refine List.isChain_append.mpr ⟨grouping.maximal, .singleton _, ?_⟩
    intro last isLast next isNext
    simp only [List.head?_cons, Option.mem_def, Option.some.injEq] at isNext
    subst next
    exact apart last isLast
  labelled := by
    rw [List.forall_mem_append, List.forall_mem_singleton]
    exact ⟨grouping.labelled, labelled⟩

theorem init (grouping : MaximalGrouping records (blocks ++ [block])) :
    MaximalGrouping (blocks.flatMap Block.records) blocks where
  covers := rfl
  uniform := fun candidate member => grouping.uniform candidate (List.mem_append_left _ member)
  maximal := (List.isChain_append.mp grouping.maximal).1
  labelled := fun candidate member => grouping.labelled candidate (List.mem_append_left _ member)

theorem tail (grouping : MaximalGrouping records (block :: blocks)) :
    MaximalGrouping (blocks.flatMap Block.records) blocks where
  covers := rfl
  uniform := fun candidate member => grouping.uniform candidate (List.mem_cons_of_mem _ member)
  maximal := grouping.maximal.tail
  labelled := fun candidate member => grouping.labelled candidate (List.mem_cons_of_mem _ member)

/-- The last block may grow as long as it keeps its kind. -/
theorem extendLast {record : Record} {longer : Block}
    (grouping : MaximalGrouping records (blocks ++ [block]))
    (kind : longer.kind = block.kind) (grown : longer.records = block.records ++ [record])
    (uniform : longer.Uniform) (labelled : longer.Labelled) :
    MaximalGrouping (records ++ [record]) (blocks ++ [longer]) := by
  have apart : ∀ last ∈ blocks.getLast?, ¬ Block.Joinable last longer := by
    intro last isLast
    have before := (List.isChain_append.mp grouping.maximal).2.2 last isLast block (by simp)
    simpa only [Block.Joinable, kind] using before
  have result := grouping.init.snoc uniform labelled apart
  have same : blocks.flatMap Block.records ++ longer.records = records ++ [record] := by
    rw [grown, ← grouping.covers]
    simp
  rwa [same] at result

end MaximalGrouping

namespace OpenRun

theorem close_uniform_iff (run : OpenRun) :
    run.close.Uniform ↔
      run.close.records ≠ [] ∧ ∀ record ∈ run.close.records, record.action = run.action := by
  cases run <;> rfl

@[simp] theorem push_action (run : OpenRun) (record : Record) :
    (run.push record).action = run.action := by
  cases run <;> rfl

@[simp] theorem close_push_kind (run : OpenRun) (record : Record) :
    (run.push record).close.kind = run.close.kind := by
  cases run <;> rfl

@[simp] theorem close_push_records (run : OpenRun) (record : Record) :
    (run.push record).close.records = run.close.records ++ [record] := by
  cases run <;> rfl

theorem push_uniform {run : OpenRun} {record : Record} (uniform : run.close.Uniform)
    (same : run.action = record.action) : (run.push record).close.Uniform := by
  rw [close_uniform_iff] at uniform ⊢
  rw [close_push_records, push_action, List.forall_mem_append, List.forall_mem_singleton]
  exact ⟨by simp, uniform.2, same.symm⟩

/-- The label is that of the first record, which stays the first one. -/
theorem push_labelled {run : OpenRun} {record : Record} (uniform : run.close.Uniform)
    (labelled : run.close.Labelled) : (run.push record).close.Labelled := by
  cases run with
  | squash records => trivial
  | bundle sectionLabel records =>
      intro first isFirst
      cases records with
      | nil => exact absurd rfl uniform.1
      | cons opener rest => exact labelled first isFirst

/-- The run with further records at its end. -/
def extend (rest : List Record) : OpenRun → OpenRun
  | .squash records => .squash (records ++ rest)
  | .bundle sectionLabel records => .bundle sectionLabel (records ++ rest)

@[simp] theorem extend_nil (run : OpenRun) : run.extend [] = run := by
  cases run <;> simp [extend]

@[simp] theorem extend_push (run : OpenRun) (record : Record) (rest : List Record) :
    (run.push record).extend rest = run.extend (record :: rest) := by
  cases run <;> simp [extend, push]

end OpenRun

namespace Grouping

variable {grouping : Grouping} {record : Record} {block : Block}

/-- What the loop keeps: its blocks group the records read so far, and without an
open run the last block takes no further record. -/
structure Groups (grouping : Grouping) (read : List Record) : Prop where
  closed : MaximalGrouping read grouping.closed
  settled : grouping.openRun = none → ∀ last ∈ grouping.blocks.getLast?,
    last.kind ≠ .squashRun ∧ last.kind ≠ .bundleRun

/-- The block that a record starts. -/
def opener (record : Record) : Block :=
  match record.action with
  | .pick => .single record
  | .drop => .dropped record
  | .squash => .squashRun [record]
  | .bundle => .bundleRun (record.sectionLabel.getD []) [record]

theorem opener_records (record : Record) : (opener record).records = [record] := by
  cases action : record.action <;> simp [opener, action, Block.records]

theorem opener_uniform (record : Record) : (opener record).Uniform := by
  cases action : record.action <;> simp [opener, action, Block.Uniform]

theorem opener_labelled (record : Record) : (opener record).Labelled := by
  cases action : record.action <;> simp [opener, action, Block.Labelled]

@[simp] theorem start_closed (grouping : Grouping) (record : Record) :
    (grouping.start record).closed = grouping.closed ++ [opener record] := by
  cases action : record.action <;> simp [start, opener, action, closed, OpenRun.close]

theorem closed_of_openRun {run : OpenRun} (isOpen : grouping.openRun = some run) :
    grouping.closed = grouping.blocks ++ [run.close] := by
  simp only [closed, isOpen]

theorem closed_of_settled (isClosed : grouping.openRun = none) :
    grouping.closed = grouping.blocks := by
  simp only [closed, isClosed]

theorem opener_kind_of_openRun {run : OpenRun} (other : run.action ≠ record.action) :
    ¬ Block.Joinable run.close (opener record) := by
  cases run <;> cases action : record.action <;>
    simp_all [OpenRun.action, OpenRun.close, opener, Block.Joinable, Block.kind]

theorem Groups.empty : Groups .empty [] where
  closed := .nil
  settled := by simp [Grouping.empty]

theorem Groups.push {read : List Record} {run : OpenRun} (groups : grouping.Groups read)
    (isOpen : grouping.openRun = some run) (same : run.action = record.action) :
    Groups { grouping with openRun := some (run.push record) } (read ++ [record]) where
  closed := by
    have grouped := groups.closed
    rw [closed_of_openRun isOpen] at grouped
    have uniform := grouped.uniform run.close (by simp)
    have labelled := grouped.labelled run.close (by simp)
    exact grouped.extendLast (run.close_push_kind record) (run.close_push_records record)
      (OpenRun.push_uniform uniform same) (OpenRun.push_labelled uniform labelled)
  settled := by simp

theorem Groups.start {read : List Record} (groups : grouping.Groups read)
    (other : ∀ run, grouping.openRun = some run → run.action ≠ record.action) :
    (grouping.start record).Groups (read ++ [record]) where
  closed := by
    have apart : ∀ last ∈ grouping.closed.getLast?, ¬ Block.Joinable last (opener record) := by
      intro last isLast
      cases isOpen : grouping.openRun with
      | none =>
          rw [closed_of_settled isOpen] at isLast
          have settled := groups.settled isOpen last isLast
          rintro ⟨kind, isRun⟩
          rcases isRun with squash | bundle
          · exact settled.1 (kind.trans squash)
          · exact settled.2 (kind.trans bundle)
      | some run =>
          rw [closed_of_openRun isOpen, List.getLast?_concat, Option.mem_some_iff] at isLast
          subst last
          exact opener_kind_of_openRun (other run isOpen)
    have result := groups.closed.snoc (opener_uniform record) (opener_labelled record) apart
    rwa [opener_records, ← start_closed] at result
  settled := by
    cases action : record.action <;> simp [Grouping.start, action, Block.kind]

theorem Groups.add {read : List Record} (groups : grouping.Groups read) (record : Record) :
    (grouping.add record).Groups (read ++ [record]) := by
  cases isOpen : grouping.openRun with
  | none =>
      simp only [Grouping.add, isOpen]
      exact groups.start (by simp [isOpen])
  | some run =>
      simp only [Grouping.add, isOpen]
      by_cases same : run.action = record.action
      · rw [if_pos same]
        exact groups.push isOpen same
      · rw [if_neg same]
        refine groups.start ?_
        intro candidate isCandidate
        rw [isOpen, Option.some.injEq] at isCandidate
        rwa [← isCandidate]

theorem Groups.foldl {read : List Record} (groups : grouping.Groups read)
    (rest : List Record) : (rest.foldl Grouping.add grouping).Groups (read ++ rest) := by
  induction rest generalizing grouping read with
  | nil => simpa using groups
  | cons record rest ih =>
      have next := ih (groups.add record)
      rwa [List.append_assoc, List.singleton_append] at next

end Grouping

theorem compile_groups (records : List Record) : MaximalGrouping records (compile records) := by
  have groups := Grouping.Groups.empty.foldl records
  rw [List.nil_append] at groups
  exact groups.closed

namespace Grouping

variable {grouping : Grouping} {block : Block}

theorem add_eq_start {record : Record}
    (other : ∀ run, grouping.openRun = some run → run.action ≠ record.action) :
    grouping.add record = grouping.start record := by
  cases isOpen : grouping.openRun with
  | none => simp only [add, isOpen]
  | some run => simp only [add, isOpen, if_neg (other run isOpen)]

theorem foldl_add_run (blocks : List Block) (run : OpenRun) (rest : List Record)
    (same : ∀ record ∈ rest, run.action = record.action) :
    rest.foldl add { blocks, openRun := some run } =
      { blocks, openRun := some (run.extend rest) } := by
  induction rest generalizing run with
  | nil => rw [List.foldl_nil, OpenRun.extend_nil]
  | cons record rest ih =>
      have first : run.action = record.action := same record (by simp)
      have later : ∀ next ∈ rest, (run.push record).action = next.action := by
        intro next member
        rw [OpenRun.push_action]
        exact same next (by simp [member])
      rw [List.foldl_cons]
      simp only [add, if_pos first]
      rw [ih (run.push record) later, OpenRun.extend_push]

theorem action_ne_of_apart {record : Record} (uniform : block.Uniform)
    (member : record ∈ block.records)
    (apart : ∀ run, grouping.openRun = some run → ¬ Block.Joinable run.close block) :
    ∀ run, grouping.openRun = some run → run.action ≠ record.action := by
  intro run isOpen same
  apply apart run isOpen
  cases block with
  | single picked =>
      rw [List.mem_singleton.mp member, show picked.action = .pick from uniform] at same
      cases run <;> cases same
  | dropped left =>
      rw [List.mem_singleton.mp member, show left.action = .drop from uniform] at same
      cases run <;> cases same
  | squashRun records =>
      rw [uniform.2 record member] at same
      cases run with
      | squash _ => exact ⟨rfl, .inl rfl⟩
      | bundle _ _ => cases same
  | bundleRun sectionLabel records =>
      rw [uniform.2 record member] at same
      cases run with
      | squash _ => cases same
      | bundle _ _ => exact ⟨rfl, .inr rfl⟩

/-- A record that opens a run, and further ones that continue it, add the run as a block. -/
theorem foldl_add_opened {run : OpenRun} {first : Record} {rest : List Record}
    (other : ∀ earlier, grouping.openRun = some earlier → earlier.action ≠ first.action)
    (opened : grouping.start first = { blocks := grouping.closed, openRun := some run })
    (same : ∀ record ∈ rest, run.action = record.action) (whole : (run.extend rest).close = block) :
    ((first :: rest).foldl add grouping).closed = grouping.closed ++ [block] ∧
      ∀ last, ((first :: rest).foldl add grouping).openRun = some last → last.close = block := by
  rw [List.foldl_cons, add_eq_start other, opened, foldl_add_run _ run rest same]
  refine ⟨by simp only [closed, whole], ?_⟩
  rintro last isLast
  cases isLast
  exact whole

/-- Reading the records of a block adds this block, provided that the open run does
not swallow them; a run that is open afterwards is the block. -/
theorem foldl_add_block (uniform : block.Uniform) (labelled : block.Labelled)
    (apart : ∀ run, grouping.openRun = some run → ¬ Block.Joinable run.close block) :
    (block.records.foldl add grouping).closed = grouping.closed ++ [block] ∧
      ∀ run, (block.records.foldl add grouping).openRun = some run → run.close = block := by
  cases block with
  | single record =>
      have other := action_ne_of_apart uniform (List.mem_singleton_self record) apart
      simp only [Block.records, List.foldl_cons, List.foldl_nil, add_eq_start other, start,
        show record.action = .pick from uniform]
      exact ⟨rfl, by simp⟩
  | dropped record =>
      have other := action_ne_of_apart uniform (List.mem_singleton_self record) apart
      simp only [Block.records, List.foldl_cons, List.foldl_nil, add_eq_start other, start,
        show record.action = .drop from uniform]
      exact ⟨rfl, by simp⟩
  | squashRun records =>
      cases records with
      | nil => exact absurd rfl uniform.1
      | cons first rest =>
          have other := action_ne_of_apart uniform (List.mem_cons_self ..) apart
          have squashed : first.action = .squash := uniform.2 first (by simp)
          have opened : grouping.start first =
              { blocks := grouping.closed, openRun := some (.squash [first]) } := by
            simp only [start, squashed]
          have continues : ∀ record ∈ rest, OpenRun.action (.squash [first]) = record.action :=
            fun record member => (uniform.2 record (List.mem_cons_of_mem first member)).symm
          exact foldl_add_opened other opened continues rfl
  | bundleRun sectionLabel records =>
      cases records with
      | nil => exact absurd rfl uniform.1
      | cons first rest =>
          have other := action_ne_of_apart uniform (List.mem_cons_self ..) apart
          have bundled : first.action = .bundle := uniform.2 first (by simp)
          have opened : grouping.start first =
              { blocks := grouping.closed, openRun := some (.bundle sectionLabel [first]) } := by
            simp only [start, bundled, ← labelled first rfl]
          have continues : ∀ record ∈ rest, OpenRun.action (.bundle sectionLabel [first]) = record.action :=
            fun record member => (uniform.2 record (List.mem_cons_of_mem first member)).symm
          exact foldl_add_opened other opened continues rfl

/-- Reading the records of a maximal grouping gives back its blocks. -/
theorem closed_foldl_blocks {records : List Record} {blocks : List Block}
    (groups : MaximalGrouping records blocks)
    (apart : ∀ first ∈ blocks.head?, ∀ run, grouping.openRun = some run →
      ¬ Block.Joinable run.close first) :
    (records.foldl add grouping).closed = grouping.closed ++ blocks := by
  induction blocks generalizing grouping records with
  | nil =>
      have empty : records = [] := groups.covers.symm
      simp [empty]
  | cons block rest ih =>
      obtain ⟨added, isBlock⟩ := foldl_add_block (groups.uniform block (by simp))
        (groups.labelled block (by simp)) (apart block (by simp))
      have restGroups : MaximalGrouping (rest.flatMap Block.records) rest := groups.tail
      have restApart : ∀ first ∈ rest.head?, ∀ run,
          (block.records.foldl add grouping).openRun = some run →
            ¬ Block.Joinable run.close first := by
        intro first isFirst run isOpen
        rw [isBlock run isOpen]
        exact (List.isChain_cons.mp groups.maximal).1 first isFirst
      have split : records = block.records ++ rest.flatMap Block.records := by
        rw [← groups.covers, List.flatMap_cons]
      rw [split, List.foldl_append, ih restGroups restApart, added, List.append_assoc,
        List.singleton_append]

end Grouping

/-- A summary counts every record of the blocks once. -/
theorem Summary.totalRecords_ofBlocks (blocks : List Block) :
    (Summary.ofBlocks blocks).totalRecords = (blocks.flatMap Block.records).length := by
  have step (summary : Summary) (block : Block) :
      (summary.add block).totalRecords = summary.totalRecords + block.records.length := by
    cases block <;> simp only [add, totalRecords, Block.records, List.length_singleton] <;> omega
  have run (summary : Summary) : (blocks.foldl add summary).totalRecords =
      summary.totalRecords + (blocks.flatMap Block.records).length := by
    induction blocks generalizing summary with
    | nil => rfl
    | cons block rest ih =>
        rw [List.foldl_cons, ih, step, List.flatMap_cons, List.length_append, Nat.add_assoc]
  exact (run empty).trans (Nat.zero_add _)

/-- The blocks of a plan are the only maximal grouping of its records. -/
theorem compile_eq_iff_maximal_grouping (records : List Record) (blocks : List Block) :
    compile records = blocks ↔ MaximalGrouping records blocks := by
  constructor
  · intro compiled
    rw [← compiled]
    exact compile_groups records
  · intro groups
    exact Grouping.closed_foldl_blocks groups (by simp [Grouping.empty])

end CuratedHistory
