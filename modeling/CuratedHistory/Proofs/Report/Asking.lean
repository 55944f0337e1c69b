import CuratedHistory.Proofs.Report.Fragment

namespace CuratedHistory

/-! Rendering with a source that writes down each diff that it is asked for. What is rendered is
the same, and what has been written down in the end is what the blocks ask for, in order. -/

/-- What may come to no end, with the diffs that have been asked for so far. -/
abbrev Asking := StateT (List (DiffBase × Text)) Option

namespace Asking

section Rendering

variable (history : History) (markup : Markup)

/-- Asks for a diff, which is written down. -/
def diff? (base : DiffBase) (child : Text) : Asking (Option Patch) := do
  modify (· ++ [(base, child)])
  return history.diff? base child

def diffNodes? (base : DiffBase) (child : Text) : Asking (Option (List Html)) := do
  match ← diff? history base child with
  | none => return none
  | some patch =>
      if patch.isEmpty then return some [Html.classed "p" "notice" [Html.string "No file changes."]]
      else
        match markup.convertPatch patch with
        | .error _ => return none
        | .ok body =>
            return some [Html.classed "p" "stat" [.text patch.shortStat], Html.newline, body]

def diffBody (base : DiffBase) (child : Text) : Asking Body := do
  match ← diffNodes? history markup base child with
  | some nodes => return .html nodes
  | none =>
      let short ← shortHash? child
      return .failure ("The diff for ".toList ++ short ++ " could not be rendered.".toList)

def partBody : Part → Asking Body
  | .html nodes => return .html nodes
  | .failure note => return .failure note
  | .diff base child => diffBody history markup base child

def entryBody : Entry → Asking Body
  | .line part => partBody history markup part
  | .member parts => do
      let body := Body.concat (← parts.mapM (partBody history markup))
      return ⟨[Html.classed "article" "bundle-member" (Html.newline :: body.nodes),
        Html.newline], body.fallbacks⟩

def ofBlock (index : Nat) (block : Block) : Asking Fragment := do
  let outline ← block.outline? history.commit?
  return .ofBodies index block outline.title (← outline.entries.mapM (entryBody history markup))

def ofBlocksFrom (index : Nat) : List Block → Asking (List Fragment)
  | [] => return []
  | block :: rest => do
      let fragment ← ofBlock history markup index block
      let following ← ofBlocksFrom (index + 1) rest
      return fragment :: following

def ofBlocks (blocks : List Block) : Asking (List Fragment) :=
  ofBlocksFrom history markup 1 blocks

end Rendering

variable {α β : Type} {run : Asking α} {answer : Option α} {next : α → Asking β}
  {answers : α → Option β} {requests later : List (DiffBase × Text)}

/-- The run comes to this answer, after it has asked for these diffs if there is one. -/
def Asks (run : Asking α) (answer : Option α) (requests : List (DiffBase × Text)) : Prop :=
  ∀ before, run.run before = answer.map fun value => (value, before ++ requests)

namespace Asks

theorem pure (value : α) : Asks (return value) (some value) [] := by
  intro before
  rw [StateT.run_pure, Option.map_some, List.append_nil]
  rfl

theorem lift (answer : Option α) : Asks (liftM answer) answer [] := by
  intro before
  cases answer with
  | none => rfl
  | some value =>
      rw [Option.map_some, List.append_nil]
      rfl

theorem bind (first : Asks run answer requests)
    (second : ∀ value, answer = some value → Asks (next value) (answers value) later) :
    Asks (run >>= next) (answer >>= answers) (requests ++ later) := by
  intro before
  rw [StateT.run_bind, first before]
  cases answer with
  | none => rfl
  | some value =>
      have onward := second value rfl (before ++ requests)
      rw [List.append_assoc] at onward
      exact onward

theorem map (asks : Asks run answer requests) (finish : α → β) :
    Asks (do return finish (← run)) (do return finish (← answer)) requests := by
  rw [← List.append_nil requests]
  exact asks.bind fun value _ => .pure (finish value)

/-- All items ask for what each of them asks for in turn. -/
theorem mapM {items : List α} {each : α → Asking β} {own : α → List (DiffBase × Text)}
    (asks : ∀ item ∈ items, Asks (each item) (answers item) (own item)) :
    Asks (items.mapM each) (items.mapM answers) (items.flatMap own) := by
  induction items with
  | nil => exact .pure []
  | cons item rest ih =>
      rw [List.forall_mem_cons] at asks
      rw [List.mapM_cons, List.mapM_cons, List.flatMap_cons]
      exact asks.1.bind fun value _ => (ih asks.2).map (value :: ·)

end Asks

section Rendered

variable (history : History) (markup : Markup) (base : DiffBase) (child : Text) (part : Part) (entry : Entry)
  (block : Block) (blocks : List Block) (number : Nat)

theorem asks_diffNodes? :
    Asks (diffNodes? history markup base child) (some (Fragment.diffNodes? history markup base child))
      [(base, child)] := by
  have asked : Asks (diff? history base child) (some (history.diff? base child)) [(base, child)] :=
    fun before => rfl
  intro before
  rw [diffNodes?, StateT.run_bind, asked before, Fragment.diffNodes?]
  cases history.diff? base child with
  | none => rfl
  | some patch =>
      cases empty : patch.isEmpty with
      | true => simp [empty]
      | false => cases converted : markup.convertPatch patch <;> simp [empty, converted]

theorem asks_diffBody :
    Asks (diffBody history markup base child) (Fragment.diffBody history markup base child) [(base, child)] := by
  intro before
  rw [diffBody, StateT.run_bind, asks_diffNodes? history markup base child before, Fragment.diffBody]
  cases Fragment.diffNodes? history markup base child with
  | some nodes => rfl
  | none => cases shortHash? child <;> rfl

theorem asks_partBody :
    Asks (partBody history markup part) (Fragment.partBody history markup part) part.request?.toList := by
  cases part with
  | html nodes => exact .pure (Body.html nodes)
  | failure note => exact .pure (Body.failure note)
  | diff base child => exact asks_diffBody history markup base child

theorem asks_entryBody :
    Asks (entryBody history markup entry) (Fragment.entryBody history markup entry)
      (entry.parts.filterMap Part.request?) := by
  rw [List.filterMap_eq_flatMap_toList]
  cases entry with
  | line part =>
      rw [Entry.parts, List.flatMap_singleton]
      exact asks_partBody history markup part
  | member parts =>
      unfold entryBody Fragment.entryBody Fragment.partsBody
      simp only [bind_assoc, pure_bind]
      exact (Asks.mapM fun part _ => asks_partBody history markup part).map _

/-- A block gets the fragment that it gets otherwise, and its changes are asked for in order. -/
theorem asks_ofBlock :
    Asks (ofBlock history markup number block) (Fragment.ofBlock? history markup number block)
      (block.changes history.commit?) := by
  unfold ofBlock Fragment.ofBlock?
  rw [← List.nil_append (block.changes history.commit?)]
  refine (Asks.lift (block.outline? history.commit?)).bind fun outline outlined => ?_
  rw [← (Block.outline_holds outlined).requests, Outline.parts, List.filterMap_flatMap]
  exact (Asks.mapM fun entry _ => asks_entryBody history markup entry).map _

theorem asks_ofBlocksFrom :
    Asks (ofBlocksFrom history markup number blocks) (Fragment.ofBlocksFrom? history markup number blocks)
      (blocks.flatMap (Block.changes history.commit?)) := by
  induction blocks generalizing number with
  | nil => exact .pure []
  | cons block rest ih =>
      rw [ofBlocksFrom, Fragment.ofBlocksFrom?, List.flatMap_cons]
      exact (asks_ofBlock history markup block number).bind fun fragment _ => (ih (number + 1)).map (fragment :: ·)

end Rendered

end Asking

end CuratedHistory
