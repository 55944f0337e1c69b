import CuratedHistory.Proofs.Files.FileSystem
import Mathlib.Data.List.Basic

namespace CuratedHistory.FileSystem

/-! Where operations on files can have changed something. A path names its place by its pieces
alone, so that it names the same one before and after. -/

variable {files before between after : FileSystem} {location start found : Location} {node : Node}
  {content : Bytes} {path : Text} {paths others : List Text} {piece : Text} {pieces : List Text}

/-- The location that a piece leads to, if it leads anywhere. -/
def advance (location : Location) (piece : Text) : Location :=
  if piece = ['.'] then location
  else if piece = ['.', '.'] then location.dropLast
  else location ++ [piece]

/-- The location that a path names. -/
def place (files : FileSystem) (path : Text) : Location :=
  (pathPieces path).foldl advance (if path.head? = some '/' then [] else files.workingDirectory)

theorem eq_advance_of_step (stepped : files.step location piece = .ok found) :
    found = advance location piece := by
  have isDirectory := directory_of_step stepped
  simp only [step, isDirectory] at stepped
  unfold advance
  split_ifs at stepped ⊢
  · exact (Except.ok.inj stepped).symm
  · exact (Except.ok.inj stepped).symm
  · exact (Except.ok.inj stepped).symm

theorem eq_foldl_of_steps (stepped : pieces.foldlM files.step start = .ok found) :
    found = pieces.foldl advance start := by
  induction pieces generalizing start with
  | nil => exact (Except.ok.inj stepped).symm
  | cons piece rest ih =>
      rw [List.foldlM_cons] at stepped
      cases next : files.step start piece with
      | error cause =>
          rw [next] at stepped
          contradiction
      | ok place =>
          rw [next] at stepped
          rw [List.foldl_cons, ← eq_advance_of_step next]
          exact ih stepped

theorem eq_place_of_locate (located : files.locate path = .ok location) : location = files.place path := by
  unfold locate at located
  split_ifs at located with _ _ _ absolute
  · rw [place, if_pos absolute]
    exact eq_foldl_of_steps located
  · rw [place, if_neg absolute]
    exact eq_foldl_of_steps located

/-- Nothing has changed but what stands at the places of some paths, and no directory is gone. -/
structure Touches (paths : List Text) (before after : FileSystem) : Prop where
  workingDirectory : after.workingDirectory = before.workingDirectory
  elsewhere : ∀ location, (∀ path ∈ paths, location ≠ before.place path) →
    after.node? location = before.node? location
  directories : ∀ location, before.node? location = some .directory →
    after.node? location = some .directory

namespace Touches

theorem refl (paths : List Text) (files : FileSystem) : Touches paths files files where
  workingDirectory := rfl
  elsewhere := fun _ _ => rfl
  directories := fun _ => id

theorem place_eq (touches : Touches paths before after) (path : Text) :
    after.place path = before.place path := by
  rw [place, place, touches.workingDirectory]

theorem mono (touches : Touches paths before after) (more : ∀ path ∈ paths, path ∈ others) :
    Touches others before after :=
  ⟨touches.workingDirectory,
    fun location away => touches.elsewhere location fun path member => away path (more path member),
    touches.directories⟩

theorem trans (first : Touches paths before between) (second : Touches others between after) :
    Touches (paths ++ others) before after where
  workingDirectory := second.workingDirectory.trans first.workingDirectory
  elsewhere := by
    intro location away
    rw [List.forall_mem_append] at away
    have later : ∀ path ∈ others, location ≠ between.place path := by
      intro path member
      rw [first.place_eq]
      exact away.2 path member
    rw [second.elsewhere location later, first.elsewhere location away.1]
  directories := fun location stands => second.directories location (first.directories location stands)

/-- A path still leads where it led, as all directories on the way are there. -/
theorem locate (touches : Touches paths before after) (located : before.locate path = .ok location) :
    after.locate path = .ok location := by
  have stepped {start piece found} (here : before.step start piece = .ok found) :
      after.step start piece = .ok found := by
    have isDirectory := directory_of_step here
    simp only [step, isDirectory] at here
    simp only [step, touches.directories _ isDirectory, here]
  have steps {start found} {pieces : List Text} (all : pieces.foldlM before.step start = .ok found) :
      pieces.foldlM after.step start = .ok found := by
    induction pieces generalizing start with
    | nil => exact all
    | cons piece rest ih =>
        rw [List.foldlM_cons] at all ⊢
        cases next : before.step start piece with
        | error cause =>
            rw [next] at all
            contradiction
        | ok place =>
            rw [next] at all
            rw [stepped next]
            exact ih all
  unfold FileSystem.locate at located ⊢
  rw [touches.workingDirectory]
  split_ifs at located ⊢
  · exact steps located
  · exact steps located

theorem of_write (written : files.write path content = .ok after) : Touches [path] files after := by
  rcases write_cases written with rfl | ⟨location, mode, located, noDirectory, rfl⟩
  · exact refl _ _
  · have placed (other : Location) : (files.put location (.file mode content)).node? other =
        if other = location then some (.file mode content) else files.node? other :=
      node?_put (location_ne_nil noDirectory) other _
    constructor
    · unfold put
      split <;> rfl
    · intro other away
      have apart : other ≠ location := by
        rw [eq_place_of_locate located]
        exact away path (List.mem_singleton_self path)
      rw [placed, if_neg apart]
    · intro other stands
      have apart : other ≠ location := by
        rintro rfl
        exact noDirectory stands
      rw [placed, if_neg apart, stands]

end Touches

theorem exists_locate_of_write (written : files.write path content = .ok after) :
    ∃ location, files.locate path = .ok location := by
  unfold write at written
  cases canWrite : files.writable path with
  | error cause => simp [canWrite] at written
  | ok _ =>
      unfold writable at canWrite
      split at canWrite
      · cases located : files.locate (withoutFinalSeparators path) <;> simp [located] at canWrite
      · cases located : files.locate path with
        | error cause => simp [located] at canWrite
        | ok location => exact ⟨location, rfl⟩

theorem node?_remove (notRoot : location ≠ []) (other : Location) :
    (files.remove location).node? other = if other = location then none else files.node? other := by
  unfold node? remove
  by_cases root : other = []
  · simp [root, notRoot.symm]
  · rw [if_neg root, if_neg root]
    by_cases here : other = location
    · have nothing : (files.nodes.filter (·.1 != location)).find? (·.1 == other) = none := by
        rw [List.find?_eq_none]
        intro entry member isOther
        have away : entry.1 ≠ location := by simpa using (List.mem_filter.mp member).2
        exact away ((beq_iff_eq.mp isOther).trans here)
      rw [nothing, if_pos here, Option.map_none]
    · have kept : (files.nodes.filter (·.1 != location)).find? (·.1 == other) =
          files.nodes.find? (·.1 == other) := by
        rw [List.find?_filter]
        congr 1
        funext entry
        by_cases isOther : entry.1 = other <;> simp [isOther, here]
      rw [kept, if_neg here]

end CuratedHistory.FileSystem
