import Mathlib.Tactic.SplitIfs
import CuratedHistory.Files.FileSystem

namespace CuratedHistory.FileSystem

/-! What a file that is written changes. A path leads through directories only, so that a
file is never on the way, and every other path finds what it found before. -/

variable {files after : FileSystem} {location other start found : Location} {node : Node} {mode : Nat}
  {content : Bytes} {path otherPath : Text} {piece : Text} {pieces : List Text}

theorem find?_put (files : FileSystem) (location other : Location) (node : Node) :
    ((files.put location node).nodes.find? (·.1 == other)).map Prod.snd =
      if other = location then some node else (files.nodes.find? (·.1 == other)).map Prod.snd := by
  by_cases stands : files.nodes.any (·.1 == location) = true
  · have key (entry : Location × Node) :
        (if entry.1 == location then (location, node) else entry).1 = entry.1 := by
      by_cases same : entry.1 = location <;> simp [same]
    simp only [put, if_pos stands, List.find?_map, Function.comp_def, key, Option.map_map]
    cases isFound : files.nodes.find? (·.1 == other) with
    | none =>
        have absent : other ≠ location := by
          rintro rfl
          obtain ⟨entry, member, same⟩ := List.any_eq_true.mp stands
          exact List.find?_eq_none.mp isFound entry member same
        simp [absent]
    | some entry =>
        have same : entry.1 = other := by simpa using List.find?_some isFound
        by_cases here : other = location <;> simp [here, same]
  · simp only [put, if_neg stands, List.find?_append]
    by_cases here : other = location
    · have absent : files.nodes.find? (·.1 == location) = none := by
        rw [List.find?_eq_none]
        intro entry member same
        exact stands (List.any_eq_true.mpr ⟨entry, member, same⟩)
      simp [here, absent]
    · simp [here, Ne.symm here]

/-- What is put at a location stands there, and all else stands where it stood. -/
theorem node?_put (notRoot : location ≠ []) (other : Location) (node : Node) :
    (files.put location node).node? other = if other = location then some node else files.node? other := by
  unfold node?
  by_cases root : other = []
  · simp [root, notRoot.symm]
  · rw [if_neg root, if_neg root, find?_put]

theorem location_ne_nil (noDirectory : files.node? location ≠ some .directory) : location ≠ [] := by
  rintro rfl
  exact noDirectory (if_pos rfl)

/-- No step leads on from what is not a directory. -/
theorem directory_of_step (stepped : files.step location piece = .ok found) :
    files.node? location = some .directory := by
  unfold step at stepped
  cases stands : files.node? location with
  | none => simp [stands] at stepped
  | some node => cases node <;> simp [stands] at stepped ⊢

theorem step_put (noDirectory : files.node? location ≠ some .directory) :
    (files.put location (.file mode content)).step other piece = .ok found ↔
      files.step other piece = .ok found := by
  have place : (files.put location (.file mode content)).node? other =
      if other = location then some (.file mode content) else files.node? other :=
    node?_put (location_ne_nil noDirectory) other _
  by_cases here : other = location
  · -- Both ways end here, with the new file and with what it replaces.
    rw [if_pos here] at place
    subst here
    constructor
    · intro stepped
      have impossible := directory_of_step stepped
      rw [place] at impossible
      cases impossible
    · intro stepped
      exact absurd (directory_of_step stepped) noDirectory
  · rw [if_neg here] at place
    rw [step, step, place]

theorem steps_put (noDirectory : files.node? location ≠ some .directory) :
    pieces.foldlM (files.put location (.file mode content)).step start = .ok found ↔
      pieces.foldlM files.step start = .ok found := by
  induction pieces generalizing start with
  | nil => exact Iff.rfl
  | cons piece rest ih =>
      rw [List.foldlM_cons, List.foldlM_cons]
      cases stepped : files.step start piece with
      | ok next =>
          rw [(step_put noDirectory).mpr stepped]
          exact ih
      | error cause =>
          cases steppedAfter : (files.put location (.file mode content)).step start piece with
          | error _ => constructor <;> intro impossible <;> cases impossible
          | ok next =>
              rw [(step_put noDirectory).mp steppedAfter] at stepped
              cases stepped

theorem locate_put (noDirectory : files.node? location ≠ some .directory) :
    (files.put location (.file mode content)).locate path = .ok found ↔ files.locate path = .ok found := by
  have sameStart : (files.put location (.file mode content)).workingDirectory = files.workingDirectory := by
    unfold put
    split <;> rfl
  unfold locate
  rw [sameStart]
  split_ifs
  · exact Iff.rfl
  · exact Iff.rfl
  · exact Iff.rfl
  · exact steps_put noDirectory
  · exact steps_put noDirectory

theorem find_eq_ok_iff :
    files.find path = .ok node ↔ ∃ location, files.locate path = .ok location ∧ files.node? location = some node := by
  unfold find
  cases located : files.locate path with
  | error cause => simp
  | ok location =>
      cases stands : files.node? location <;> simp [stands]

/-- A file that is put elsewhere leaves what a path finds as it is. -/
theorem find_put (noDirectory : files.node? location ≠ some .directory)
    (elsewhere : files.locate path ≠ .ok location) :
    (files.put location (.file mode content)).find path = .ok node ↔ files.find path = .ok node := by
  rw [find_eq_ok_iff, find_eq_ok_iff]
  refine exists_congr fun place => ?_
  rw [locate_put noDirectory, node?_put (location_ne_nil noDirectory)]
  refine and_congr_right fun located => ?_
  have away : place ≠ location := by
    rintro rfl
    exact elsewhere located
  rw [if_neg away]

theorem isFile_iff : files.isFile path = true ↔ ∃ mode content, files.find path = .ok (.file mode content) := by
  unfold isFile
  cases found : files.find path with
  | error cause => simp
  | ok node => cases node <;> simp

theorem locate_of_writable (canWrite : files.writable path = .ok (.file location mode)) :
    files.locate path = .ok location ∧ files.node? location ≠ some .directory := by
  unfold writable at canWrite
  split at canWrite
  · cases located : files.locate (withoutFinalSeparators path) <;> simp [located] at canWrite
  · cases located : files.locate path with
    | error cause => simp [located] at canWrite
    | ok place =>
        cases stands : files.node? place with
        | none =>
            simp only [located, stands, Except.ok.injEq, Writable.file.injEq] at canWrite
            rw [← canWrite.1, stands]
            exact ⟨rfl, by simp⟩
        | some node =>
            cases node with
            | file standing old =>
                simp only [located, stands, Except.ok.injEq, Writable.file.injEq] at canWrite
                rw [← canWrite.1, stands]
                exact ⟨rfl, by simp⟩
            | directory => simp [located, stands] at canWrite
            | sink => simp [located, stands] at canWrite

/-- What a successful write leaves: all as it was behind a sink, else one file more or anew. -/
theorem write_cases (written : files.write path content = .ok after) :
    after = files ∨ ∃ location mode, files.locate path = .ok location ∧
      files.node? location ≠ some .directory ∧ after = files.put location (.file mode content) := by
  unfold write at written
  cases canWrite : files.writable path with
  | error cause => simp [canWrite] at written
  | ok place =>
      cases place with
      | sink =>
          simp only [canWrite, Except.ok.injEq] at written
          exact .inl written.symm
      | file location mode =>
          simp only [canWrite, Except.ok.injEq] at written
          obtain ⟨located, noDirectory⟩ := locate_of_writable canWrite
          exact .inr ⟨location, mode, located, noDirectory, written.symm⟩

/-- The paths lead to different locations, as far as they lead anywhere. -/
def Apart (files : FileSystem) (path otherPath : Text) : Prop :=
  ∀ location, files.locate path = .ok location → files.locate otherPath ≠ .ok location

theorem find_write (apart : files.Apart path otherPath) (written : files.write path content = .ok after) :
    after.find otherPath = .ok node ↔ files.find otherPath = .ok node := by
  rcases write_cases written with rfl | ⟨location, mode, located, noDirectory, rfl⟩
  · exact Iff.rfl
  · exact find_put noDirectory (apart location located)

theorem isFile_write (apart : files.Apart path otherPath) (written : files.write path content = .ok after) :
    after.isFile otherPath = files.isFile otherPath := by
  rw [Bool.eq_iff_iff, isFile_iff, isFile_iff]
  simp only [find_write apart written]

/-- What is written to a file is what is read from it. -/
theorem read_write (canWrite : files.writable path = .ok (.file location mode)) :
    ∃ after, files.write path content = .ok after ∧ after.read path = .ok content := by
  obtain ⟨located, noDirectory⟩ := locate_of_writable canWrite
  refine ⟨files.put location (.file mode content), by simp only [write, canWrite], ?_⟩
  have found : (files.put location (.file mode content)).find path = .ok (.file mode content) := by
    rw [find_eq_ok_iff]
    exact ⟨location, (locate_put noDirectory).mpr located,
      by rw [node?_put (location_ne_nil noDirectory), if_pos rfl]⟩
  simp only [read, found]

end CuratedHistory.FileSystem
