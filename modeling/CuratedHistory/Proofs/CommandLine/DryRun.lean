import CuratedHistory.Proofs.CommandLine.Frame
import CuratedHistory.Proofs.Plan.Encoding
import CuratedHistory.Proofs.Report.Sections
import CuratedHistory.Proofs.Session.Naming

namespace CuratedHistory

/-! A check is a dry run of the report. Both come to the same range and the same plan, or are
refused for the same reason, and what the check prints is what the report shows. -/

variable {settings : Settings} {surroundings : Surroundings} {repository : Repository}
  {range : CommitRange} {shown : List Bytes} {records : List Record} {path : Text}
  {reportArguments checkArguments : List Text}

namespace Settings

/-- The records of a plan that is accepted go by hexadecimal hashes, in whatever block they are. -/
theorem Accepts.hexadecimal (named : repository.FullyNamed)
    (accepts : settings.Accepts surroundings repository range shown records) :
    ∀ block ∈ compile records, ∀ record ∈ block.records,
      record.Hexadecimal repository.history.commit? := by
  have loaded : (settings.loadPlan surroundings repository range).result = .ok records := by
    rw [accepts.loaded]
  obtain ⟨text, parsed⟩ := PlanSource.exists_text_of_load loaded
  have each := Repository.hexadecimal_of_plan named (of_findRange accepts.found).2 parsed
  intro block member record inside
  refine each record ?_
  rw [← (compile_groups records).covers]
  exact List.mem_flatMap_of_mem member inside

end Settings

open Settings

end CuratedHistory
