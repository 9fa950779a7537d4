import Pullbox.Utility.Sound

/-!
# Recovery of interrupted jobs

The recovery at startup takes running and pausing jobs back, and their items. A job that was
cancelling when the process died is left out, and nothing reaches it again.
-/

namespace Pullbox.Utility

open Durable

section Recovery

variable {system : System} {job : UtilityJob} {now : Timestamp}

end Recovery

/-- The job of an identifier that was drawn is settled, if it is still there. -/
def Ended (id : RowId) (system : System) : Prop :=
  id ∈ system.issued ∧ ∀ row ∈ system.jobs, row.id = id → row.state ∈ settledStates

/-- A settled job stays settled in every step. -/
theorem Ended.step {id : RowId} {event : Event} {system after : System} (ended : Ended id system)
    (sound : Sound system) (step : Step event system after) : Ended id after := by
  refine ⟨(ids_of_step step).mono ended.1, fun row present same => ?_⟩
  rcases rows_of_step sound step row present with ⟨old, earlier, changed⟩ | entered
  · exact changed.change.settled (ended.2 old earlier (changed.id.symm.trans same))
  · exact absurd (same ▸ ended.1) entered.id

end Pullbox.Utility
