import ArtifactPromotion.Library.Runs

/-! Forward simulations between machines. A step of the concrete machine is matched by any number of
steps of the abstract one, so that a step may be invisible, and both show the same events. -/

namespace Runs

variable {State Input Output State' Input' Output' State'' Input'' Output'' Event : Type}

/-- Every step that may be taken from related states is matched by a run between related states
that shows the same events. -/
structure Simulation (concrete : Machine State Input Output)
    (abstract : Machine State' Input' Output') (shown : Step State Input Output → List Event)
    (shown' : Step State' Input' Output' → List Event) (related : State → State' → Prop) :
    Prop where
  matched : ∀ (step : Step State Input Output) (before : State'), related step.before before →
    concrete step.before step.input = some (step.output, step.after) →
    ∃ trace after, Run abstract before trace after ∧ related step.after after ∧
      trace.flatMap shown' = shown step

namespace Simulation

variable {concrete : Machine State Input Output} {abstract : Machine State' Input' Output'}
  {shown : Step State Input Output → List Event}
  {shown' : Step State' Input' Output' → List Event} {related : State → State' → Prop}

theorem run (simulates : Simulation concrete abstract shown shown' related) {start final : State}
    {before : State'} {trace : List (Step State Input Output)}
    (executed : Run concrete start trace final) (initially : related start before) :
    ∃ trace' after, Run abstract before trace' after ∧ related final after ∧
      trace'.flatMap shown' = trace.flatMap shown := by
  induction executed generalizing before with
  | nil state => exact ⟨[], before, .nil before, initially, rfl⟩
  | cons moved _ ih =>
      obtain ⟨first, middle, left, joined, events⟩ := simulates.matched ⟨_, _, _, _⟩ before initially moved
      obtain ⟨second, after, right, reached, later⟩ := ih joined
      refine ⟨first ++ second, after, left.append right, reached, ?_⟩
      rw [List.flatMap_append, List.flatMap_cons, events, later]

end Simulation

end Runs
