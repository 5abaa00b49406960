import ArtifactPromotion.Library.Runs

/-! How a value that the steps of a machine move came to be what it is: where it was last placed, and
the moves that led from there, in order. -/

namespace Runs

variable {State Input Output Value : Type}

/-- Moves of one kind from one value to another, in the order they were made. -/
inductive Climb (rung : Step State Input Output → Value → Value → Prop) :
    Value → List (Step State Input Output) → Value → Prop
  | rest (value) : Climb rung value [] value
  | move {origin path source step target} (below : Climb rung origin path source)
      (taken : rung step source target) : Climb rung origin (path ++ [step]) target

/-- The trace places the value somewhere, and later steps of it take the value to the target. -/
def Explains (placed : Step State Input Output → Value → Prop)
    (rung : Step State Input Output → Value → Value → Prop)
    (trace : List (Step State Input Output)) (target : Value) : Prop :=
  ∃ past step future origin path, trace = past ++ step :: future ∧ placed step origin ∧
    path.Sublist future ∧ Climb rung origin path target

variable {placed : Step State Input Output → Value → Prop}
  {rung : Step State Input Output → Value → Value → Prop} {origin target : Value}
  {path trace : List (Step State Input Output)}

/-- Where the values of a ladder are entered only from the rung below, a climb that began off the
ladder or at its foot ends by going up the ladder, one rung after the other. -/
theorem Climb.ladder {ladder : List Value} {foot : Value} (grounded : ladder[0]? = some foot)
    (only : ∀ step ∈ path, ∀ source reached level, rung step source reached →
      ladder[level + 1]? = some reached → ladder[level]? = some source)
    (outside : ∀ level, ladder[level + 1]? ≠ some origin) (climb : Climb rung origin path target)
    {height : Nat} (standing : ladder[height]? = some target) :
    ∃ front rise, path = front ++ rise ∧ rise.length = height ∧
      Climb (fun step source reached => rung step source reached ∧
        ∃ level, ladder[level]? = some source ∧ ladder[level + 1]? = some reached)
        foot rise target := by
  induction climb generalizing height with
  | rest =>
      cases height with
      | zero =>
          rw [Option.some.inj (grounded.symm.trans standing)]
          exact ⟨[], [], rfl, rfl, .rest _⟩
      | succ height => exact absurd standing (outside height)
  | @move path source step target below taken ih =>
      cases height with
      | zero =>
          rw [Option.some.inj (grounded.symm.trans standing)]
          exact ⟨path ++ [step], [], by simp, rfl, .rest _⟩
      | succ height =>
          have beneath := only step (by simp) source target height taken standing
          obtain ⟨front, rise, rfl, length, climb⟩ :=
            ih (fun earlier executed => only earlier (List.mem_append_left _ executed)) beneath
          exact ⟨front, rise ++ [step], by simp, by simp [length],
            .move climb ⟨taken, height, beneath, standing⟩⟩

theorem Climb.mono {wider : Step State Input Output → Value → Value → Prop}
    (implies : ∀ step ∈ path, ∀ source reached, rung step source reached →
      wider step source reached)
    (climb : Climb rung origin path target) : Climb wider origin path target := by
  induction climb with
  | rest => exact .rest _
  | @move path source step target below taken ih =>
      exact .move (ih fun earlier executed => implies earlier (List.mem_append_left _ executed))
        (implies step (by simp) source target taken)

namespace Explains

theorem later (explains : Explains placed rung trace target) (step : Step State Input Output) :
    Explains placed rung (trace ++ [step]) target := by
  obtain ⟨past, first, future, origin, path, rfl, begun, along, climb⟩ := explains
  exact ⟨past, first, future ++ [step], origin, path, by simp, begun,
    along.trans (List.sublist_append_left _ _), climb⟩

theorem move {source : Value} {step : Step State Input Output}
    (explains : Explains placed rung trace source) (taken : rung step source target) :
    Explains placed rung (trace ++ [step]) target := by
  obtain ⟨past, first, future, origin, path, rfl, begun, along, climb⟩ := explains
  exact ⟨past, first, future ++ [step], origin, path ++ [step], by simp, begun,
    along.append (List.Sublist.refl _), .move climb taken⟩

theorem place {step : Step State Input Output} (begun : placed step target) :
    Explains placed rung (trace ++ [step]) target :=
  ⟨trace, step, [], target, [], rfl, begun, List.Sublist.refl _, .rest target⟩

end Explains

/-- If every step leaves the value alone, moves it or places it anew, then the run explains the
value at its end. -/
theorem Run.explains {machine : Machine State Input Output} {start final : State}
    (holds : State → Value → Prop) (initially : ∀ value, ¬holds start value)
    (moves : ∀ step ∈ trace, ∀ target, holds step.after target → holds step.before target ∨
      (∃ source, holds step.before source ∧ rung step source target) ∨ placed step target)
    (run : Run machine start trace final) (held : holds final target) :
    Explains placed rung trace target := by
  induction trace using List.reverseRecOn generalizing final target with
  | nil =>
      cases run
      exact absurd held (initially target)
  | append_singleton trace step ih =>
      obtain ⟨before, _, ended⟩ := run.cut
      cases ended
      have earlier {value : Value} (held : holds step.before value) :=
        ih (fun step executed => moves step (List.mem_append_left _ executed)) before held
      rcases moves step (by simp) target held with kept | ⟨source, from_, taken⟩ | begun
      · exact (earlier kept).later step
      · exact (earlier from_).move taken
      · exact .place begun

end Runs
