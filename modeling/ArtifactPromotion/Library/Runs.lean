import Mathlib.Data.List.Induction

/-! Deterministic machines with inputs and outputs, their finite runs, and the induction rules over
runs. A machine step that is undefined has no successor. -/

namespace Runs

variable {State Input Output : Type}

abbrev Machine (State Input Output : Type) := State → Input → Option (Output × State)

structure Step (State Input Output : Type) where
  before : State
  input : Input
  output : Output
  after : State

inductive Run (machine : Machine State Input Output) :
    State → List (Step State Input Output) → State → Prop
  | nil (state) : Run machine state [] state
  | cons {before input output after rest final} :
      machine before input = some (output, after) → Run machine after rest final →
      Run machine before (⟨before, input, output, after⟩ :: rest) final

namespace Run

variable {machine : Machine State Input Output} {start middle final : State}

theorem append {first second : List (Step State Input Output)}
    (left : Run machine start first middle) (right : Run machine middle second final) :
    Run machine start (first ++ second) final := by
  induction left with
  | nil => exact right
  | cons moved _ ih => exact .cons moved (ih right)

theorem split (first : List (Step State Input Output)) {second : List (Step State Input Output)}
    (run : Run machine start (first ++ second) final) :
    ∃ middle, Run machine start first middle ∧ Run machine middle second final := by
  induction first generalizing start with
  | nil => exact ⟨start, .nil start, run⟩
  | cons step first ih =>
      cases run with
      | cons moved rest =>
          obtain ⟨middle, left, right⟩ := ih rest
          exact ⟨middle, .cons moved left, right⟩

theorem cut {past : List (Step State Input Output)} {step : Step State Input Output}
    {future : List (Step State Input Output)}
    (run : Run machine start (past ++ step :: future) final) :
    Run machine start past step.before ∧ machine step.before step.input =
      some (step.output, step.after) ∧ Run machine step.after future final := by
  obtain ⟨middle, left, right⟩ := run.split
  cases right with
  | cons moved rest => exact ⟨left, moved, rest⟩

theorem moved {trace : List (Step State Input Output)} {step : Step State Input Output}
    (run : Run machine start trace final) (executed : step ∈ trace) :
    machine step.before step.input = some (step.output, step.after) := by
  obtain ⟨past, future, rfl⟩ := List.append_of_mem executed
  exact run.cut.2.1

theorem invariant (holds : State → Prop)
    (kept : ∀ before input output after, holds before →
      machine before input = some (output, after) → holds after)
    {trace : List (Step State Input Output)} (initially : holds start)
    (run : Run machine start trace final) : holds final := by
  induction run with
  | nil => exact initially
  | cons moved _ ih => exact ih (kept _ _ _ _ initially moved)

/-- The invariant rule when the steps of the run are known to meet a condition. -/
theorem guarded (holds : State → Prop) (allowed : Step State Input Output → Prop)
    (kept : ∀ step, holds step.before → allowed step →
      machine step.before step.input = some (step.output, step.after) → holds step.after)
    {trace : List (Step State Input Output)} (initially : holds start)
    (run : Run machine start trace final) (condition : ∀ step ∈ trace, allowed step) :
    holds final := by
  induction run with
  | nil => exact initially
  | cons moved _ ih =>
      rw [List.forall_mem_cons] at condition
      exact ih (kept _ initially condition.1 moved) condition.2

theorem throughout (holds : State → Prop) (allowed : Step State Input Output → Prop)
    (kept : ∀ step, holds step.before → allowed step →
      machine step.before step.input = some (step.output, step.after) → holds step.after)
    {trace : List (Step State Input Output)} (initially : holds start)
    (run : Run machine start trace final) (condition : ∀ step ∈ trace, allowed step) :
    ∀ step ∈ trace, holds step.before ∧ holds step.after := by
  induction run with
  | nil =>
      intro step executed
      cases executed
  | cons moved _ ih =>
      rw [List.forall_mem_cons] at condition
      have reached := kept _ initially condition.1 moved
      intro step executed
      rcases List.mem_cons.mp executed with rfl | later
      · exact ⟨initially, reached⟩
      · exact ih reached condition.2 step later

theorem byHistory (claim : List (Step State Input Output) → State → Prop)
    (base : claim [] start)
    (extend : ∀ past before input output after, Run machine start past before →
      claim past before → machine before input = some (output, after) →
      claim (past ++ [⟨before, input, output, after⟩]) after)
    {trace : List (Step State Input Output)} (run : Run machine start trace final) :
    claim trace final := by
  induction trace using List.reverseRecOn generalizing final with
  | nil =>
      cases run
      exact base
  | append_singleton past step ih =>
      obtain ⟨middle, left, right⟩ := run.split
      cases right with
      | cons moved rest =>
          cases rest
          exact extend _ _ _ _ _ left (ih left) moved

end Run

theorem pairwise_of_splits {α : Type} {related : α → α → Prop} {items : List α}
    (splits : ∀ past first between second future,
      items = past ++ first :: (between ++ second :: future) → related first second) :
    items.Pairwise related := by
  induction items with
  | nil => exact .nil
  | cons head rest ih =>
      refine .cons ?_ (ih ?_)
      · intro second inside
        obtain ⟨between, future, split⟩ := List.append_of_mem inside
        exact splits [] head between second future (by rw [split]; rfl)
      · intro past first between second future split
        exact splits (head :: past) first between second future (by rw [split]; rfl)

theorem eq_of_only {α : Type} {kind : α → Prop} {front since before after : List α}
    {issue only : α} (split : before ++ only :: after = front ++ issue :: since) (found : kind issue)
    (others : ∀ other ∈ before ++ after, ¬kind other) : issue = only ∧ since = after := by
  rcases List.append_eq_append_iff.mp split with ⟨skipped, rfl, later⟩ | ⟨skipped, rfl, later⟩
  · cases skipped with
    | nil =>
        obtain ⟨rfl, rfl⟩ := List.cons.inj later
        exact ⟨rfl, rfl⟩
    | cons first rest =>
        obtain ⟨rfl, rfl⟩ := List.cons.inj later
        exact absurd found (others issue (by simp))
  · cases skipped with
    | nil =>
        obtain ⟨rfl, rfl⟩ := List.cons.inj later
        exact ⟨rfl, rfl⟩
    | cons first rest =>
        obtain ⟨rfl, _⟩ := List.cons.inj later
        exact absurd found (others issue (by simp))

/-- Drives a machine by inputs chosen from the state they are given to, and keeps the trace. -/
def play (machine : Machine State Input Output) :
    State → List (State → Input) → Option (List (Step State Input Output) × State)
  | state, [] => some ([], state)
  | state, choose :: rest =>
      match machine state (choose state) with
      | none => none
      | some (output, next) =>
          (play machine next rest).map fun played =>
            (⟨state, choose state, output, next⟩ :: played.1, played.2)

theorem play_cons {machine : Machine State Input Output} {state next final : State}
    {choose : State → Input} {rest : List (State → Input)} {output : Output}
    {trace : List (Step State Input Output)}
    (moved : machine state (choose state) = some (output, next))
    (played : play machine next rest = some (trace, final)) :
    play machine state (choose :: rest) =
      some (⟨state, choose state, output, next⟩ :: trace, final) := by
  rw [play, moved]
  simp only [played, Option.map_some]

theorem play_cons_eq_some {machine : Machine State Input Output} {state final : State}
    {choose : State → Input} {rest : List (State → Input)} {trace : List (Step State Input Output)}
    (played : play machine state (choose :: rest) = some (trace, final)) :
    ∃ output next later, machine state (choose state) = some (output, next) ∧
      play machine next rest = some (later, final) ∧
      trace = ⟨state, choose state, output, next⟩ :: later := by
  rw [play] at played
  cases moved : machine state (choose state) with
  | none => simp [moved] at played
  | some outcome =>
      simp only [moved] at played
      obtain ⟨later, continued, same⟩ := Option.map_eq_some_iff.mp played
      cases same
      exact ⟨outcome.1, outcome.2, later.1, rfl, continued, rfl⟩

theorem play_append {machine : Machine State Input Output} {start middle : State}
    {first second : List (State → Input)} {trace : List (Step State Input Output)}
    (played : play machine start first = some (trace, middle)) :
    play machine start (first ++ second) =
      (play machine middle second).map fun later => (trace ++ later.1, later.2) := by
  induction first generalizing start trace with
  | nil =>
      rw [play, Option.some.injEq, Prod.mk.injEq] at played
      obtain ⟨rfl, rfl⟩ := played
      cases ended : play machine start second <;> simp [ended]
  | cons choose first ih =>
      obtain ⟨output, next, later, moved, continued, rfl⟩ := play_cons_eq_some played
      rw [List.cons_append, play, moved]
      simp only [ih continued, Option.map_map]
      rfl

theorem run_of_play {machine : Machine State Input Output} {choices : List (State → Input)}
    {start final : State} {trace : List (Step State Input Output)}
    (played : play machine start choices = some (trace, final)) :
    Run machine start trace final := by
  induction choices generalizing start trace with
  | nil =>
      rw [play, Option.some.injEq, Prod.mk.injEq] at played
      obtain ⟨rfl, rfl⟩ := played
      exact .nil start
  | cons choose rest ih =>
      obtain ⟨output, next, later, moved, continued, rfl⟩ := play_cons_eq_some played
      exact .cons moved (ih continued)

theorem run_of_checked {machine : Machine State Input Output} {choices : List (State → Input)}
    {start : State} {check : List (Step State Input Output) × State → Bool}
    (evaluated : (play machine start choices).any check = true) :
    ∃ trace final, Run machine start trace final ∧ check (trace, final) = true := by
  cases played : play machine start choices with
  | none => simp [played] at evaluated
  | some outcome =>
      exact ⟨outcome.1, outcome.2, run_of_play played, by simpa [played] using evaluated⟩

end Runs
