import ArtifactPromotion.Library.CriticalSections

/-! Threads whose steps carry a name, such as the request that a step is taken for. The machine does
not see the names: without them the threads are the plain ones, and so are the moves of the pool. -/

namespace CriticalSections

open Runs

variable {State Input Output Result Label Name : Type}

def nameless (machine : Machine State Input Output) : Machine State (Name × Input) Output :=
  fun state input => machine state input.2

def namedStep (name : Name) (taken : Step State Input Output) : Step State (Name × Input) Output :=
  ⟨taken.before, (name, taken.input), taken.output, taken.after⟩

def unnamedStep (taken : Step State (Name × Input) Output) : Step State Input Output :=
  ⟨taken.before, taken.input.2, taken.output, taken.after⟩

namespace Thread

variable {Other : Type} {machine : Machine State Input Output}

def named (name : Name) :
    Thread State Input Output Result → Thread State (Name × Input) Output Result
  | .done result => .done result
  | .look next => .look fun state => (next state).named name
  | .act input next => .act (name, input) fun output => (next output).named name

def unnamed : Thread State (Name × Input) Output Result → Thread State Input Output Result
  | .done result => .done result
  | .look next => .look fun state => (next state).unnamed
  | .act input next => .act input.2 fun output => (next output).unnamed

@[simp] theorem unnamed_named (name : Name) (thread : Thread State Input Output Result) :
    (thread.named name).unnamed = thread := by
  induction thread with
  | done result => rfl
  | look next ih | act input next ih => simp only [named, unnamed, ih]

theorem unnamed_bind (thread : Thread State (Name × Input) Output Result)
    (continue_ : Result → Thread State (Name × Input) Output Other) :
    (thread.bind continue_).unnamed =
      thread.unnamed.bind fun result => (continue_ result).unnamed := by
  induction thread with
  | done result => rfl
  | look next ih | act input next ih => simp only [bind, unnamed, ih]

theorem Within.named {thread : Thread State Input Output Result} {expected : State → Prop}
    {allowed : Input → Prop} (within : thread.Within expected allowed) (name : Name) :
    (thread.named name).Within expected fun input => input.1 = name ∧ allowed input.2 := by
  induction thread with
  | done result => trivial
  | look next ih => exact fun state seen => ih state (within state seen)
  | act input next ih => exact ⟨⟨rfl, within.1⟩, fun output => ih output (within.2 output)⟩

theorem Leads.named {thread later : Thread State Input Output Result} {state after : State}
    {taken : List (Step State Input Output)}
    (leads : thread.Leads machine state taken later after) (name : Name) :
    (thread.named name).Leads (nameless machine) state (taken.map (namedStep name))
      (later.named name) after := by
  induction leads with
  | here thread state => exact .here _ _
  | look _ ih => exact .look ih
  | act moved _ ih => exact .act moved ih

end Thread

def Move.unnamed : Move (Name × Input) Label → Move Input Label
  | .start key label => .start key label
  | .advance key => .advance key
  | .outside input => .outside input.2

def Event.unnamed (event : Event State (Name × Input) Output Result Label) :
    Event State Input Output Result Label :=
  { acted := event.acted.map fun acted => (acted.1, unnamedStep acted.2), ended := event.ended }

namespace Pool

variable {machine : Machine State Input Output}
  {program : Label → Thread State (Name × Input) Output Result}

def unnamed (pool : Pool State (Name × Input) Output Result Label) :
    Pool State Input Output Result Label :=
  { shared := pool.shared
    threads := fun key => (pool.threads key).map fun running => (running.1, running.2.unnamed) }

theorem unnamed_assign (pool : Pool State (Name × Input) Output Result Label) (key : Nat)
    (running : Option (Label × Thread State (Name × Input) Output Result)) :
    (pool.assign key running).unnamed =
      pool.unnamed.assign key (running.map fun running => (running.1, running.2.unnamed)) := by
  unfold unnamed assign
  congr 1
  funext other
  by_cases same : other = key
  · subst same
    simp
  · simp [Function.update_of_ne same]

theorem step_unnamed {pool after : Pool State (Name × Input) Output Result Label}
    {move : Move (Name × Input) Label} {event : Event State (Name × Input) Output Result Label}
    (moved : step (nameless machine) program pool move = some (event, after)) :
    step machine (fun label => (program label).unnamed) pool.unnamed move.unnamed =
      some (event.unnamed, after.unnamed) := by
  cases move with
  | start key label =>
      simp only [step] at moved
      split at moved
      · cases moved
      · rename_i idle
        cases moved
        have idle : pool.unnamed.threads key = none := by simp [unnamed, idle]
        simp only [Move.unnamed, step, idle, unnamed_assign]
        rfl
  | advance key =>
      simp only [step] at moved
      split at moved
      · cases moved
      · rename_i label result held
        cases moved
        have held : pool.unnamed.threads key = some (label, .done result) := by
          simp [unnamed, held, Thread.unnamed]
        simp only [Move.unnamed, step, held, unnamed_assign]
        rfl
      · rename_i label next held
        cases moved
        have held : pool.unnamed.threads key =
            some (label, .look fun state => (next state).unnamed) := by
          simp [unnamed, held, Thread.unnamed]
        rw [Move.unnamed, advance_look held, unnamed_assign]
        rfl
      · rename_i label input next held
        obtain ⟨⟨output, reached⟩, stepped, made⟩ := Option.map_eq_some_iff.mp moved
        cases made
        have held : pool.unnamed.threads key =
            some (label, .act input.2 fun output => (next output).unnamed) := by
          simp [unnamed, held, Thread.unnamed]
        have moved : machine pool.unnamed.shared input.2 = some (output, reached) := stepped
        rw [Move.unnamed, advance_act held moved, unnamed_assign]
        rfl
  | outside input =>
      simp only [step] at moved
      obtain ⟨⟨output, reached⟩, stepped, made⟩ := Option.map_eq_some_iff.mp moved
      cases made
      have moved : machine pool.unnamed.shared input.2 = some (output, reached) := stepped
      simp only [Move.unnamed, step, moved, Option.map_some]
      rfl

end Pool

end CriticalSections
