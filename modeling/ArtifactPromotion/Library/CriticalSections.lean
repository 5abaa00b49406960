import ArtifactPromotion.Library.Runs
import Mathlib.Logic.Function.Basic

/-! Threads that share one machine: each runs a program of critical sections, and a scheduler says
whose section is next. Whatever the scheduler does, the shared machine sees an ordinary run, and a
promise that every program keeps on its own holds for the threads together. -/

namespace CriticalSections

open Runs

variable {State Input Output Result Label : Type}

/-- What a thread still does: nothing, a section that only looks, or a step of the machine. -/
inductive Thread (State Input Output Result : Type)
  | done (result : Result)
  | look (next : State → Thread State Input Output Result)
  | act (input : Input) (next : Output → Thread State Input Output Result)

namespace Thread

variable {Other : Type}

def bind : Thread State Input Output Result → (Result → Thread State Input Output Other) →
    Thread State Input Output Other
  | .done result, continue_ => continue_ result
  | .look next, continue_ => .look fun state => (next state).bind continue_
  | .act input next, continue_ => .act input fun output => (next output).bind continue_

/-- The thread asks for allowed steps only, as long as it sees expected states. -/
def Within (expected : State → Prop) (allowed : Input → Prop) :
    Thread State Input Output Result → Prop
  | .done _ => True
  | .look next => ∀ state, expected state → (next state).Within expected allowed
  | .act input next => allowed input ∧ ∀ output, (next output).Within expected allowed

variable {machine : Machine State Input Output} {thread : Thread State Input Output Result}
  {continue_ : Result → Thread State Input Output Other} {expected : State → Prop}
  {allowed : Input → Prop}

theorem Within.bind (within : thread.Within expected allowed)
    (continues : ∀ result, (continue_ result).Within expected allowed) :
    (thread.bind continue_).Within expected allowed := by
  induction thread with
  | done result => exact continues result
  | look next ih => exact fun state seen => ih state (within state seen)
  | act input next ih => exact ⟨within.1, fun output => ih output (within.2 output)⟩

theorem Within.mono {wider : Input → Prop} (within : thread.Within expected allowed)
    (implies : ∀ input, allowed input → wider input) : thread.Within expected wider := by
  induction thread with
  | done result => trivial
  | look next ih => exact fun state seen => ih state (within state seen)
  | act input next ih => exact ⟨implies input within.1, fun output => ih output (within.2 output)⟩

/-- What a thread comes to when nobody gets in between, and the steps it takes on the way. -/
inductive Leads (machine : Machine State Input Output) : Thread State Input Output Result → State →
    List (Step State Input Output) → Thread State Input Output Result → State → Prop
  | here (thread state) : Leads machine thread state [] thread state
  | look {next state taken later after} : Leads machine (next state) state taken later after →
      Leads machine (.look next) state taken later after
  | act {input next state output middle taken later after} :
      machine state input = some (output, middle) →
      Leads machine (next output) middle taken later after →
      Leads machine (.act input next) state (⟨state, input, output, middle⟩ :: taken) later after

theorem Leads.trans {later last : Thread State Input Output Result} {state middle after : State}
    {first second : List (Step State Input Output)}
    (leads : thread.Leads machine state first later middle)
    (continues : later.Leads machine middle second last after) :
    thread.Leads machine state (first ++ second) last after := by
  induction leads with
  | here => exact continues
  | look _ ih => exact .look (ih continues)
  | act moved _ ih => exact .act moved (ih continues)

theorem Leads.bind {later : Thread State Input Output Result} {state after : State}
    {taken : List (Step State Input Output)}
    (leads : thread.Leads machine state taken later after) :
    (thread.bind continue_).Leads machine state taken (later.bind continue_) after := by
  induction leads with
  | here thread state => exact .here _ _
  | look _ ih => exact .look ih
  | act moved _ ih => exact .act moved ih

end Thread

structure Seen (State Input Output : Type) where
  own : Bool
  taken : Step State Input Output

structure Interlude (machine : Machine State Input Output) (before : State)
    (seen : List (Seen State Input Output)) (after : State) : Prop where
  others : ∀ one ∈ seen, one.own = false
  run : Run machine before (seen.map Seen.taken) after

namespace Interlude

variable {machine : Machine State Input Output} {before middle after : State}
  {first second : List (Seen State Input Output)}

theorem nil (machine : Machine State Input Output) (state : State) :
    Interlude machine state [] state := ⟨by simp, .nil state⟩

theorem cons {input : Input} {output : Output}
    (moved : machine before input = some (output, middle))
    (rest : Interlude machine middle second after) :
    Interlude machine before (⟨false, ⟨before, input, output, middle⟩⟩ :: second) after :=
  ⟨List.forall_mem_cons.mpr ⟨rfl, rest.others⟩, .cons moved rest.run⟩

theorem append (left : Interlude machine before first middle)
    (right : Interlude machine middle second after) :
    Interlude machine before (first ++ second) after :=
  ⟨List.forall_mem_append.mpr ⟨left.others, right.others⟩,
    List.map_append ▸ left.run.append right.run⟩

end Interlude

namespace Thread

/-- How a thread ends when steps of others may get in between its sections. -/
inductive Amid (machine : Machine State Input Output) :
    Thread State Input Output Result → State → List (Seen State Input Output) → Result → State → Prop
  | done (result state) : Amid machine (.done result) state [] result state
  | look {next state seen result after} : Amid machine (next state) state seen result after →
      Amid machine (.look next) state seen result after
  | act {input next state output middle seen result after} :
      machine state input = some (output, middle) →
      Amid machine (next output) middle seen result after →
      Amid machine (.act input next) state (⟨true, ⟨state, input, output, middle⟩⟩ :: seen) result after
  | other {thread state input output middle seen result after} :
      machine state input = some (output, middle) → Amid machine thread middle seen result after →
      Amid machine thread state (⟨false, ⟨state, input, output, middle⟩⟩ :: seen) result after

namespace Amid

variable {Other : Type} {machine : Machine State Input Output}
  {thread : Thread State Input Output Result} {continue_ : Result → Thread State Input Output Other}
  {state after : State} {seen : List (Seen State Input Output)} {result : Result}

theorem run (amid : Amid machine thread state seen result after) :
    Run machine state (seen.map Seen.taken) after := by
  induction amid with
  | done _ state => exact .nil state
  | look _ ih => exact ih
  | act moved _ ih | other moved _ ih => exact .cons moved ih

theorem bind {ended : Other}
    (amid : Amid machine (thread.bind continue_) state seen ended after) :
    ∃ first second result middle, seen = first ++ second ∧
      Amid machine thread state first result middle ∧
      Amid machine (continue_ result) middle second ended after := by
  generalize composed : thread.bind continue_ = whole at amid
  induction amid generalizing thread with
  | done ended state =>
      cases thread with
      | done result =>
          have same : continue_ result = .done ended := composed
          exact ⟨[], [], result, state, rfl, .done result state, same ▸ .done ended state⟩
      | look next | act input next => cases composed
  | @look next state seen ended after inner ih =>
      cases thread with
      | done result =>
          have same : continue_ result = .look next := composed
          exact ⟨[], seen, result, state, rfl, .done result state, same ▸ .look inner⟩
      | look further =>
          cases composed
          obtain ⟨first, second, result, middle, split, left, right⟩ := ih rfl
          exact ⟨first, second, result, middle, split, .look left, right⟩
      | act input further => cases composed
  | @act input next state output between seen ended after moved inner ih =>
      cases thread with
      | done result =>
          have same : continue_ result = .act input next := composed
          exact ⟨[], _, result, state, rfl, .done result state, same ▸ .act moved inner⟩
      | look further => cases composed
      | act asked further =>
          cases composed
          obtain ⟨first, second, result, middle, rfl, left, right⟩ := ih rfl
          exact ⟨_ :: first, second, result, middle, rfl, .act moved left, right⟩
  | other moved _ ih =>
      obtain ⟨first, second, result, middle, rfl, left, right⟩ := ih composed
      exact ⟨_ :: first, second, result, middle, rfl, .other moved left, right⟩

theorem ended {outcome : Result} (amid : Amid machine (.done outcome) state seen result after) :
    result = outcome ∧ Interlude machine state seen after := by
  generalize whole : Thread.done outcome = thread at amid
  induction amid with
  | done ended state =>
      cases whole
      exact ⟨rfl, .nil machine state⟩
  | look _ _ => cases whole
  | act _ _ _ => cases whole
  | other moved _ ih =>
      obtain ⟨same, others⟩ := ih whole
      exact ⟨same, .cons moved others⟩

theorem looked {next : State → Thread State Input Output Result}
    (amid : Amid machine (.look next) state seen result after) :
    ∃ first second middle, seen = first ++ second ∧ Interlude machine state first middle ∧
      Amid machine (next middle) middle second result after := by
  generalize whole : Thread.look next = thread at amid
  induction amid with
  | done _ _ => cases whole
  | @look further state seen _ _ inner _ =>
      cases whole
      exact ⟨[], seen, state, rfl, .nil machine state, inner⟩
  | act _ _ _ => cases whole
  | other moved _ ih =>
      obtain ⟨first, second, middle, rfl, others, inner⟩ := ih whole
      exact ⟨_ :: first, second, middle, rfl, .cons moved others, inner⟩

theorem acted {input : Input} {next : Output → Thread State Input Output Result}
    (amid : Amid machine (.act input next) state seen result after) :
    ∃ first second before output middle,
      seen = first ++ ⟨true, ⟨before, input, output, middle⟩⟩ :: second ∧
      Interlude machine state first before ∧ machine before input = some (output, middle) ∧
      Amid machine (next output) middle second result after := by
  generalize whole : Thread.act input next = thread at amid
  induction amid with
  | done _ _ => cases whole
  | look _ _ => cases whole
  | @act asked further state output middle seen _ _ moved inner _ =>
      cases whole
      exact ⟨[], seen, state, output, middle, rfl, .nil machine state, moved, inner⟩
  | other moved _ ih =>
      obtain ⟨first, second, before, output, middle, rfl, others, stepped, inner⟩ := ih whole
      exact ⟨_ :: first, second, before, output, middle, rfl, .cons moved others, stepped, inner⟩

end Amid

end Thread

/-- The shared machine and the threads that use it, under the labels they were started with. -/
structure Pool (State Input Output Result Label : Type) where
  shared : State
  threads : Nat → Option (Label × Thread State Input Output Result) := fun _ => none

/-- What the scheduler and the surroundings decide. -/
inductive Move (Input Label : Type)
  | start (key : Nat) (label : Label)
  | advance (key : Nat)
  /-- A step of the machine that no thread takes. -/
  | outside (input : Input)

structure Event (State Input Output Result Label : Type) where
  acted : Option (Option Label × Step State Input Output) := none
  ended : Option (Label × Result) := none

def Move.advances (key : Nat) : Move Input Label → Bool
  | .advance other => other == key
  | _ => false

namespace Pool

abbrev Executed (State Input Output Result Label : Type) :=
  Step (Pool State Input Output Result Label) (Move Input Label)
    (Event State Input Output Result Label)

def assign (pool : Pool State Input Output Result Label) (key : Nat)
    (running : Option (Label × Thread State Input Output Result)) :
    Pool State Input Output Result Label :=
  { pool with threads := Function.update pool.threads key running }

def step (machine : Machine State Input Output)
    (program : Label → Thread State Input Output Result) :
    Machine (Pool State Input Output Result Label) (Move Input Label)
      (Event State Input Output Result Label)
  | pool, .start key label =>
      match pool.threads key with
      | some _ => none
      | none => some ({}, pool.assign key (some (label, program label)))
  | pool, .advance key =>
      match pool.threads key with
      | none => none
      | some (label, .done result) => some ({ ended := some (label, result) }, pool.assign key none)
      | some (label, .look next) => some ({}, pool.assign key (some (label, next pool.shared)))
      | some (label, .act input next) =>
          (machine pool.shared input).map fun (output, after) =>
            ({ acted := some (some label, ⟨pool.shared, input, output, after⟩) },
              { pool with shared := after }.assign key (some (label, next output)))
  | pool, .outside input =>
      (machine pool.shared input).map fun (output, after) =>
        ({ acted := some (none, ⟨pool.shared, input, output, after⟩) },
          { pool with shared := after })

variable {machine : Machine State Input Output}
  {program : Label → Thread State Input Output Result}
  {pool start final : Pool State Input Output Result Label}
  {trace : List (Executed State Input Output Result Label)}

@[simp] theorem assign_shared (key : Nat)
    (running : Option (Label × Thread State Input Output Result)) :
    (pool.assign key running).shared = pool.shared := rfl

theorem assign_threads {key other : Nat}
    {running : Option (Label × Thread State Input Output Result)}
    {entry : Label × Thread State Input Output Result}
    (held : (pool.assign key running).threads other = some entry) :
    (other = key ∧ running = some entry) ∨ (other ≠ key ∧ pool.threads other = some entry) := by
  by_cases same : other = key
  · subst same
    exact .inl ⟨rfl, by simpa [assign] using held⟩
  · exact .inr ⟨same, by simpa [assign, Function.update_of_ne same] using held⟩

theorem step_shared {before after : Pool State Input Output Result Label} {move : Move Input Label}
    {event : Event State Input Output Result Label}
    (moved : step machine program before move = some (event, after)) :
    (event.acted = none ∧ after.shared = before.shared) ∨
    ∃ who input output, event.acted = some (who, ⟨before.shared, input, output, after.shared⟩) ∧
      machine before.shared input = some (output, after.shared) ∧
      (who = none → move = .outside input) := by
  cases move with
  | start key label =>
      simp only [step] at moved
      split at moved
      · cases moved
      · cases moved
        exact .inl ⟨rfl, rfl⟩
  | advance key =>
      simp only [step] at moved
      split at moved
      · cases moved
      · cases moved
        exact .inl ⟨rfl, rfl⟩
      · cases moved
        exact .inl ⟨rfl, rfl⟩
      · rename_i label input next _
        obtain ⟨⟨output, reached⟩, stepped, made⟩ := Option.map_eq_some_iff.mp moved
        cases made
        exact .inr ⟨some label, input, output, rfl, stepped, nofun⟩
  | outside input =>
      simp only [step] at moved
      obtain ⟨⟨output, reached⟩, stepped, made⟩ := Option.map_eq_some_iff.mp moved
      cases made
      exact .inr ⟨none, input, output, rfl, stepped, fun _ => rfl⟩

/-- The conditions under which a promise of every program on its own is one of all together: the
steps that threads may take leave an expected state, and so do the steps from outside. -/
structure Guarded (machine : Machine State Input Output)
    (program : Label → Thread State Input Output Result) (expected : State → Prop)
    (allowed : Label → Input → Prop) (executed : Executed State Input Output Result Label) :
    Prop where
  promised : ∀ key label, executed.input = .start key label →
    (program label).Within expected (allowed label)
  outside : ∀ input output after, executed.input = .outside input →
    machine executed.before.shared input = some (output, after) → expected after

/-- Every step of the machine is one that its thread may take. -/
def Allowed (allowed : Label → Input → Prop)
    (executed : Executed State Input Output Result Label) : Prop :=
  ∀ label taken, executed.output.acted = some (some label, taken) → allowed label taken.input

/-- All threads keep their promise, and the state is an expected one. -/
structure Sound (expected : State → Prop) (allowed : Label → Input → Prop)
    (pool : Pool State Input Output Result Label) : Prop where
  state : expected pool.shared
  threads : ∀ key label thread, pool.threads key = some (label, thread) →
    thread.Within expected (allowed label)

theorem Sound.assign {expected : State → Prop} {allowed : Label → Input → Prop}
    (sound : Sound expected allowed pool) {key : Nat} {label : Label}
    {thread : Thread State Input Output Result} (within : thread.Within expected (allowed label)) :
    Sound expected allowed (pool.assign key (some (label, thread))) where
  state := sound.state
  threads := by
    intro other name running held
    rcases assign_threads held with ⟨_, same⟩ | ⟨_, before⟩
    · cases same
      exact within
    · exact sound.threads other name running before

theorem step_sound {expected : State → Prop} {allowed : Label → Input → Prop}
    (keeps : ∀ label input, allowed label input → ∀ state output after, expected state →
      machine state input = some (output, after) → expected after)
    {executed : Executed State Input Output Result Label}
    (sound : Sound expected allowed executed.before)
    (guarded : Guarded machine program expected allowed executed)
    (moved : step machine program executed.before executed.input =
      some (executed.output, executed.after)) :
    Sound expected allowed executed.after ∧ Allowed allowed executed := by
  obtain ⟨before, move, event, after⟩ := executed
  dsimp only at sound moved ⊢
  cases move with
  | start key label =>
      simp only [step] at moved
      split at moved
      · cases moved
      · cases moved
        exact ⟨sound.assign (guarded.promised key label rfl), nofun⟩
  | advance key =>
      simp only [step] at moved
      split at moved
      · cases moved
      · cases moved
        refine ⟨⟨sound.state, ?_⟩, nofun⟩
        intro other name running held
        rcases assign_threads held with ⟨_, same⟩ | ⟨_, before⟩
        · cases same
        · exact sound.threads other name running before
      · rename_i label next held
        cases moved
        have within := sound.threads key label _ held
        exact ⟨sound.assign (within _ sound.state), nofun⟩
      · rename_i label input next held
        have within := sound.threads key label _ held
        obtain ⟨⟨output, reached⟩, stepped, made⟩ := Option.map_eq_some_iff.mp moved
        cases made
        have expects := keeps label input within.1 _ _ _ sound.state stepped
        have still : Sound expected allowed { before with shared := reached } :=
          ⟨expects, sound.threads⟩
        refine ⟨still.assign (within.2 output), ?_⟩
        rintro name taken ⟨⟩
        exact within.1
  | outside input =>
      simp only [step] at moved
      obtain ⟨⟨output, reached⟩, stepped, made⟩ := Option.map_eq_some_iff.mp moved
      cases made
      exact ⟨⟨guarded.outside input output reached rfl stepped, sound.threads⟩, nofun⟩

/-- The rule for runs: what every program promises on its own, all threads keep together. -/
theorem run_sound {expected : State → Prop} {allowed : Label → Input → Prop}
    (keeps : ∀ label input, allowed label input → ∀ state output after, expected state →
      machine state input = some (output, after) → expected after)
    (run : Run (step machine program) start trace final) (initially : Sound expected allowed start)
    (guarded : ∀ executed ∈ trace, Guarded machine program expected allowed executed) :
    Sound expected allowed final ∧ ∀ executed ∈ trace, Allowed allowed executed := by
  have kept (executed : Executed State Input Output Result Label)
      (sound : Sound expected allowed executed.before)
      (condition : Guarded machine program expected allowed executed)
      (moved : step machine program executed.before executed.input =
        some (executed.output, executed.after)) := step_sound keeps sound condition moved
  constructor
  · exact run.guarded (Sound expected allowed) (Guarded machine program expected allowed)
      (fun executed sound condition moved => (kept executed sound condition moved).1) initially
      guarded
  · intro executed inside
    have sound := (run.throughout (Sound expected allowed)
      (Guarded machine program expected allowed)
      (fun executed sound condition moved => (kept executed sound condition moved).1) initially
      guarded executed inside).1
    exact (kept executed sound (guarded executed inside) (run.moved inside)).2

/-- What the thread sees of a move. -/
def seen (key : Nat) (executed : Executed State Input Output Result Label) :
    Option (Seen State Input Output) :=
  executed.output.acted.map fun (_, taken) => ⟨executed.input.advances key, taken⟩

/-- What the moves so far have made of a thread: whatever it still comes to, the whole program comes
to it from where it was started. -/
def Underway (machine : Machine State Input Output)
    (program : Label → Thread State Input Output Result)
    (start : Pool State Input Output Result Label)
    (past : List (Executed State Input Output Result Label))
    (pool : Pool State Input Output Result Label) : Prop :=
  ∀ key label thread, pool.threads key = some (label, thread) →
    ∃ earlier since origin, past = earlier ++ since ∧ Run (step machine program) start earlier origin ∧
      ∀ rest result after, thread.Amid machine pool.shared rest result after →
        (program label).Amid machine origin.shared (since.filterMap (seen key) ++ rest) result after

theorem underway_extend {past : List (Executed State Input Output Result Label)}
    {before after : Pool State Input Output Result Label} {move : Move Input Label}
    {event : Event State Input Output Result Label}
    (run : Run (step machine program) start past before)
    (underway : Underway machine program start past before)
    (moved : step machine program before move = some (event, after)) :
    Underway machine program start (past ++ [⟨before, move, event, after⟩]) after := by
  -- A thread that was there before comes to nothing new, whatever the move adds to what it sees.
  have resumes {key : Nat} {label : Label} {thread later : Thread State Input Output Result}
      (held : before.threads key = some (label, thread))
      (steps : ∀ rest result last, later.Amid machine after.shared rest result last →
        thread.Amid machine before.shared
          ((seen key ⟨before, move, event, after⟩).toList ++ rest) result last) :
      ∃ earlier since origin, past ++ [⟨before, move, event, after⟩] = earlier ++ since ∧
        Run (step machine program) start earlier origin ∧
        ∀ rest result last, later.Amid machine after.shared rest result last →
          (program label).Amid machine origin.shared (since.filterMap (seen key) ++ rest) result
            last := by
    obtain ⟨earlier, since, origin, rfl, reached, comes⟩ := underway key label thread held
    refine ⟨earlier, since ++ [⟨before, move, event, after⟩], origin, by simp, reached, ?_⟩
    intro rest result last amid
    have whole := comes _ _ _ (steps rest result last amid)
    rw [List.filterMap_append, List.append_assoc]
    cases noticed : seen key ⟨before, move, event, after⟩ with
    | none => simpa [noticed] using whole
    | some one => simpa [noticed] using whole
  intro key label thread held
  cases move with
  | start opened name =>
      simp only [step] at moved
      split at moved
      · cases moved
      rename_i idle
      cases moved
      rcases assign_threads held with ⟨rfl, same⟩ | ⟨_, kept⟩
      · cases same
        have opens : step machine program before (.start key label) =
            some ({}, before.assign key (some (label, program label))) := by
          simp [step, idle]
        exact ⟨_, [], _, (List.append_nil _).symm, run.append (.cons opens (.nil _)),
          fun rest result last amid => amid⟩
      · exact resumes kept fun rest result last amid => amid
  | advance other =>
      simp only [step] at moved
      split at moved
      · cases moved
      · cases moved
        rcases assign_threads held with ⟨_, same⟩ | ⟨_, kept⟩
        · cases same
        · exact resumes kept fun rest result last amid => amid
      · rename_i name next running
        cases moved
        rcases assign_threads held with ⟨rfl, same⟩ | ⟨_, kept⟩
        · cases same
          exact resumes running fun rest result last amid => .look amid
        · exact resumes kept fun rest result last amid => amid
      · rename_i name input next running
        obtain ⟨⟨output, reached⟩, stepped, made⟩ := Option.map_eq_some_iff.mp moved
        cases made
        rcases assign_threads held with ⟨rfl, same⟩ | ⟨distinct, kept⟩
        · cases same
          refine resumes running fun rest result last amid => ?_
          simpa [seen, Move.advances] using Thread.Amid.act stepped amid
        · have apart : (other == key) = false := beq_eq_false_iff_ne.mpr distinct.symm
          refine resumes kept fun rest result last amid => ?_
          simpa [seen, Move.advances, apart] using Thread.Amid.other stepped amid
  | outside input =>
      simp only [step] at moved
      obtain ⟨⟨output, reached⟩, stepped, made⟩ := Option.map_eq_some_iff.mp moved
      cases made
      refine resumes held fun rest result last amid => ?_
      simpa [seen, Move.advances] using Thread.Amid.other stepped amid

/-- The rule for threads that end: since it was started, the thread has run its program among the
steps of the others. -/
theorem ended_amid (run : Run (step machine program) start trace final)
    (idle : ∀ key, start.threads key = none)
    {past future : List (Executed State Input Output Result Label)}
    {before after : Pool State Input Output Result Label} {key : Nat} {label : Label}
    {result : Result} {event : Event State Input Output Result Label}
    (split : trace = past ++ ⟨before, .advance key, event, after⟩ :: future)
    (ended : event.ended = some (label, result)) :
    ∃ earlier since origin, past = earlier ++ since ∧ Run (step machine program) start earlier origin ∧
      (program label).Amid machine origin.shared (since.filterMap (seen key)) result
        before.shared := by
  subst split
  obtain ⟨reached, moved, _⟩ := run.cut
  have underway : Underway machine program start past before := by
    refine reached.byHistory (Underway machine program start) ?_ ?_
    · intro other name thread held
      rw [idle other] at held
      cases held
    · intro past before input output after run underway moved
      exact underway_extend run underway moved
  dsimp only at moved
  simp only [step] at moved
  split at moved
  · cases moved
  · rename_i name outcome running
    cases moved
    cases ended
    obtain ⟨earlier, since, origin, rfl, opened, comes⟩ := underway key _ _ running
    exact ⟨earlier, since, origin, rfl, opened, by simpa using comes _ _ _ (.done _ _)⟩
  · cases moved
    cases ended
  · obtain ⟨⟨output, reached⟩, _, made⟩ := Option.map_eq_some_iff.mp moved
    cases made
    cases ended

theorem advance_look {key : Nat} {label : Label} {next : State → Thread State Input Output Result}
    (held : pool.threads key = some (label, .look next)) :
    step machine program pool (.advance key) =
      some ({}, pool.assign key (some (label, next pool.shared))) := by
  rw [step, held]

theorem advance_act {key : Nat} {label : Label} {input : Input}
    {next : Output → Thread State Input Output Result} {output : Output} {after : State}
    (held : pool.threads key = some (label, .act input next))
    (moved : machine pool.shared input = some (output, after)) :
    step machine program pool (.advance key) =
      some ({ acted := some (some label, ⟨pool.shared, input, output, after⟩) },
        { pool with shared := after }.assign key (some (label, next output))) := by
  rw [step, held]
  simp only [moved, Option.map_some]

theorem advance_done {key : Nat} {label : Label} {result : Result}
    (held : pool.threads key = some (label, .done result)) :
    step machine program pool (.advance key) =
      some ({ ended := some (label, result) }, pool.assign key none) := by
  rw [step, held]

@[simp] theorem assign_held (key : Nat)
    (running : Option (Label × Thread State Input Output Result)) :
    (pool.assign key running).threads key = running := Function.update_self ..

theorem assign_other {key other : Nat} (apart : other ≠ key)
    (running : Option (Label × Thread State Input Output Result)) :
    (pool.assign key running).threads other = pool.threads other :=
  Function.update_of_ne apart ..

theorem assign_again (key : Nat) (first second : Option (Label × Thread State Input Output Result))
    (state : State) : { pool.assign key first with shared := state }.assign key second =
      { pool with shared := state }.assign key second := by
  simp [assign]

theorem advance_leads {thread later : Thread State Input Output Result} {after : State}
    {taken : List (Step State Input Output)} {key : Nat} {label : Label}
    (leads : thread.Leads machine pool.shared taken later after)
    (held : pool.threads key = some (label, thread)) :
    ∃ trace, Run (step machine program) pool trace
        ({ pool with shared := after }.assign key (some (label, later))) ∧
      (∀ executed ∈ trace, executed.input = .advance key) ∧
      trace.filterMap (fun executed => executed.output.acted) =
        taken.map fun one => (some label, one) := by
  generalize begun : pool.shared = state at leads
  induction leads generalizing pool with
  | here thread state =>
      subst begun
      have same : pool.assign key (some (label, thread)) = pool := by
        simp [assign, ← held, Function.update_eq_self]
      exact ⟨[], by rw [same]; exact .nil pool, by simp, rfl⟩
  | look _ ih =>
      subst begun
      obtain ⟨trace, run, advances, acted⟩ := ih (assign_held key _) rfl
      rw [assign_again] at run
      exact ⟨_, .cons (advance_look held) run, List.forall_mem_cons.mpr ⟨rfl, advances⟩, acted⟩
  | @act input next state output middle taken later after moved _ ih =>
      subst begun
      obtain ⟨trace, run, advances, acted⟩ :=
        @ih ({ pool with shared := middle }.assign key (some (label, next output)))
          (assign_held key _) rfl
      rw [assign_again] at run
      refine ⟨_, .cons (advance_act held moved) run, List.forall_mem_cons.mpr ⟨rfl, advances⟩, ?_⟩
      simp [acted]

end Pool

end CriticalSections
