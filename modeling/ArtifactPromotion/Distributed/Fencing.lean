import ArtifactPromotion.Distributed.Coordinator
import ArtifactPromotion.Distributed.Interleavings
import ArtifactPromotion.Library.NamedThreads

/-! Worker incarnations over the whole life of a state path: which boot identities the coordinator
has accepted, and under which of them the threads of its connections still call the engine. -/

namespace ArtifactPromotion

open CriticalSections Protocol Runs

/-- The requests that make the engine do something. -/
def Protocol.MessageType.mutating : MessageType → Bool
  | .registerArtifactRequest | .submitEvidenceRequest | .promotionRequest | .evaluateRequest
  | .quarantineRequest | .releaseQuarantineRequest | .revokeRequest | .revokeEvidenceRequest
  | .supersedeRequest | .retireRequest => true
  | _ => false

def CoordinatorCall.MadeFor (request : Frame) : CoordinatorCall → Prop
  | .perform _ => request.type.mutating = true
  | .registerWorkerBoot worker boot =>
      request.type = .helloRequest ∧ worker = request.worker ∧ boot = request.boot

/-- A call and the frame it is made for; the owner of the process names none. -/
abbrev ServedCall := Option Frame × CoordinatorCall

abbrev ServedThread := Thread FrameServer ServedCall CoordinatorReply

namespace FrameServer

def arriving (delivery : Delivery) : Option Frame :=
  match receiveFrame delivery.stream with
  | .ok (request, _) => some request
  | .error _ => none

def connectedFor : Connection → List Delivery → ServedThread (List Turn)
  | _, [] => .done []
  | connection, delivery :: rest =>
      ((receiving connection delivery).named (arriving delivery)).bind fun turn =>
        match turn.connection with
        | none => .done [turn]
        | some next =>
            if delivery.sent then (connectedFor next rest).bind fun turns => .done (turn :: turns)
            else .done [turn]

variable {connection : Connection} {circumstances : Circumstances} {request : Frame}
  {authority : CoordinatorAuthority}

theorem connectedFor_unnamed (connection : Connection) (deliveries : List Delivery) :
    (connectedFor connection deliveries).unnamed = connected connection deliveries := by
  induction deliveries generalizing connection with
  | nil => rfl
  | cons delivery rest ih =>
      rw [connectedFor, connected, Thread.unnamed_bind, Thread.unnamed_named]
      congr 1
      funext turn
      cases turn.connection with
      | none => rfl
      | some next =>
          dsimp only
          split
          · simp only [Thread.unnamed_bind, ih, Thread.unnamed]
          · rfl

/-- The thread makes calls for the frame only, whatever it is told. -/
abbrev Minds {Result : Type} (request : Frame) (thread : ConnectionThread Result) : Prop :=
  thread.Within (fun _ => True) (CoordinatorCall.MadeFor request)

theorem call_minds {op : Op} {answer : CoordinatorReply → Result Answer}
    (mutating : request.type.mutating = true) : Minds request (call op answer) :=
  ⟨mutating, fun _ => trivial⟩

theorem authorized_minds {α : Type} {decode : ByteBuffer → Result α}
    {arm : α → ConnectionThread (Result Answer)} (minds : ∀ payload, Minds request (arm payload)) :
    Minds request (authorized authority request decode arm) := by
  intro server _
  dsimp only
  split
  · trivial
  split
  · trivial
  · exact minds _

theorem deciding_minds (payload : PromotionPayload) (mutating : request.type.mutating = true) :
    Minds request (deciding authority circumstances request payload) := by
  unfold deciding
  split
  · trivial
  dsimp only
  split
  · exact call_minds mutating
  · refine Thread.Within.bind ⟨mutating, fun reply => ?_⟩ fun _ _ _ => trivial
    dsimp only
    split
    · trivial
    split
    · trivial
    · exact ⟨mutating, fun _ => trivial⟩

theorem dispatching_minds : Minds request (dispatching authority circumstances request) := by
  unfold dispatching
  cases typed : request.type
  case helloRequest =>
    refine ⟨⟨typed, rfl, rfl⟩, fun reply => ?_⟩
    dsimp only
    split
    · trivial
    · exact fun _ _ => trivial
  all_goals first
    | exact authorized_minds fun _ => call_minds (by rw [typed]; rfl)
    | exact authorized_minds fun _ => deciding_minds _ (by rw [typed]; rfl)
    | exact fun _ _ => trivial
    | trivial

theorem receiving_minds (delivery : Delivery) : (receiving connection delivery).Within
    (fun _ => True) fun call => ∃ request, arriving delivery = some request ∧
      call.MadeFor request := by
  unfold receiving arriving
  cases receiveFrame delivery.stream with
  | error failure =>
      cases failure with
      | refused status => exact fun _ _ => trivial
      | closed | oversized | truncated => trivial
  | ok arrived =>
      obtain ⟨request, left⟩ := arrived
      dsimp only
      unfold serving
      split
      · trivial
      split
      · exact fun _ _ => trivial
      split
      · exact fun _ _ => trivial
      · refine Thread.Within.bind ?_ fun _ _ _ => trivial
        exact fun server _ => dispatching_minds.mono fun call made => ⟨request, rfl, made⟩

theorem connectedFor_minds (connection : Connection) (deliveries : List Delivery) :
    (connectedFor connection deliveries).Within (fun _ => True)
      fun input => ∃ request, input.1 = some request ∧ input.2.MadeFor request := by
  induction deliveries generalizing connection with
  | nil => trivial
  | cons delivery rest ih =>
      refine Thread.Within.bind ?_ fun turn => ?_
      · refine ((receiving_minds delivery).named (arriving delivery)).mono ?_
        rintro input ⟨named, request, arrives, made⟩
        exact ⟨request, named.trans arrives, made⟩
      · split
        · trivial
        split
        · exact (ih _).bind fun _ => trivial
        · trivial

end FrameServer

abbrev ServingPool :=
  Pool FrameServer ServedCall CoordinatorReply (List FrameServer.Turn) (List Delivery)

abbrev ServingEvent :=
  Event FrameServer ServedCall CoordinatorReply (List FrameServer.Turn) (List Delivery)

namespace ServingPool

def step : Machine ServingPool (Move ServedCall (List Delivery)) ServingEvent :=
  Pool.step (nameless FrameServer.enter) (FrameServer.connectedFor {})

/-- Without the frames that the calls are made for, these are the threads of the connection pool. -/
theorem step_unnamed {pool after : ServingPool} {move : Move ServedCall (List Delivery)}
    {event : ServingEvent} (moved : step pool move = some (event, after)) :
    ConnectionPool.step pool.unnamed move.unnamed = some (event.unnamed, after.unnamed) := by
  have plain := Pool.step_unnamed moved
  simp only [FrameServer.connectedFor_unnamed] at plain
  exact plain

end ServingPool

/-- A state path, the snapshots its file has held, and the process that serves from it. -/
structure ServedPath where
  files : List CoordinatorState := []
  process : Option ServingPool := none

/-- What happens to a state path and its process. The threads go on section by section; besides
them there are the calls that the process makes on its own engine and the writes of the file. -/
inductive PathMove where
  | start (salting naming : UInt64)
  | save
  | call (op : Op)
  | accept (key : Nat) (deliveries : List Delivery)
  | advance (key : Nat)
  | halt

namespace ServedPath

def serving (path : ServedPath) (pool : ServingPool) : ServedPath :=
  { path with process := some pool }

/-- The table of incarnations; it is not part of the state file. -/
def boots (path : ServedPath) : CoordinatorServer.WorkerBoots :=
  match path.process with
  | none => ∅
  | some pool => pool.shared.workerBoots

def serve (path : ServedPath) (move : Move ServedCall (List Delivery)) :
    Option (ServingEvent × ServedPath) :=
  path.process.bind fun pool =>
    (ServingPool.step pool move).map fun moved => (moved.1, path.serving moved.2)

def step (config : EngineConfig) (path : ServedPath) : PathMove → Option (ServingEvent × ServedPath)
  | .start salting naming =>
      match path.process with
      | some _ => none
      | none =>
          (CoordinatorServer.start config { files := path.files } salting naming).bind
            fun started => started.2.process.map fun process =>
              ({}, path.serving { shared := { engine := process.engine } })
  | .save => path.process.map fun pool =>
      ({}, { path with files := pool.shared.engine.snapshot :: path.files })
  | .call op => path.serve (.outside (none, .perform op))
  | .accept key deliveries => path.serve (.start key deliveries)
  | .advance key => path.serve (.advance key)
  | .halt => path.process.map fun _ => ({}, { path with process := none })

end ServedPath

abbrev PathStep := Step ServedPath PathMove ServingEvent

abbrev PathRun (config : EngineConfig) (trace : List PathStep) (final : ServedPath) : Prop :=
  Run (ServedPath.step config) {} trace final

namespace PathStep

def Accepts (step : PathStep) (worker : WorkerId) (boot : WorkerBootId) : Prop :=
  ∃ request who before after, step.output.acted = some (who,
      ⟨before, (some request, .registerWorkerBoot worker boot), .boot (.ok ()), after⟩) ∧
    request.type = .helloRequest ∧ request.worker = worker ∧ request.boot = boot

def Executes (step : PathStep) (worker : WorkerId) (boot : WorkerBootId) : Prop :=
  ∃ request op reply who before after, step.output.acted = some (who,
      ⟨before, (some request, .perform op), reply, after⟩) ∧
    request.type.mutating = true ∧ request.worker = worker ∧ request.boot = boot

/-- The engine is called for requests under the incarnation on record only. -/
def Current (step : PathStep) : Prop :=
  ∀ worker boot, step.Executes worker boot → step.before.boots[worker]? = some boot

end PathStep

/-- A worker that the running process does not know has no newer incarnation that was accepted
earlier. -/
def Ordered (trace : List PathStep) : Prop :=
  ∀ past step future, trace = past ++ step :: future → ∀ worker boot, step.Accepts worker boot →
    step.before.boots[worker]? = none →
    ∀ earlier ∈ past, ∀ older, earlier.Accepts worker older → compare boot older ≠ .lt

/-- No request is executed under an incarnation that was superseded, or that never said hello. -/
structure Fenced (trace : List PathStep) : Prop where
  newest : ∀ past step future, trace = past ++ step :: future →
    ∀ worker boot, step.Executes worker boot →
      ∀ earlier ∈ past, ∀ accepted, earlier.Accepts worker accepted → compare boot accepted ≠ .lt
  greeted : ∀ past step future, trace = past ++ step :: future →
    ∀ worker boot, step.Executes worker boot → ∃ earlier ∈ past, earlier.Accepts worker boot

namespace ServedPath

variable {config : EngineConfig} {path next final : ServedPath} {move : PathMove}
  {event : ServingEvent} {trace : List PathStep}

/-- A move takes at most one section, and only a section changes the incarnations of a process that
lives on. -/
theorem step_cases (moved : step config path move = some (event, next)) :
    (event.acted = none ∧ (next.boots = path.boots ∨ move = .halt ∧ next.boots = ∅)) ∨
    ∃ who taken, event.acted = some (who, taken) ∧
      FrameServer.enter taken.before taken.input.2 = some (taken.output, taken.after) ∧
      path.boots = taken.before.workerBoots ∧ next.boots = taken.after.workerBoots := by
  have serves {inner : Move ServedCall (List Delivery)}
      (served : path.serve inner = some (event, next)) :
      (event.acted = none ∧ next.boots = path.boots) ∨
      ∃ who taken, event.acted = some (who, taken) ∧
        FrameServer.enter taken.before taken.input.2 = some (taken.output, taken.after) ∧
        path.boots = taken.before.workerBoots ∧ next.boots = taken.after.workerBoots := by
    simp only [serve, Option.bind_eq_some_iff, Option.map_eq_some_iff] at served
    obtain ⟨pool, up, ⟨event, after⟩, went, made⟩ := served
    cases made
    have recorded : path.boots = pool.shared.workerBoots := by rw [boots, up]
    rcases Pool.step_shared went with ⟨silent, kept⟩ | ⟨who, input, output, acted, entered, _⟩
    · refine .inl ⟨silent, ?_⟩
      rw [recorded, ← kept]
      rfl
    · exact .inr ⟨who, _, acted, entered, recorded, rfl⟩
  cases move with
  | start salting naming =>
      simp only [step] at moved
      split at moved
      · cases moved
      · rename_i idle
        simp only [Option.bind_eq_some_iff, Option.map_eq_some_iff] at moved
        obtain ⟨started, -, process, -, made⟩ := moved
        cases made
        refine .inl ⟨rfl, .inl ?_⟩
        simp [boots, idle, serving]
  | save =>
      obtain ⟨pool, found, made⟩ := Option.map_eq_some_iff.mp moved
      cases made
      exact .inl ⟨rfl, .inl rfl⟩
  | call op | accept key deliveries | advance key =>
      exact (serves moved).imp_left (And.imp_right .inl)
  | halt =>
      obtain ⟨pool, found, made⟩ := Option.map_eq_some_iff.mp moved
      cases made
      exact .inl ⟨rfl, .inr ⟨rfl, rfl⟩⟩

def Suits (input : ServedCall) : Prop :=
  (∃ op, input = (none, .perform op)) ∨
    ∃ request, input.1 = some request ∧ input.2.MadeFor request

def Minded (path : ServedPath) : Prop :=
  ∀ pool, path.process = some pool → Pool.Sound (fun _ => True)
    (fun _ input => ∃ request, input.1 = some request ∧ input.2.MadeFor request) pool

theorem step_minded (minded : path.Minded) (moved : step config path move = some (event, next)) :
    next.Minded ∧ ∀ who taken, event.acted = some (who, taken) → Suits taken.input := by
  have serves {inner : Move ServedCall (List Delivery)}
      (served : path.serve inner = some (event, next))
      (owned : ∀ input, inner = .outside input → ∃ op, input = (none, .perform op)) :
      next.Minded ∧ ∀ who taken, event.acted = some (who, taken) → Suits taken.input := by
    simp only [serve, Option.bind_eq_some_iff, Option.map_eq_some_iff] at served
    obtain ⟨pool, up, ⟨event, after⟩, went, made⟩ := served
    cases made
    obtain ⟨sound, allowed⟩ := @Pool.step_sound _ _ _ _ _ _ _ _ _ (fun _ _ _ _ _ _ _ _ => trivial)
      ⟨pool, inner, event, after⟩ (minded pool up)
      ⟨fun _ label _ => FrameServer.connectedFor_minds {} label, fun _ _ _ _ _ => trivial⟩ went
    constructor
    · intro other same
      cases same
      exact sound
    · intro who taken acted
      cases who with
      | some label => exact .inr (allowed label taken acted)
      | none =>
          rcases Pool.step_shared went with ⟨silent, _⟩ | ⟨who, input, output, same, _, outside⟩
          · rw [silent] at acted
            cases acted
          · rw [same] at acted
            cases acted
            exact .inl (owned input (outside rfl))
  cases move with
  | start salting naming =>
      simp only [step] at moved
      split at moved
      · cases moved
      · simp only [Option.bind_eq_some_iff, Option.map_eq_some_iff] at moved
        obtain ⟨started, -, process, -, made⟩ := moved
        cases made
        refine ⟨?_, fun _ _ acted => by cases acted⟩
        intro pool same
        cases same
        exact ⟨trivial, fun _ _ _ held => by cases held⟩
  | save =>
      obtain ⟨pool, found, made⟩ := Option.map_eq_some_iff.mp moved
      cases made
      exact ⟨minded, fun _ _ acted => by cases acted⟩
  | call op => exact serves moved fun input same => ⟨op, by cases same; rfl⟩
  | accept key deliveries => exact serves moved fun input same => by cases same
  | advance key => exact serves moved fun input same => by cases same
  | halt =>
      obtain ⟨pool, found, made⟩ := Option.map_eq_some_iff.mp moved
      cases made
      constructor
      · intro pool same
        cases same
      · intro who taken acted
        cases acted

theorem run_minded (run : PathRun config trace final) : final.Minded :=
  run.invariant Minded (fun _ _ _ _ minded moved => (step_minded minded moved).1)
    fun _ same => by cases same

theorem accepts_unique {step : PathStep} {worker other : WorkerId} {first second : WorkerBootId}
    (left : step.Accepts worker first) (right : step.Accepts other second) :
    worker = other ∧ first = second := by
  obtain ⟨_, _, _, _, acted, _⟩ := left
  obtain ⟨_, _, _, _, same, _⟩ := right
  rw [acted] at same
  cases same
  exact ⟨rfl, rfl⟩

theorem step_boots (minded : path.Minded) (moved : step config path move = some (event, next)) :
    (∃ worker boot, PathStep.Accepts ⟨path, move, event, next⟩ worker boot ∧
      CoordinatorServer.registerWorkerBoot path.boots worker boot = .ok next.boots) ∨
    ((∀ worker boot, ¬PathStep.Accepts ⟨path, move, event, next⟩ worker boot) ∧
      (next.boots = path.boots ∨ move = .halt ∧ next.boots = ∅)) := by
  rcases step_cases moved with ⟨silent, kept⟩ | ⟨who, taken, acted, entered, before, after⟩
  · refine .inr ⟨?_, kept⟩
    rintro worker boot ⟨_, _, _, _, acted, _⟩
    rw [silent] at acted
    cases acted
  · have suits := (step_minded minded moved).2 who taken acted
    obtain ⟨origin, ⟨name, call⟩, reply, reached⟩ := taken
    dsimp only at entered before after suits
    rw [before, after]
    cases call with
    | perform op =>
        obtain ⟨⟨answer, engine⟩, _, made⟩ := Option.map_eq_some_iff.mp entered
        cases made
        refine .inr ⟨?_, .inl rfl⟩
        rintro worker boot ⟨_, _, _, _, same, _⟩
        rw [acted] at same
        cases same
    | registerWorkerBoot worker boot =>
        simp only [FrameServer.enter] at entered
        split at entered
        · cases entered
          refine .inr ⟨?_, .inl rfl⟩
          rintro other newer ⟨_, _, _, _, same, _⟩
          rw [acted] at same
          cases same
        · rename_i boots registered
          cases entered
          rcases suits with ⟨op, same⟩ | ⟨request, rfl, hello, rfl, rfl⟩
          · cases same
          · exact .inl ⟨_, _, ⟨request, who, _, _, acted, hello, rfl, rfl⟩, registered⟩

theorem recorded_cases (minded : path.Minded) (moved : step config path move = some (event, next))
    {worker : WorkerId} {boot : WorkerBootId} (recorded : next.boots[worker]? = some boot) :
    PathStep.Accepts ⟨path, move, event, next⟩ worker boot ∧
      (∀ older, path.boots[worker]? = some older → compare boot older ≠ .lt) ∨
    path.boots[worker]? = some boot ∧
      ∀ newer, ¬PathStep.Accepts ⟨path, move, event, next⟩ worker newer := by
  rcases step_boots minded moved with
    ⟨greeting, newest, accepted, registered⟩ | ⟨unaccepted, same | ⟨-, lost⟩⟩
  · obtain ⟨-, -, newer, written⟩ := CoordinatorServer.registerWorkerBoot_eq_ok.mp registered
    rw [written] at recorded
    rcases OrderedMaps.insert_cases recorded with ⟨rfl, rfl⟩ | ⟨other, kept⟩
    · exact .inl ⟨accepted, newer⟩
    · exact .inr ⟨kept, fun _ another => other (accepts_unique another accepted).1⟩
  · exact .inr ⟨same ▸ recorded, unaccepted worker⟩
  · rw [lost] at recorded
    simp at recorded

theorem recorded_kept (minded : path.Minded) (moved : step config path move = some (event, next))
    (alive : move ≠ .halt) {worker : WorkerId} {boot : WorkerBootId}
    (reached : PathStep.Accepts ⟨path, move, event, next⟩ worker boot ∨
      ∃ newer, path.boots[worker]? = some newer ∧ compare newer boot ≠ .lt) :
    ∃ newer, next.boots[worker]? = some newer ∧ compare newer boot ≠ .lt := by
  rcases step_boots minded moved with
    ⟨greeting, newest, known, registered⟩ | ⟨unaccepted, same | ⟨halted, -⟩⟩
  · obtain ⟨-, -, newer, written⟩ := CoordinatorServer.registerWorkerBoot_eq_ok.mp registered
    rw [written]
    rcases reached with accepted | ⟨older, recorded, above⟩
    · obtain ⟨rfl, rfl⟩ := accepts_unique accepted known
      exact ⟨_, Std.ExtTreeMap.getElem?_insert_self, by simp [Std.ReflCmp.compare_self]⟩
    · by_cases named : worker = greeting
      · subst named
        refine ⟨newest, Std.ExtTreeMap.getElem?_insert_self, ?_⟩
        have rising := newer older recorded
        rw [ne_eq, ← Ordering.isGE_iff_ne_lt] at above rising ⊢
        exact Std.TransCmp.isGE_trans rising above
      · exact ⟨older, by rwa [OrderedMaps.getElem?_insert_ne _ _ named], above⟩
  · rcases reached with accepted | recorded
    · exact absurd accepted (unaccepted worker boot)
    · rwa [same]
  · exact absurd halted alive

theorem boots_accepted (run : PathRun config trace final) :
    ∀ worker boot, final.boots[worker]? = some boot →
      ∃ step ∈ trace, step.Accepts worker boot := by
  refine run.byHistory (fun past state => ∀ worker boot, state.boots[worker]? = some boot →
    ∃ step ∈ past, PathStep.Accepts step worker boot) ?_ ?_
  · intro worker boot recorded
    simp [boots] at recorded
  · intro past before input output after reached earlier moved worker boot recorded
    rcases recorded_cases (run_minded reached) moved recorded with ⟨accepted, -⟩ | ⟨kept, -⟩
    · exact ⟨_, List.mem_append_right _ (List.mem_singleton_self _), accepted⟩
    · obtain ⟨step, executed, accepted⟩ := earlier worker boot kept
      exact ⟨step, List.mem_append_left _ executed, accepted⟩

theorem ordered_before {past future : List PathStep} (ordered : Ordered (past ++ future)) :
    Ordered past := by
  intro before step between split
  refine ordered before step (between ++ future) ?_
  rw [split, List.append_assoc, List.cons_append]

theorem boots_newest (run : PathRun config trace final) :
    Ordered trace → ∀ worker boot, final.boots[worker]? = some boot →
      ∀ step ∈ trace, ∀ accepted, step.Accepts worker accepted → compare boot accepted ≠ .lt := by
  refine run.byHistory (fun past state => Ordered past → ∀ worker boot,
    state.boots[worker]? = some boot → ∀ step ∈ past, ∀ accepted,
      PathStep.Accepts step worker accepted → compare boot accepted ≠ .lt) ?_ ?_
  · intro _ worker boot recorded
    simp [boots] at recorded
  · intro past before input output after reached newest moved ordered worker boot recorded step executed
      accepted greeted
    rcases recorded_cases (run_minded reached) moved recorded with ⟨latest, rising⟩ | ⟨kept, unaccepted⟩
    · rcases List.mem_append.mp executed with executed | executed
      · cases known : before.boots[worker]? with
        | none => exact ordered past _ [] rfl worker boot latest known step executed accepted greeted
        | some older =>
            have first := newest (ordered_before ordered) worker older known step executed accepted greeted
            have second := rising older known
            rw [ne_eq, ← Ordering.isGE_iff_ne_lt] at first second ⊢
            exact Std.TransCmp.isGE_trans second first
      · obtain rfl := List.mem_singleton.mp executed
        rw [(accepts_unique latest greeted).2]
        simp [Std.ReflCmp.compare_self]
    · rcases List.mem_append.mp executed with executed | executed
      · exact newest (ordered_before ordered) worker boot kept step executed accepted greeted
      · obtain rfl := List.mem_singleton.mp executed
        exact absurd greeted (unaccepted accepted)

theorem boots_reached (run : PathRun config trace final) :
    (∀ step ∈ trace, step.input ≠ .halt) → ∀ step ∈ trace, ∀ worker accepted,
      step.Accepts worker accepted →
      ∃ boot, final.boots[worker]? = some boot ∧ compare boot accepted ≠ .lt := by
  refine run.byHistory (fun past state => (∀ step ∈ past, step.input ≠ .halt) →
    ∀ step ∈ past, ∀ worker accepted, PathStep.Accepts step worker accepted →
      ∃ boot, state.boots[worker]? = some boot ∧ compare boot accepted ≠ .lt) ?_ ?_
  · intro _ step executed
    cases executed
  · intro past before input output after run reached moved alive step executed worker accepted greeted
    rw [List.forall_mem_append] at alive
    refine recorded_kept (run_minded run) moved (alive.2 _ (List.mem_singleton_self _)) ?_
    rcases List.mem_append.mp executed with executed | executed
    · exact .inr (reached alive.1 step executed worker accepted greeted)
    · obtain rfl := List.mem_singleton.mp executed
      exact .inl greeted

theorem ordered_of_alive (run : PathRun config trace final)
    (alive : ∀ step ∈ trace, step.input ≠ .halt) : Ordered trace := by
  intro past step future split worker boot _ unknown earlier executed older greeted
  subst split
  rw [List.forall_mem_append] at alive
  obtain ⟨newer, recorded, -⟩ :=
    boots_reached run.cut.1 alive.1 earlier executed worker older greeted
  rw [unknown] at recorded
  cases recorded

/-- Requests under the incarnation on record are fenced, as long as no restarted process accepts
an incarnation that an earlier process had superseded. In the life of one process only such
requests are. -/
theorem fenced_when_current (run : PathRun config trace final) :
    ((∀ step ∈ trace, step.Current) → Ordered trace → Fenced trace) ∧
      ((∀ step ∈ trace, step.input ≠ .halt) →
        (Fenced trace ↔ ∀ step ∈ trace, step.Current)) := by
  have sufficient : (∀ step ∈ trace, step.Current) → Ordered trace → Fenced trace := by
    intro current ordered
    constructor
    · intro past step future split worker boot executes
      subst split
      have recorded := current step (List.mem_append_right _ List.mem_cons_self) worker boot executes
      exact boots_newest run.cut.1 (ordered_before ordered) worker boot recorded
    · intro past step future split worker boot executes
      subst split
      have recorded := current step (List.mem_append_right _ List.mem_cons_self) worker boot executes
      exact boots_accepted run.cut.1 worker boot recorded
  refine ⟨sufficient, fun alive => ⟨?_, fun current => sufficient current
    (ordered_of_alive run alive)⟩⟩
  intro fenced step executed worker boot executes
  obtain ⟨past, future, rfl⟩ := List.append_of_mem executed
  obtain ⟨earlier, greeting, greeted⟩ := fenced.greeted past step future rfl worker boot executes
  rw [List.forall_mem_append] at alive
  obtain ⟨newest, recorded, above⟩ :=
    boots_reached run.cut.1 alive.1 earlier greeting worker boot greeted
  obtain ⟨latest, accepting, accepted⟩ := boots_accepted run.cut.1 worker newest recorded
  have below := fenced.newest past step future rfl worker boot executes latest accepting newest
    accepted
  rw [ne_eq, ← Ordering.isGE_iff_ne_lt] at above below
  rw [recorded, Std.LawfulEqCmp.eq_of_compare (Std.OrientedCmp.isGE_antisymm above below)]

section Samples

open ConnectionPool FrameServer

variable {boots : CoordinatorServer.WorkerBoots} {server : FrameServer} {boot : WorkerBootId}
  {connection : Connection} {files : List CoordinatorState} {pool after : ServingPool} {key : Nat}

def continuingFor (rest : List Delivery) (turn : Turn) : ServedThread (List Turn) :=
  match turn.connection with
  | none => .done [turn]
  | some next => (connectedFor next rest).bind fun turns => .done (turn :: turns)

theorem connectedFor_deliver {frame : Frame} (sendable : Sendable frame)
    (versioned : frame.version = kProtocolVersion) (rest : List Delivery) :
    connectedFor connection (deliver frame :: rest) =
      ((receiving connection (deliver frame)).named (some frame)).bind (continuingFor rest) := by
  have received := receiveFrame_frameBytes sendable versioned []
  rw [List.append_nil] at received
  have arrives : arriving (deliver frame) = some frame := by simp only [arriving, deliver, received]
  rw [connectedFor, arrives]
  rfl

def acceptance (server : FrameServer) (boot : WorkerBootId) (boots : CoordinatorServer.WorkerBoots) :
    Step FrameServer ServedCall CoordinatorReply :=
  ⟨server, (some (greetingFrame boot), .registerWorkerBoot ⟨0, 7⟩ boot), .boot (.ok ()),
    { server with workerBoots := boots }⟩

theorem greetingFor_leads (rest : List Delivery) (registered :
      CoordinatorServer.registerWorkerBoot server.workerBoots ⟨0, 7⟩ boot = .ok boots) :
    ∃ turn, (connectedFor {} (deliver (greetingFrame boot) :: rest)).Leads (nameless enter) server
      [acceptance server boot boots]
      ((connectedFor acquainted rest).bind fun turns => .done (turn :: turns))
      { server with workerBoots := boots } := by
  obtain ⟨turn, kept, leads⟩ := greeting_leads registered
  have whole := @Thread.Leads.bind _ _ _ _ _ _ _ (continuingFor rest) _ _ _ _
    (leads.named (some (greetingFrame boot)))
  rw [Thread.named, Thread.bind, continuingFor, kept] at whole
  rw [connectedFor_deliver (greeting_sendable boot) rfl]
  exact ⟨turn, whole⟩

theorem registeringFor_leads (boots : CoordinatorServer.WorkerBoots) (rest : List Delivery) :
    ∃ reply later after, (connectedFor acquainted (deliver registeringFrame :: rest)).Leads
      (nameless enter) (sampleServer boots)
      [⟨sampleServer boots, (some registeringFrame, .perform registeringOp), reply, after⟩]
      later after := by
  obtain ⟨⟨reply, engine⟩, performed⟩ := Option.isSome_iff_exists.mp
    (show (Engine.sampleEngine.step registeringOp).isSome = true by decide +kernel)
  have entered : nameless enter (sampleServer boots) (some registeringFrame, .perform registeringOp) =
      some (.performed reply, { sampleServer boots with engine }) := by
    simp only [nameless, enter, sampleServer, performed, Option.map_some]
  have admitted := (registering_leads boots).named (some registeringFrame)
  rw [connectedFor_deliver registering_sendable rfl]
  exact ⟨_, _, _, (admitted.trans (.act entered (.here _ _))).bind⟩

theorem serving_run {moves : List (Step ServingPool (Move ServedCall (List Delivery)) ServingEvent)}
    (run : Run ServingPool.step pool moves after)
    (advances : ∀ executed ∈ moves, executed.input = .advance key) :
    ∃ trace : List PathStep, Run (step config) ⟨files, some pool⟩ trace ⟨files, some after⟩ ∧
      (∀ executed ∈ trace, executed.input = .advance key) ∧
      trace.map (fun executed => executed.output) = moves.map fun executed => executed.output := by
  induction run with
  | nil pool => exact ⟨[], .nil _, by simp, rfl⟩
  | @cons before input output middle rest final moved _ ih =>
      rw [List.forall_mem_cons] at advances
      obtain ⟨trace, run, inputs, outputs⟩ := ih advances.2
      obtain rfl : input = .advance key := advances.1
      have went : step config ⟨files, some before⟩ (.advance key) =
          some (output, ⟨files, some middle⟩) := by
        simp only [step, serve, Option.bind_some, moved, Option.map_some]
        rfl
      exact ⟨_, .cons went run, List.forall_mem_cons.mpr ⟨rfl, inputs⟩, by simp [outputs]⟩

theorem serves_leads {label : List Delivery} {thread later : ServedThread (List Turn)}
    {taken : List (Step FrameServer ServedCall CoordinatorReply)} {reached : FrameServer}
    (leads : thread.Leads (nameless enter) pool.shared taken later reached)
    (held : pool.threads key = some (label, thread)) :
    ∃ trace : List PathStep, Run (step config) ⟨files, some pool⟩ trace
        ⟨files, some ({ pool with shared := reached }.assign key (some (label, later)))⟩ ∧
      (∀ executed ∈ trace, executed.input = .advance key) ∧
      trace.filterMap (fun executed => executed.output.acted) =
        taken.map fun one => (some label, one) := by
  obtain ⟨moves, run, advances, acted⟩ :=
    @Pool.advance_leads _ _ _ _ _ _ (connectedFor {}) _ _ _ _ _ _ _ leads held
  obtain ⟨trace, went, inputs, outputs⟩ := serving_run run advances
  refine ⟨trace, went, inputs, ?_⟩
  have same := congrArg (List.filterMap fun event => event.acted) outputs
  rw [List.filterMap_map, List.filterMap_map] at same
  exact same.trans acted

theorem step_accept (idle : pool.threads key = none) (deliveries : List Delivery) :
    step config ⟨files, some pool⟩ (.accept key deliveries) = some ({},
      ⟨files, some (pool.assign key (some (deliveries, connectedFor {} deliveries)))⟩) := by
  simp only [step, serve, Option.bind_some, ServingPool.step, Pool.step, idle, Option.map_some]
  rfl

theorem step_start : step {} {} (.start 1 2) =
    some ({}, ⟨[], some { shared := sampleServer ∅ }⟩) := rfl

theorem mem_acted {trace : List PathStep} {acted : List (Option (List Delivery) ×
      Step FrameServer ServedCall CoordinatorReply)} {one}
    (took : trace.filterMap (fun executed => executed.output.acted) = acted) (inside : one ∈ acted) :
    ∃ executed ∈ trace, executed.output.acted = some one := by
  rw [← took] at inside
  exact List.mem_filterMap.mp inside

theorem fenced_when_current_greeted : ∃ trace final, PathRun {} trace final ∧ Fenced trace ∧
    ∃ step ∈ trace, PathStep.Executes step ⟨0, 7⟩ ⟨0, 1⟩ := by
  let deliveries := [deliver (greetingFrame ⟨0, 1⟩), deliver registeringFrame]
  obtain ⟨turn, greets⟩ := @greetingFor_leads _ (sampleServer ∅) ⟨0, 1⟩ [deliver registeringFrame]
    (greeting_first ⟨0, 1⟩ (by decide))
  obtain ⟨reply, later, reached, registers⟩ :=
    registeringFor_leads (Std.ExtTreeMap.insert ∅ ⟨0, 7⟩ ⟨0, 1⟩) []
  obtain ⟨trace, serves, inputs, took⟩ := @serves_leads {} []
    (({ shared := sampleServer ∅ } : ServingPool).assign 1
      (some (deliveries, connectedFor {} deliveries))) 1 deliveries _ _ _ _
    (greets.trans registers.bind) (Pool.assign_held 1 _)
  have run : PathRun {} (_ :: _ :: trace) _ :=
    .cons step_start (.cons (step_accept rfl deliveries) serves)
  obtain ⟨last, executed, acted⟩ := mem_acted took (List.mem_cons_of_mem _ List.mem_cons_self)
  refine ⟨_, _, run, ((fenced_when_current run).2 ?_).mpr ?_, last,
    List.mem_cons_of_mem _ (List.mem_cons_of_mem _ executed),
    ⟨registeringFrame, _, _, _, _, _, acted, rfl, rfl, rfl⟩⟩
  · simp only [List.forall_mem_cons]
    refine ⟨by simp, by simp, fun step inside => ?_⟩
    rw [inputs step inside]
    simp
  · simp only [List.forall_mem_cons]
    refine ⟨?_, ?_, fun step inside worker boot executes => ?_⟩
    · rintro worker boot ⟨_, _, _, _, _, _, acted, _⟩
      cases acted
    · rintro worker boot ⟨_, _, _, _, _, _, acted, _⟩
      cases acted
    · obtain ⟨request, op, answer, who, before, after, calls, _, rfl, rfl⟩ := executes
      have listed : (who, (⟨before, (some request, .perform op), answer, after⟩ :
          Step FrameServer ServedCall CoordinatorReply)) ∈
          trace.filterMap fun executed => executed.output.acted :=
        List.mem_filterMap.mpr ⟨step, inside, calls⟩
      rw [took] at listed
      simp only [acceptance, List.cons_append, List.nil_append, List.map_cons, List.map_nil,
        List.mem_cons, List.not_mem_nil, or_false] at listed
      rcases listed with same | same
      · cases same
      · cases same
        rcases step_cases (serves.moved inside) with ⟨silent, _⟩ | ⟨_, _, same, _, recorded, _⟩
        · rw [silent] at calls
          cases calls
        · rw [calls] at same
          cases same
          rw [recorded]
          exact Std.ExtTreeMap.getElem?_insert_self

/-- The connection of a superseded incarnation goes on registering artifacts. -/
theorem superseded_worker_executes : ∃ trace final, PathRun {} trace final ∧ ¬Fenced trace := by
  let older := [deliver (greetingFrame ⟨0, 1⟩), deliver registeringFrame]
  let newer := [deliver (greetingFrame ⟨0, 2⟩)]
  have second : CoordinatorServer.registerWorkerBoot (Std.ExtTreeMap.insert ∅ ⟨0, 7⟩ ⟨0, 1⟩)
      ⟨0, 7⟩ ⟨0, 2⟩ = .ok _ :=
    CoordinatorServer.registerWorkerBoot_eq_ok.mpr ⟨by decide, by decide, by
      intro existing recorded
      rw [Std.ExtTreeMap.getElem?_insert_self] at recorded
      cases recorded
      decide, rfl⟩
  obtain ⟨turn, greets⟩ := @greetingFor_leads _ (sampleServer ∅) ⟨0, 1⟩ [deliver registeringFrame]
    (greeting_first ⟨0, 1⟩ (by decide))
  obtain ⟨first, serves, _, _⟩ := @serves_leads {} []
    (({ shared := sampleServer ∅ } : ServingPool).assign 1 (some (older, connectedFor {} older))) 1
    older _ _ _ _ greets (Pool.assign_held 1 _)
  obtain ⟨other, renews⟩ := @greetingFor_leads _ (sampleServer (Std.ExtTreeMap.insert ∅ ⟨0, 7⟩ ⟨0, 1⟩))
    ⟨0, 2⟩ [] second
  let greeted : ServingPool := ({ shared := sampleServer (Std.ExtTreeMap.insert ∅ ⟨0, 7⟩ ⟨0, 1⟩) } :
    ServingPool).assign 1 (some (older, (connectedFor acquainted [deliver registeringFrame]).bind
      fun turns => .done (turn :: turns)))
  rw [Pool.assign_again] at serves
  obtain ⟨between, renewing, _, renewed⟩ := @serves_leads {} []
    (greeted.assign 2 (some (newer, connectedFor {} newer))) 2 newer _ _ _ _ renews
    (Pool.assign_held 2 _)
  obtain ⟨reply, later, reached, registers⟩ := registeringFor_leads
    ((Std.ExtTreeMap.insert ∅ ⟨0, 7⟩ ⟨0, 1⟩).insert ⟨0, 7⟩ ⟨0, 2⟩) []
  rw [Pool.assign_again] at renewing
  let waiting := ({ greeted with
    shared := sampleServer ((Std.ExtTreeMap.insert ∅ ⟨0, 7⟩ ⟨0, 1⟩).insert ⟨0, 7⟩ ⟨0, 2⟩) } :
      ServingPool).assign 2 (some (newer, (connectedFor acquainted []).bind
        fun turns => .done (other :: turns)))
  have waits : waiting.threads 1 = some (older, (connectedFor acquainted [deliver registeringFrame]).bind
      fun turns => .done (turn :: turns)) :=
    (Pool.assign_other (by decide) _).trans (@Pool.assign_held _ _ _ _ _
      { shared := sampleServer (Std.ExtTreeMap.insert ∅ ⟨0, 7⟩ ⟨0, 1⟩) } 1 _)
  obtain ⟨last, registering, _, registered⟩ :=
    @serves_leads {} [] waiting 1 older _ _ _ _ registers.bind waits
  have run : PathRun {} _ _ := ((Run.cons step_start (.cons (step_accept rfl older) serves)).append
    (.cons (step_accept rfl newer) renewing)).append registering
  -- The greeting of the second incarnation comes before the call for the first one.
  obtain ⟨accepting, accepted, accepts⟩ := mem_acted renewed List.mem_cons_self
  obtain ⟨calling, called, calls⟩ := mem_acted registered List.mem_cons_self
  obtain ⟨past, future, rfl⟩ := List.append_of_mem called
  refine ⟨_, _, run, fun fenced => ?_⟩
  exact fenced.newest (_ ++ past) calling future (List.append_assoc _ _ _).symm ⟨0, 7⟩ ⟨0, 1⟩
    ⟨registeringFrame, _, _, _, _, _, calls, rfl, rfl, rfl⟩ accepting
    (List.mem_append_left _ (List.mem_append_right _ (List.mem_cons_of_mem _ accepted))) ⟨0, 2⟩
    ⟨_, _, _, _, accepts, rfl, rfl, rfl⟩ (by decide)

end Samples

end ServedPath

end ArtifactPromotion
