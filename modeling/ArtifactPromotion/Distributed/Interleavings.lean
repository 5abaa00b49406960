import ArtifactPromotion.Distributed.Frames
import ArtifactPromotion.Distributed.ServingThreads
import ArtifactPromotion.Engine.Administration

/-! What holds of the coordinator in every order in which the sections of its connections can come:
what no connection can change, and how the answers come about. -/

namespace ArtifactPromotion

open CriticalSections Protocol Runs

def CoordinatorCall.FromFrame : CoordinatorCall → Prop
  | .perform op => op.administers = false
  | .registerWorkerBoot _ _ => True

namespace FrameServer

abbrev Serves {Result : Type} (thread : ConnectionThread Result) : Prop :=
  thread.Within (fun _ => True) CoordinatorCall.FromFrame

theorem call_serves {op : Op} {answer : CoordinatorReply → Result Answer}
    (plain : op.administers = false) : Serves (call op answer) :=
  ⟨plain, fun _ => trivial⟩

theorem authorized_serves {α : Type} {authority : CoordinatorAuthority} {request : Frame}
    {decode : ByteBuffer → Result α} {arm : α → ConnectionThread (Result Answer)}
    (serves : ∀ payload, Serves (arm payload)) :
    Serves (authorized authority request decode arm) := by
  intro server _
  dsimp only
  split
  · trivial
  split
  · trivial
  · exact serves _

theorem promoting_serves (promotion : PromotionRequest) (circumstances : Circumstances) :
    Serves (promoting promotion circumstances) := by
  refine ⟨rfl, fun reply => ?_⟩
  dsimp only
  split
  · trivial
  split
  · trivial
  · exact ⟨rfl, fun _ => trivial⟩

theorem deciding_serves (authority : CoordinatorAuthority) (circumstances : Circumstances)
    (request : Frame) (payload : PromotionPayload) :
    Serves (deciding authority circumstances request payload) := by
  unfold deciding
  split
  · trivial
  dsimp only
  split
  · exact call_serves rfl
  · exact (promoting_serves _ _).bind fun _ _ _ => trivial

theorem dispatching_serves (authority : CoordinatorAuthority) (circumstances : Circumstances)
    (request : Frame) : Serves (dispatching authority circumstances request) := by
  unfold dispatching
  split
  case h_1 =>
    refine ⟨trivial, fun reply => ?_⟩
    dsimp only
    split
    · trivial
    · exact fun _ _ => trivial
  all_goals first
    | exact authorized_serves fun _ => call_serves rfl
    | exact authorized_serves (deciding_serves _ _ _)
    | exact fun _ _ => trivial
    | trivial

theorem serving_serves (connection : Connection) (circumstances : Circumstances)
    (request : Frame) : Serves (serving connection circumstances request) := by
  unfold serving
  split
  · trivial
  split
  · exact fun _ _ => trivial
  split
  · exact fun _ _ => trivial
  · refine Thread.Within.bind ?_ fun _ _ _ => trivial
    exact fun server _ => dispatching_serves _ _ _

theorem receiving_serves (connection : Connection) (delivery : Delivery) :
    Serves (receiving connection delivery) := by
  unfold receiving
  split
  · exact serving_serves _ _ _
  · exact fun _ _ => trivial
  · trivial

theorem connected_serves (connection : Connection) (deliveries : List Delivery) :
    Serves (connected connection deliveries) := by
  induction deliveries generalizing connection with
  | nil => trivial
  | cons delivery rest ih =>
      refine (receiving_serves connection delivery).bind fun turn => ?_
      split
      · trivial
      split
      · exact (ih _).bind fun _ => trivial
      · trivial

def Renewed (before after : FrameServer) : Prop :=
  ∀ (worker : WorkerId) (existing : WorkerBootId), before.workerBoots[worker]? = some existing →
    ∃ boot : WorkerBootId, after.workerBoots[worker]? = some boot ∧ compare boot existing ≠ .lt

theorem Renewed.refl (server : FrameServer) : Renewed server server :=
  fun _ existing held => ⟨existing, held, by simp [Std.ReflCmp.compare_self]⟩

theorem enter_renewed {server next : FrameServer} {call : CoordinatorCall}
    {reply : CoordinatorReply} (moved : server.enter call = some (reply, next)) :
    Renewed server next := by
  cases call with
  | perform op =>
      obtain ⟨⟨answer, engine⟩, performed, made⟩ := Option.map_eq_some_iff.mp moved
      cases made
      exact Renewed.refl server
  | registerWorkerBoot worker boot =>
      simp only [enter] at moved
      split at moved
      · cases moved
        exact .refl _
      · rename_i boots registered
        cases moved
        obtain ⟨_, _, rising, rfl⟩ := CoordinatorServer.registerWorkerBoot_eq_ok.mp registered
        intro other existing held
        by_cases same : other = worker
        · subst same
          exact ⟨boot, Std.ExtTreeMap.getElem?_insert_self, rising existing held⟩
        · exact ⟨existing, by rwa [OrderedMaps.getElem?_insert_ne _ _ same],
            by simp [Std.ReflCmp.compare_self]⟩

theorem enter_sameRules {server next : FrameServer} {call : CoordinatorCall}
    {reply : CoordinatorReply} (moved : server.enter call = some (reply, next))
    (serves : call.FromFrame) : Engine.SameRules server.engine next.engine := by
  cases call with
  | perform op =>
      obtain ⟨⟨answer, engine⟩, performed, made⟩ := Option.map_eq_some_iff.mp moved
      cases made
      exact Engine.step_sameRules performed serves
  | registerWorkerBoot worker boot =>
      simp only [enter] at moved
      split at moved
      · cases moved
        exact .refl _
      · cases moved
        exact .refl _

theorem enter_reachable {server next : FrameServer} {call : CoordinatorCall}
    {reply : CoordinatorReply} (reachable : Reachable server.engine)
    (moved : server.enter call = some (reply, next)) : Reachable next.engine := by
  cases call with
  | perform op =>
      obtain ⟨⟨answer, engine⟩, performed, made⟩ := Option.map_eq_some_iff.mp moved
      cases made
      obtain ⟨start, past, constructed, run⟩ := reachable
      exact ⟨start, past ++ [_], constructed, run.append (.cons performed (.nil engine))⟩
  | registerWorkerBoot worker boot =>
      simp only [enter] at moved
      split at moved
      · cases moved
        exact reachable
      · cases moved
        exact reachable

end FrameServer

abbrev ConnectionPool :=
  Pool FrameServer CoordinatorCall CoordinatorReply (List FrameServer.Turn) (List Delivery)

abbrev ConnectionMove :=
  Pool.Executed FrameServer CoordinatorCall CoordinatorReply (List FrameServer.Turn) (List Delivery)

namespace ConnectionPool

def step : Machine ConnectionPool (Move CoordinatorCall (List Delivery))
    (Event FrameServer CoordinatorCall CoordinatorReply (List FrameServer.Turn) (List Delivery)) :=
  Pool.step FrameServer.enter (FrameServer.connected {})

variable {start final : ConnectionPool} {trace : List ConnectionMove}

theorem sections_from_frames (run : Run step start trace final)
    (idle : ∀ key, start.threads key = none) {executed : ConnectionMove} (inside : executed ∈ trace)
    {label : List Delivery} {taken : CoordinatorSection}
    (acted : executed.output.acted = some (some label, taken)) : taken.input.FromFrame := by
  have sound : Pool.Sound (fun _ : FrameServer => True) (fun _ => CoordinatorCall.FromFrame) start :=
    ⟨trivial, fun key label thread held => by simp [idle key] at held⟩
  have guarded (other : ConnectionMove) : Pool.Guarded FrameServer.enter (FrameServer.connected {})
      (fun _ => True) (fun _ => CoordinatorCall.FromFrame) other :=
    ⟨fun _ label _ => FrameServer.connected_serves {} label, fun _ _ _ _ _ => trivial⟩
  exact (Pool.run_sound (fun _ _ _ _ _ _ _ _ => trivial) run sound fun other _ =>
    guarded other).2 executed inside label taken acted

theorem moved_reachable {before after : ConnectionPool}
    {move : Move CoordinatorCall (List Delivery)}
    {event : Event FrameServer CoordinatorCall CoordinatorReply (List FrameServer.Turn)
      (List Delivery)}
    (reachable : Reachable before.shared.engine) (moved : step before move = some (event, after)) :
    Reachable after.shared.engine := by
  rcases Pool.step_shared moved with ⟨_, kept⟩ | ⟨who, call, reply, _, entered, _⟩
  · rwa [kept]
  · exact FrameServer.enter_reachable reachable entered

/-- In every interleaving the engine is in a state that its calls can reach, no incarnation is ever
replaced by an older one, and only an administrative call of the process's owner changes the rules. -/
theorem connections_tended (run : Run step start trace final)
    (idle : ∀ key, start.threads key = none) (reachable : Reachable start.shared.engine) :
    Reachable final.shared.engine ∧ ∀ executed ∈ trace,
      executed.before.shared.Renewed executed.after.shared ∧
      ((∀ op, executed.input = .outside (.perform op) → op.administers = false) →
        Engine.SameRules executed.before.shared.engine executed.after.shared.engine) := by
  constructor
  · exact run.invariant (fun pool => Reachable pool.shared.engine)
      (fun _ _ _ _ => moved_reachable) reachable
  · intro executed inside
    rcases Pool.step_shared (run.moved inside) with
      ⟨_, kept⟩ | ⟨who, call, reply, acted, entered, outside⟩
    · rw [kept]
      exact ⟨.refl _, fun _ => .refl _⟩
    · refine ⟨FrameServer.enter_renewed entered, fun plain =>
        FrameServer.enter_sameRules entered ?_⟩
      cases who with
      | some label => exact sections_from_frames run idle inside acted
      | none =>
          cases call with
          | perform op => exact plain op (outside rfl)
          | registerWorkerBoot worker boot => trivial

section Samples

open FrameServer

variable {boots : CoordinatorServer.WorkerBoots} {boot : WorkerBootId} {server : FrameServer}

def sampleServer (boots : CoordinatorServer.WorkerBoots) : FrameServer :=
  { engine := Engine.sampleEngine, workerBoots := boots }

def greetingFrame (boot : WorkerBootId) : Frame :=
  { type := .helloRequest, request := ⟨0, 1⟩, worker := ⟨0, 7⟩, boot }

def deliver (frame : Frame) : Delivery :=
  { circumstances := ⟨5, 6, .ok ()⟩, stream := frameBytes frame }

def acquainted : Connection := { seenRequests := [⟨0, 1⟩], handshakeCompleted := true }

theorem greeting_sendable (boot : WorkerBootId) : Sendable (greetingFrame boot) :=
  ⟨by simp [greetingFrame], UInt32.zero_and, Nat.zero_le _, rfl⟩

theorem receiving_deliver {connection : Connection} {frame : Frame} (sendable : Sendable frame)
    (versioned : frame.version = kProtocolVersion) : receiving connection (deliver frame) =
      serving connection (deliver frame).circumstances frame := by
  have received := receiveFrame_frameBytes sendable versioned []
  rw [List.append_nil] at received
  simp only [receiving, deliver, received]

def greeted (boot : WorkerBootId) (authority : CoordinatorAuthority) : ConnectionThread Turn :=
  (welcoming authority (greetingFrame boot)).bind fun answer => .look fun server =>
    .done (answeredTurn server.engine.state.authority {} (greetingFrame boot) answer)

theorem receiving_greeting (boot : WorkerBootId) : receiving {} (deliver (greetingFrame boot)) =
    .look fun server => greeted boot server.engine.state.authority := by
  rw [receiving_deliver (greeting_sendable boot) rfl]
  rfl

theorem greeting_length (authority : CoordinatorAuthority) (state : CoordinatorState) :
    (FrameServer.greeting authority state).payload.length = 82 := by
  unfold FrameServer.greeting encodeHello
  simp only [List.length_append, Writer.u16_length, Writer.identity_length, Writer.counter_length,
    Writer.u64_length, Writer.digest_length]

theorem greeted_leads (authority : CoordinatorAuthority) (registered :
      CoordinatorServer.registerWorkerBoot server.workerBoots ⟨0, 7⟩ boot = .ok boots) :
    ∃ turn, turn.connection = some acquainted ∧
      (greeted boot authority).Leads enter server
        [⟨server, .registerWorkerBoot ⟨0, 7⟩ boot, .boot (.ok ()),
          { server with workerBoots := boots }⟩] (.done turn) { server with workerBoots := boots } := by
  have entered : server.enter (.registerWorkerBoot ⟨0, 7⟩ boot) =
      some (.boot (.ok ()), { server with workerBoots := boots }) := by
    simp only [enter, registered]
  refine ⟨_, ?_, .act entered (.look (.look (.here _ _)))⟩
  have sendable : Sendable (handledResponse server.engine.state.authority (greetingFrame boot)
      (.ok (FrameServer.greeting authority server.engine.snapshot))) := by
    refine ⟨?_, UInt32.zero_and, ?_, rfl⟩
    · change MessageType.helloResponse ≠ .invalid
      decide
    change (FrameServer.greeting authority server.engine.snapshot).payload.length ≤ kMaxFrameBytes
    rw [greeting_length]
    decide
  have encoded := (encodeFrame_eq_ok _ _).mpr ⟨sendable, rfl⟩
  simp only [answeredTurn, conclude, encoded]
  rfl

theorem greeting_leads (registered :
      CoordinatorServer.registerWorkerBoot server.workerBoots ⟨0, 7⟩ boot = .ok boots) :
    ∃ turn, turn.connection = some acquainted ∧
      (receiving {} (deliver (greetingFrame boot))).Leads enter server
        [⟨server, .registerWorkerBoot ⟨0, 7⟩ boot, .boot (.ok ()),
          { server with workerBoots := boots }⟩] (.done turn) { server with workerBoots := boots } := by
  obtain ⟨turn, kept, leads⟩ := greeted_leads server.engine.state.authority registered
  rw [receiving_greeting]
  exact ⟨turn, kept, .look leads⟩

def continuing (rest : List Delivery) (turn : Turn) : ConnectionThread (List Turn) :=
  match turn.connection with
  | none => .done [turn]
  | some next => (connected next rest).bind fun turns => .done (turn :: turns)

theorem connected_deliver {connection : Connection} (frame : Frame) (rest : List Delivery) :
    connected connection (deliver frame :: rest) =
      (receiving connection (deliver frame)).bind (continuing rest) := rfl

theorem connected_greeting (boot : WorkerBootId) (rest : List Delivery) :
    connected {} (deliver (greetingFrame boot) :: rest) = .look fun server =>
      (greeted boot server.engine.state.authority).bind (continuing rest) := by
  rw [connected_deliver, receiving_greeting]
  rfl

theorem greeting_first (boot : WorkerBootId) (valid : boot.valid = true) :
    CoordinatorServer.registerWorkerBoot ∅ ⟨0, 7⟩ boot =
      .ok (Std.ExtTreeMap.insert ∅ ⟨0, 7⟩ boot) :=
  CoordinatorServer.registerWorkerBoot_eq_ok.mpr ⟨by decide, valid, by simp, rfl⟩

def registeringPayload : RegisterArtifactPayload :=
  { artifact := ⟨0, 5⟩, kind := .executable, digest := (Engine.sampleRegistration 1).digest,
    name := text "service" }

def registeringFrame : Frame :=
  { type := .registerArtifactRequest, request := ⟨0, 2⟩,
    coordinator := Engine.sampleEngine.state.coordinator, epoch := ⟨1⟩, worker := ⟨0, 7⟩,
    boot := ⟨0, 1⟩, payload := writeRegisterArtifact registeringPayload }

theorem registering_sendable : Sendable registeringFrame :=
  ⟨by decide, by decide, by decide, by decide⟩

def registeringOp : Op := .registerArtifact (receivedRegistration registeringFrame registeringPayload) 5

def registering : ConnectionThread Turn :=
  (call registeringOp registeredAnswer).bind fun answer => .look fun server =>
    .done (answeredTurn server.engine.state.authority acquainted registeringFrame answer)

theorem registering_leads (boots : CoordinatorServer.WorkerBoots) :
    (receiving acquainted (deliver registeringFrame)).Leads enter (sampleServer boots) [] registering
      (sampleServer boots) := by
  have admitted : checkAuthority Engine.sampleEngine.admissionOpen
      Engine.sampleEngine.state.authority registeringFrame = .ok () := by decide
  have decoded : decodeRegisterArtifact registeringFrame.payload = .ok registeringPayload :=
    decode_encodeRegisterArtifact
      ⟨by decide, by decide, Nat.zero_le _, Nat.zero_le _, fun _ inside => by cases inside⟩
  rw [receiving_deliver registering_sendable rfl]
  refine .look (.look ?_)
  dsimp only [sampleServer]
  rw [admitted, decoded]
  exact .here _ _

theorem connections_tended_closing : ∃ (trace : List ConnectionMove) (final : ConnectionPool),
    Run step { shared := sampleServer ∅ } trace final ∧ Reachable final.shared.engine ∧
      final.shared.engine.admissionOpen = false ∧
      final.shared.workerBoots[(⟨0, 7⟩ : WorkerId)]? = some ⟨0, 1⟩ ∧
      ∀ executed ∈ trace, executed.before.shared.Renewed executed.after.shared ∧
        (executed.input = .advance 0 →
          Engine.SameRules executed.before.shared.engine executed.after.shared.engine) := by
  let start : ConnectionPool := { shared := sampleServer ∅ }
  let deliveries := [deliver (greetingFrame ⟨0, 1⟩)]
  let opened := start.assign 0 (some (deliveries, connected {} deliveries))
  have accepts : step start (.start 0 deliveries) = some ({}, opened) := rfl
  have held : opened.threads 0 = some (deliveries, .look fun server =>
      (greeted ⟨0, 1⟩ server.engine.state.authority).bind (continuing [])) := by
    rw [← connected_greeting]
    exact Pool.assign_held 0 _
  have reads := @Pool.advance_look _ _ _ _ _ enter (connected {}) _ _ _ _ held
  let closed : FrameServer := { sampleServer ∅ with engine := Engine.sampleEngine.closeAdmission }
  let reading := opened.assign 0 (some (deliveries,
    (greeted ⟨0, 1⟩ opened.shared.engine.state.authority).bind (continuing [])))
  have closes : step reading (.outside (.perform .closeAdmission)) =
      some (_, { reading with shared := closed }) := rfl
  obtain ⟨turn, _, leads⟩ := @greeted_leads _ _ closed opened.shared.engine.state.authority
    (greeting_first ⟨0, 1⟩ (by decide))
  obtain ⟨rest, goes, _, _⟩ := @Pool.advance_leads _ _ _ _ _ enter (connected {})
    { reading with shared := closed } _ _ _ _ 0 deliveries leads.bind
    (@Pool.assign_held _ _ _ _ _ opened 0 _)
  have run := Run.cons accepts (.cons reads (.cons closes goes))
  have kept := connections_tended run (fun _ => rfl)
    ⟨_, [], Engine.sampleEngine_constructed, .nil _⟩
  refine ⟨_, _, run, kept.1, rfl, Std.ExtTreeMap.getElem?_insert_self, ?_⟩
  intro executed inside
  obtain ⟨renewed, plain⟩ := kept.2 executed inside
  refine ⟨renewed, fun advances => plain fun op administers => ?_⟩
  rw [advances] at administers
  cases administers

end Samples

end ConnectionPool

end ArtifactPromotion
