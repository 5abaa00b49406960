import ArtifactPromotion.Distributed.Incarnations
import ArtifactPromotion.Distributed.Interleavings

/-! The shutdown of a coordinator: once admission is closed nothing that arrives changes the engine,
so the last write of `stop` saves what stood when it was closed, and the next start finds it. -/

namespace ArtifactPromotion

open CriticalSections Protocol Runs

def Reply.refuses : Reply → Bool
  | .registered (.error _) | .submitted (.error _) | .evaluated (.error _) | .committed (.error _)
  | .mutated (.error _) => true
  | _ => false

namespace Engine

variable {engine next : Engine}

def Refuses {α : Type} (engine : Engine) (outcome : Result α × Engine) : Prop :=
  ∃ status, outcome = (.error status, engine)

theorem Refuses.answered {α : Type} {outcome : Result α × Engine} {wrap : Result α → Reply}
    {reply : Reply} (refuses : engine.Refuses outcome)
    (answered : answerWith wrap outcome = some (reply, next))
    (wraps : ∀ status, (wrap (.error status)).refuses = true) :
    next = engine ∧ reply.refuses = true := by
  obtain ⟨status, rfl⟩ := refuses
  cases answered
  exact ⟨rfl, wraps status⟩

theorem closed_refuses {α : Type} (closed : engine.admissionOpen = false)
    (otherwise : Result α × Engine) :
    engine.Refuses (if !engine.admissionOpen then engine.shuttingDown else otherwise) := by
  rw [closed]
  exact ⟨_, rfl⟩

theorem step_closed {op : Op} {reply : Reply} (closed : engine.admissionOpen = false)
    (plain : op.administers = false) (moved : engine.step op = some (reply, next)) :
    next = engine ∧ reply.refuses = true := by
  have performed := (step_eq_some moved).1
  cases op with
  | publishPolicy | restart | recoverInFlight | setSecurityVeto | setDependencyVeto
  | setCompatibilityGeneration | closeAdmission | openAdmission | reload => cases plain
  | registerArtifact registration now =>
      refine Refuses.answered ?_ performed fun _ => rfl
      unfold registerArtifact
      split
      · exact ⟨_, rfl⟩
      · exact closed_refuses closed _
  | submitEvidence submission =>
      refine Refuses.answered ?_ performed fun _ => rfl
      unfold submitEvidence
      split
      · exact ⟨_, rfl⟩
      · exact closed_refuses closed _
  | quarantine id reasonClass detail authority =>
      refine Refuses.answered ?_ performed fun _ => rfl
      unfold quarantine
      split
      · exact ⟨_, rfl⟩
      split
      · exact ⟨_, rfl⟩
      · exact closed_refuses closed _
  | revoke id decision reasonClass detail authority cause now =>
      refine Refuses.answered ?_ performed fun _ => rfl
      unfold revoke
      split
      · exact ⟨_, rfl⟩
      · exact closed_refuses closed _
  | evaluate request now => exact (closed_refuses closed _).answered performed fun _ => rfl
  | commit plan now => exact (closed_refuses closed _).answered performed fun _ => rfl
  | releaseQuarantine id authority now later =>
      exact (closed_refuses closed _).answered performed fun _ => rfl
  | supersede id successor reason authority now =>
      exact (closed_refuses closed _).answered performed fun _ => rfl
  | retire id authority now => exact (closed_refuses closed _).answered performed fun _ => rfl
  | revokeEvidence id reason authority =>
      exact (closed_refuses closed _).answered performed fun _ => rfl

end Engine

theorem FrameServer.enter_closed {server next : FrameServer} {call : CoordinatorCall}
    {reply : CoordinatorReply} (closed : server.engine.admissionOpen = false)
    (serves : call.FromFrame) (moved : server.enter call = some (reply, next)) :
    next.engine = server.engine ∧ ∀ op, call = .perform op →
      ∃ answer, reply = .performed answer ∧ answer.refuses = true := by
  cases call with
  | perform op =>
      obtain ⟨⟨answer, engine⟩, performed, made⟩ := Option.map_eq_some_iff.mp moved
      cases made
      obtain ⟨same, refuses⟩ := Engine.step_closed closed serves performed
      exact ⟨same, fun _ _ => ⟨answer, rfl, refuses⟩⟩
  | registerWorkerBoot worker boot =>
      simp only [enter] at moved
      split at moved
      all_goals
        cases moved
        refine ⟨rfl, fun _ other => ?_⟩
        cases other

namespace ConnectionPool

def Quiet (engine : Engine) (executed : ConnectionMove) : Prop :=
  executed.after.shared.engine = engine ∧ ∀ (who : Option (List Delivery))
    (taken : CoordinatorSection) (op : Op), executed.output.acted = some (who, taken) →
      taken.input = .perform op →
        ∃ reply, taken.output = .performed reply ∧ reply.refuses = true

/-- Once admission is closed, and until the owner of the process administers the engine again, no
connection changes it, however far its thread had come: every call of the engine is refused. -/
theorem closed_connections_quiesce {start middle final : ConnectionPool}
    {past future : List ConnectionMove} (before : Run step start past middle)
    (idle : ∀ key, start.threads key = none) (closed : middle.shared.engine.admissionOpen = false)
    (after : Run step middle future final)
    (plain : ∀ executed ∈ future, ∀ op, executed.input = .outside (.perform op) →
      op.administers = false) :
    final.shared.engine = middle.shared.engine ∧
      ∀ executed ∈ future, Quiet middle.shared.engine executed := by
  have whole := before.append after
  have quiet (executed : ConnectionMove) (inside : executed ∈ future)
      (same : executed.before.shared.engine = middle.shared.engine) :
      Quiet middle.shared.engine executed := by
    rcases Pool.step_shared (after.moved inside) with
      ⟨none, kept⟩ | ⟨who, call, reply, acted, entered, outside⟩
    · refine ⟨by rw [kept, same], fun who taken op acted => ?_⟩
      rw [none] at acted
      cases acted
    · -- Whoever took the section, it is one that does not administer.
      have serves : call.FromFrame := by
        cases who with
        | some label =>
            exact sections_from_frames whole idle (List.mem_append_right _ inside) acted
        | none =>
            cases call with
            | perform op => exact plain executed inside op (outside rfl)
            | registerWorkerBoot worker boot => trivial
      obtain ⟨kept, refused⟩ := FrameServer.enter_closed (by rw [same, closed]) serves entered
      refine ⟨kept.trans same, fun other taken op found called => ?_⟩
      obtain ⟨_, rfl⟩ := Prod.mk.inj (Option.some.inj (acted.symm.trans found))
      exact refused op called
  have around := after.throughout (fun pool => pool.shared.engine = middle.shared.engine)
    (fun executed => executed ∈ future)
    (fun executed same inside _ => (quiet executed inside same).1) rfl fun _ inside => inside
  constructor
  · exact after.guarded (fun pool => pool.shared.engine = middle.shared.engine)
      (fun executed => executed ∈ future)
      (fun executed same inside _ => (quiet executed inside same).1) rfl fun _ inside => inside
  · exact fun executed inside => quiet executed inside (around executed inside).1

theorem closed_connections_quiesce_refused :
    ∃ (past future : List ConnectionMove) (middle final : ConnectionPool) (label : List Delivery)
      (taken : CoordinatorSection), Run step { shared := sampleServer ∅ } past middle ∧
        middle.shared.engine.admissionOpen = false ∧ Run step middle future final ∧
        future.filterMap (fun executed => executed.output.acted) = [(some label, taken)] ∧
        taken.input = .perform registeringOp ∧
        final.shared.engine = middle.shared.engine ∧
        ∀ executed ∈ future, Quiet middle.shared.engine executed := by
  let boots : CoordinatorServer.WorkerBoots := Std.ExtTreeMap.insert ∅ ⟨0, 7⟩ ⟨0, 1⟩
  let deliveries := [deliver (greetingFrame ⟨0, 1⟩), deliver registeringFrame]
  let start : ConnectionPool := { shared := sampleServer ∅ }
  let opened := start.assign 0 (some (deliveries, FrameServer.connected {} deliveries))
  have opens : step start (.start 0 deliveries) = some ({}, opened) := rfl
  obtain ⟨turn, kept, greets⟩ :=
    @greeting_leads _ ⟨0, 1⟩ (sampleServer ∅) (greeting_first ⟨0, 1⟩ (by decide))
  have continues : continuing [deliver registeringFrame] turn =
      ((FrameServer.receiving acquainted (deliver registeringFrame)).bind (continuing [])).bind
        fun turns => .done (turn :: turns) := by
    simp only [continuing, kept]
    rfl
  have greets := @Thread.Leads.bind _ _ _ _ _ _ _ (continuing [deliver registeringFrame])
    _ _ _ _ greets
  rw [Thread.bind, continues] at greets
  have leads := greets.trans (registering_leads boots).bind.bind
  obtain ⟨past, goes, _, _⟩ := @Pool.advance_leads _ _ _ _ _ FrameServer.enter
    (FrameServer.connected {}) opened _ _ _ _ 0 deliveries leads (Pool.assign_held 0 _)
  let waiting := { opened with shared := sampleServer boots }.assign 0 (some (deliveries,
    (registering.bind (continuing [])).bind fun turns => .done (turn :: turns)))
  let closed : FrameServer := { sampleServer boots with engine := Engine.sampleEngine.closeAdmission }
  have closes : step waiting (.outside (.perform .closeAdmission)) =
      some (_, { waiting with shared := closed }) := rfl
  have before := (Run.cons opens goes).append (.cons closes (.nil _))
  obtain ⟨reply, refused⟩ : ∃ reply, closed.enter (.perform registeringOp) = some (reply, closed) :=
    ⟨_, rfl⟩
  have registers := @Pool.advance_act _ _ _ _ _ FrameServer.enter (FrameServer.connected {})
    { waiting with shared := closed } 0 deliveries (.perform registeringOp) _ _ _
    (@Pool.assign_held _ _ _ _ _ opened 0 _) refused
  have after := Run.cons registers (.nil _)
  have quiet := closed_connections_quiesce before (fun _ => rfl) rfl after (by
    simp only [List.forall_mem_singleton]
    exact fun op same => by cases same)
  exact ⟨_, _, _, _, deliveries, _, before, rfl, after, rfl, rfl, quiet⟩

end ConnectionPool

/-- The moves left to the threads between the closing of admission and the last write. -/
inductive Drains : ServerStep → Prop
  | called {before thread op event after} (plain : op.administers = false) :
      Drains ⟨before, .call thread op, event, after⟩
  | proceeded {before thread saved event after} :
      Drains ⟨before, .proceed thread saved, event, after⟩

namespace CoordinatorServer

variable {config : EngineConfig} {server next : CoordinatorServer}

def Frozen (state : CoordinatorState) (server : CoordinatorServer) : Prop :=
  ∃ process, server.process = some process ∧ process.engine.admissionOpen = false ∧
    process.engine.state = state

theorem frozen_step {state : CoordinatorState} {move : ServerMove} {event : ServerEvent}
    (frozen : Frozen state server) (drains : Drains ⟨server, move, event, next⟩)
    (moved : server.step config move = some (event, next)) : Frozen state next := by
  obtain ⟨process, up, closed, same⟩ := frozen
  have effect := step_effect moved
  cases drains with
  | called plain =>
      cases effect with
      | called running idle online performed =>
          obtain rfl := Option.some.inj (running.symm.trans up)
          obtain ⟨rfl, _⟩ := Engine.step_closed closed plain performed
          exact ⟨_, rfl, closed, same⟩
  | proceeded =>
      cases effect with
      | settled running _ | clean running _ _ | notified running _ | captured running _ _
      | wrote running _ | marked running _ | returned running _ =>
          obtain rfl := Option.some.inj (running.symm.trans up)
          exact ⟨_, rfl, closed, same⟩

theorem snapshot_eq {left right : Engine} (same : left.state = right.state) :
    left.snapshot = right.snapshot := by
  unfold Engine.snapshot
  rw [same]

theorem stopped_started {process : CoordinatorProcess} {middle final : CoordinatorServer}
    {event : ServerEvent} {salting naming : UInt64} (up : server.process = some process)
    (sound : process.engine.Sound)
    (stopped : server.step config (.stop true) = some (event, middle))
    (started : middle.step config (.start salting naming) = some (.started (.ok ()), final)) :
    ∃ engine, final.process = some { engine } ∧
      engine.state = resumedState process.engine.snapshot := by
  cases step_effect stopped with
  | stopped running quiet =>
      obtain rfl := Option.some.inj (running.symm.trans up)
      cases step_effect started with
      | founded _ empty => cases empty
      | resumed _ disk decoded _ =>
          obtain ⟨rfl, rfl⟩ := List.cons.inj disk
          rw [Engine.decoded_image sound decoded]
          exact ⟨_, rfl, rfl⟩

/-- A graceful shutdown loses nothing: after admission was closed, the threads drained and the last
write succeeded, a start that succeeds finds the state in which admission was closed, whatever of it
had not been written before, as a save restores it: under the next epoch and without reservations. -/
theorem graceful_restart {past drain : List ServerStep} {close stop start : ServerStep}
    {thread : Nat} {salting naming : UInt64} {final : CoordinatorServer}
    (run : ServerRun config (past ++ close :: (drain ++ [stop, start])) final)
    (closes : close.input = .call thread .closeAdmission) (drains : ∀ step ∈ drain, Drains step)
    (stops : stop.input = .stop true) (starts : start.input = .start salting naming)
    (started : start.output = .started (.ok ())) :
    ∃ process engine, close.before.process = some process ∧ final.process = some { engine } ∧
      engine.state = resumedState process.engine.snapshot := by
  rcases close with ⟨opened, _, answer, shut⟩
  rcases stop with ⟨resting, _, _, _⟩
  rcases start with ⟨_, _, _, _⟩
  dsimp only at closes stops starts started
  subst closes stops starts started
  obtain ⟨before, closed, rest⟩ := run.cut
  dsimp only at before closed rest
  obtain ⟨_, drained, ends⟩ := rest.split
  cases ends with
  | cons stopped ends =>
  cases ends with
  | cons resumed ends =>
  cases ends
  cases step_effect closed with
  | @called _ _ process reply next up idle online performed =>
      have shuts : next = process.engine.closeAdmission := by
        have performed := (Engine.step_eq_some performed).1
        cases performed
        rfl
      subst shuts
      have frozen : Frozen process.engine.state resting :=
        drained.guarded (Frozen process.engine.state) Drains
          (fun step frozen allowed moved => frozen_step frozen allowed moved)
          (by refine ⟨_, rfl, ?_, ?_⟩ <;> rfl) drains
      obtain ⟨last, running, _, same⟩ := frozen
      have sane : Sane resting := (before.append (.cons closed drained)).invariant Sane
        (fun _ _ _ _ sane moved => sane_step sane moved) sane_initially
      obtain ⟨engine, serving, state⟩ :=
        stopped_started running (sane.engine last running) stopped resumed
      rw [snapshot_eq same] at state
      exact ⟨process, engine, up, serving, state⟩

def gracefulLife : List (CoordinatorServer → ServerMove) :=
  (fun _ => .start 1 2) :: serves (fun _ => .publishPolicy Engine.directPolicy)
    (List.replicate 5 true) ++
      [fun _ => .call 1 .closeAdmission,
        fun _ => .call 2 (.registerArtifact (Engine.sampleRegistration 1) 0),
        fun _ => .proceed 2 true, fun _ => .proceed 1 true, fun _ => .stop true]

def endsGracefully (played : List ServerStep × CoordinatorServer) : Bool :=
  match played.1.drop 7, played.2.process, played.2.files with
  | [⟨_, .call _ .closeAdmission, _, _⟩, ⟨_, .call _ (.registerArtifact _ _), _, _⟩,
      ⟨_, .proceed _ _, _, _⟩, ⟨_, .proceed _ _, _, _⟩, ⟨_, .stop true, _, _⟩],
    none, snapshot :: _ => bootable snapshot
  | _, _, _ => false

theorem graceful_restart_resumed :
    ∃ (trace : List ServerStep) (final : CoordinatorServer) (process : CoordinatorProcess)
      (engine : Engine), ServerRun {} trace final ∧ final.process = some { engine } ∧
        engine.state = resumedState process.engine.snapshot := by
  have evaluated : (play (step {}) {} gracefulLife).any endsGracefully = true := by
    decide +kernel
  obtain ⟨trace, server, run, checked⟩ := run_of_checked evaluated
  unfold endsGracefully at checked
  split at checked
  · rename_i files ended down held
    have sane := run.invariant Sane (fun _ _ _ _ sane moved => sane_step sane moved) sane_initially
    have taken := sane.files _ (by rw [held]; exact List.mem_cons_self)
    obtain ⟨resumed, _, _, started⟩ := start_bootable down held taken checked 3 4
    have whole := run.append (.cons started (.nil _))
    rw [← List.take_append_drop 7 trace, ended, List.append_assoc] at whole
    obtain ⟨process, engine, _, serving, state⟩ :=
      @graceful_restart _ _ [_, _, _] _ _ _ _ _ _ _ whole rfl
        (by simp only [List.forall_mem_cons]; exact ⟨.called rfl, .proceeded, .proceeded, by simp⟩)
        rfl rfl rfl
    exact ⟨_, _, process, engine, whole, serving, state⟩
  · cases checked

end CoordinatorServer

end ArtifactPromotion
