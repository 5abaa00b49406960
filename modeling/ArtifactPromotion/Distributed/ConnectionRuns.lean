import ArtifactPromotion.Distributed.Serializability

/-! The whole lives of connections that are served together: every turn of every connection is a
turn of the loop that is served alone. -/

namespace ArtifactPromotion

open CriticalSections Protocol Runs

structure Connection.Passes (connection : Connection) (request : Frame) : Prop where
  stays : request.type ≠ .goodbye
  unseen : request.request ∉ connection.seenRequests
  greeted : connection.handshakeCompleted = true ∨ request.type = .helloRequest

namespace FrameServer

/-- How the answer to a frame comes about among the sections of others. -/
structure Handled (circumstances : Circumstances) (request : Frame) (before : FrameServer)
    (seen : List SeenSection) (answer : Result Answer) (after : FrameServer) : Prop where
  greeted : request.type = .helloRequest →
    InTwoParts circumstances request before seen answer after
  promoted : request.type = .promotionRequest →
    InPhases circumstances request before seen answer after
  atOnce : request.type ≠ .helloRequest → request.type ≠ .promotionRequest →
    AtOnce (fun server => server.handleFrame circumstances request) before seen answer after

inductive Turned (authority : CoordinatorAuthority) (connection : Connection) (delivery : Delivery)
    (before : FrameServer) (seen : List SeenSection) (after : FrameServer) : Turn → Prop
  /-- Nothing is handled: on every server with this authority the turn is the same. -/
  | refused {turn} (quiet : Interlude enter before seen after)
      (same : ∀ server : FrameServer, server.engine.state.authority = authority →
        server.serveConnection connection delivery.circumstances delivery.stream = (turn, server)) :
      Turned authority connection delivery before seen after turn
  | answered {request rest answer} (received : receiveFrame delivery.stream = .ok (request, rest))
      (passes : connection.Passes request)
      (handled : Handled delivery.circumstances request before seen answer after) :
      Turned authority connection delivery before seen after
        (answeredTurn authority connection request answer)

inductive Conversed (authority : CoordinatorAuthority) : Connection → List Delivery → FrameServer →
    List SeenSection → List Turn → FrameServer → Prop
  | finished {connection before seen after} (quiet : Interlude enter before seen after) :
      Conversed authority connection [] before seen [] after
  | closed {connection delivery rest before first middle turn last after}
      (turned : Turned authority connection delivery before first middle turn)
      (quiet : Interlude enter middle last after)
      (ends : turn.connection = none ∨ delivery.sent = false) :
      Conversed authority connection (delivery :: rest) before (first ++ last) [turn] after
  | going {connection delivery rest before first middle turn next second turns after}
      (turned : Turned authority connection delivery before first middle turn)
      (continues : turn.connection = some next) (sent : delivery.sent = true)
      (later : Conversed authority next rest middle second turns after) :
      Conversed authority connection (delivery :: rest) before (first ++ second) (turn :: turns) after

variable {before middle after : FrameServer} {seen first second : List SeenSection}
  {answer : Result Answer} {request : Frame} {circumstances : Circumstances}
  {authority : CoordinatorAuthority} {connection : Connection} {delivery : Delivery} {turn : Turn}

theorem InTwoParts.later (others : Interlude enter before first middle)
    (parts : InTwoParts circumstances request middle second answer after) :
    InTwoParts circumstances request before (first ++ second) answer after := by
  obtain ⟨lead, own, between, last, server, later, rfl, leading, rest⟩ := parts
  exact ⟨first ++ lead, own, between, last, server, later, by simp, others.append leading, rest⟩

theorem InPhases.later (others : Interlude enter before first middle)
    (phases : InPhases circumstances request middle second answer after) :
    InPhases circumstances request before (first ++ second) answer after := by
  obtain ⟨lead, own, last, server, next, committing, inspecting, rfl, leading, rest⟩ := phases
  exact ⟨first ++ lead, own, last, server, next, committing, inspecting, by simp,
    others.append leading, rest⟩

theorem AtOnce.closed {call : FrameServer → Result Answer × FrameServer}
    (atOnce : AtOnce call before first answer middle) (others : Interlude enter middle second after) :
    AtOnce call before (first ++ second) answer after := by
  obtain ⟨lead, own, last, server, rfl, leading, run, closing, answered⟩ := atOnce
  exact ⟨lead, own, last ++ second, server, by simp, leading, run, closing.append others, answered⟩

theorem InTwoParts.closed (parts : InTwoParts circumstances request before first answer middle)
    (others : Interlude enter middle second after) :
    InTwoParts circumstances request before (first ++ second) answer after := by
  obtain ⟨lead, own, between, last, server, later, rfl, leading, run, waiting, closing, same⟩ := parts
  exact ⟨lead, own, between, last ++ second, server, later, by simp, leading, run, waiting,
    closing.append others, same⟩

theorem InPhases.closed (phases : InPhases circumstances request before first answer middle)
    (others : Interlude enter middle second after) :
    InPhases circumstances request before (first ++ second) answer after := by
  obtain ⟨lead, own, last, server, next, committing, inspecting, rfl, leading, run, closing, rest⟩ :=
    phases
  exact ⟨lead, own, last ++ second, server, next, committing, inspecting, by simp, leading, run,
    closing.append others, rest⟩

theorem Handled.closed (handled : Handled circumstances request before first answer middle)
    (others : Interlude enter middle second after) :
    Handled circumstances request before (first ++ second) answer after :=
  ⟨fun greets => (handled.greeted greets).closed others,
    fun promotes => (handled.promoted promotes).closed others,
    fun later single => (handled.atOnce later single).closed others⟩

theorem handling_handled
    (amid : (handling circumstances request).Amid enter before seen answer after)
    (steady : Steady seen) (fits : before.engine.representable = true) :
    Handled circumstances request before seen answer after := by
  obtain ⟨first, second, middle, rfl, leading, rest⟩ := amid.looked
  have steadyRest := (Steady.append_iff.mp steady).2
  refine ⟨?_, ?_, ?_⟩
  · intro greets
    refine .later leading (welcoming_inTwoParts greets ?_ steadyRest rfl)
    simpa only [dispatching, greets] using rest
  · intro promotes
    exact .later leading (dispatching_inPhases promotes rest steadyRest rfl
      (run_representable fits leading.run))
  · intro later single
    exact .later leading (dispatching_atOnce later single rest steadyRest rfl)

theorem refusing_turned {code : ErrorCode} {message : String}
    (amid : (refusing connection request code message).Amid enter before seen turn after)
    (steady : Steady seen) (current : before.engine.state.authority = authority)
    (refuses : ∀ server : FrameServer,
      server.serveConnection connection delivery.circumstances delivery.stream =
        (conclude { connection with seenRequests := request.request :: connection.seenRequests }
          (errorResponse server.engine.state.authority request {} code (text message)), server)) :
    Turned authority connection delivery before seen after turn := by
  obtain ⟨first, second, middle, rfl, leading, rest⟩ := amid.looked
  obtain ⟨rfl, closing⟩ := rest.ended
  have alike := (Steady.append_iff.mp steady).1.alike leading.run
  refine .refused (leading.append closing) fun server same => ?_
  rw [refuses server, same, alike.authority, current]

theorem serving_turned {rest : ByteBuffer}
    (received : receiveFrame delivery.stream = .ok (request, rest))
    (amid : (serving connection delivery.circumstances request).Amid enter before seen turn after)
    (steady : Steady seen) (current : before.engine.state.authority = authority)
    (fits : before.engine.representable = true) :
    Turned authority connection delivery before seen after turn := by
  have serves (server : FrameServer) :
      server.serveConnection connection delivery.circumstances delivery.stream =
        server.serveRequest connection delivery.circumstances request := by
    simp only [serveConnection, received]
  unfold serving at amid
  by_cases leaving : request.type = .goodbye
  · rw [if_pos leaving] at amid
    obtain ⟨rfl, closing⟩ := amid.ended
    refine .refused closing fun server _ => ?_
    rw [serves, serveRequest]
    exact if_pos leaving
  rw [if_neg leaving] at amid
  by_cases repeated : connection.seenRequests.contains request.request = true
  · rw [if_pos repeated] at amid
    refine refusing_turned amid steady current fun server => ?_
    rw [serves, serveRequest]
    simp only [if_neg leaving, if_pos repeated]
  rw [if_neg repeated] at amid
  by_cases early : (!connection.handshakeCompleted && request.type != .helloRequest) = true
  · rw [if_pos early] at amid
    refine refusing_turned amid steady current fun server => ?_
    rw [serves, serveRequest]
    simp only [if_neg leaving, if_neg repeated, if_pos early]
  rw [if_neg early] at amid
  have passes : connection.Passes request := by
    refine ⟨leaving, by simpa using repeated, ?_⟩
    cases completed : connection.handshakeCompleted with
    | true => exact .inl rfl
    | false => exact .inr (by simpa [completed] using early)
  obtain ⟨first, second, answer, middle, rfl, answering, responds⟩ := amid.bind
  obtain ⟨steadyFirst, steadySecond⟩ := Steady.append_iff.mp steady
  obtain ⟨waiting, last, final, rfl, between, ends⟩ := responds.looked
  obtain ⟨rfl, closing⟩ := ends.ended
  have alike := (steadyFirst.alike answering.run).trans
    ((Steady.append_iff.mp steadySecond).1.alike between.run)
  rw [alike.authority, current]
  exact .answered received passes
    ((handling_handled answering steadyFirst fits).closed (between.append closing))

theorem receiving_turned (amid : (receiving connection delivery).Amid enter before seen turn after)
    (steady : Steady seen) (current : before.engine.state.authority = authority)
    (fits : before.engine.representable = true) :
    Turned authority connection delivery before seen after turn := by
  have drops {failure : ReceiveFailure} (received : receiveFrame delivery.stream = .error failure)
      (mute : ∀ status, failure ≠ .refused status)
      (quiet : (Thread.done {} : ConnectionThread Turn).Amid enter before seen turn after) :
      Turned authority connection delivery before seen after turn := by
    obtain ⟨rfl, closing⟩ := quiet.ended
    refine .refused closing fun server _ => ?_
    cases failure with
    | refused status => exact absurd rfl (mute status)
    | closed | oversized | truncated => simp only [serveConnection, received]
  unfold receiving at amid
  cases received : receiveFrame delivery.stream with
  | error failure =>
      cases failure with
      | refused status =>
          simp only [received] at amid
          obtain ⟨first, second, middle, rfl, leading, rest⟩ := amid.looked
          obtain ⟨rfl, closing⟩ := rest.ended
          have alike := (Steady.append_iff.mp steady).1.alike leading.run
          refine .refused (leading.append closing) fun server same => ?_
          simp only [serveConnection, received, same, alike.authority, current]
      | closed | oversized | truncated =>
          simp only [received] at amid
          refine drops received (fun status same => ?_) amid
          cases same
  | ok arrived =>
      obtain ⟨request, rest⟩ := arrived
      simp only [received] at amid
      exact serving_turned received amid steady current fits

theorem Conversed.extend {deliveries : List Delivery} {turns : List Turn}
    (conversed : Conversed authority connection deliveries before first turns middle)
    (others : Interlude enter middle second after) :
    Conversed authority connection deliveries before (first ++ second) turns after := by
  induction conversed with
  | finished quiet => exact .finished (quiet.append others)
  | closed turned quiet ends =>
      rw [List.append_assoc]
      exact .closed turned (quiet.append others) ends
  | going turned continues sent _ ih =>
      rw [List.append_assoc]
      exact .going turned continues sent (ih others)

theorem connected_conversed {deliveries : List Delivery} {turns : List Turn}
    (amid : (connected connection deliveries).Amid enter before seen turns after)
    (steady : Steady seen) (current : before.engine.state.authority = authority)
    (fits : before.engine.representable = true) :
    Conversed authority connection deliveries before seen turns after := by
  induction deliveries generalizing connection before seen turns after with
  | nil =>
      obtain ⟨rfl, closing⟩ := amid.ended
      exact .finished closing
  | cons delivery rest ih =>
      obtain ⟨first, second, turn, middle, rfl, received, goes⟩ := amid.bind
      obtain ⟨steadyFirst, steadySecond⟩ := Steady.append_iff.mp steady
      have turned := receiving_turned received steadyFirst current fits
      have ran := received.run
      cases continues : turn.connection with
      | none =>
          simp only [continues] at goes
          obtain ⟨rfl, closing⟩ := goes.ended
          exact .closed turned closing (.inl continues)
      | some next =>
          simp only [continues] at goes
          cases sent : delivery.sent with
          | false =>
              rw [sent] at goes
              obtain ⟨rfl, closing⟩ := goes.ended
              exact .closed turned closing (.inr sent)
          | true =>
              rw [sent] at goes
              obtain ⟨between, last, later, final, rfl, inner, ends⟩ := goes.bind
              obtain ⟨rfl, closing⟩ := ends.ended
              have alike := steadyFirst.alike ran
              exact .going turned continues sent ((ih inner
                (Steady.append_iff.mp steadySecond).1 (alike.authority.trans current)
                (run_representable fits ran)).extend closing)

end FrameServer

namespace ConnectionPool

variable {start final : ConnectionPool} {trace : List ConnectionMove}

/-- The owner of the process leaves the authority and the admission of requests alone. -/
def Undirected (executed : ConnectionMove) : Prop :=
  ∀ taken : CoordinatorSection, executed.output.acted = some (none, taken) →
    taken.before.Alike taken.after

theorem acted_alike (run : Run step start trace final) (idle : ∀ key, start.threads key = none)
    {executed : ConnectionMove} (inside : executed ∈ trace) (undirected : Undirected executed)
    {who : Option (List Delivery)} {taken : CoordinatorSection}
    (acted : executed.output.acted = some (who, taken)) : taken.before.Alike taken.after := by
  cases who with
  | none => exact undirected taken acted
  | some label =>
      have serves := sections_from_frames run idle inside acted
      rcases Pool.step_shared (run.moved inside) with
        ⟨still, _⟩ | ⟨who, call, reply, same, entered, _⟩
      · rw [still] at acted
        cases acted
      · rw [same] at acted
        cases acted
        have rules := FrameServer.enter_sameRules entered serves
        exact ⟨rules.authority, rules.admission⟩

theorem moved_alike (run : Run step start trace final) (idle : ∀ key, start.threads key = none)
    {executed : ConnectionMove} (inside : executed ∈ trace) (undirected : Undirected executed) :
    executed.before.shared.Alike executed.after.shared := by
  rcases Pool.step_shared (run.moved inside) with
    ⟨_, kept⟩ | ⟨who, call, reply, acted, _, _⟩
  · rw [kept]
    exact .refl _
  · exact acted_alike run idle inside undirected acted

theorem reachable_representable {engine : Engine} (reachable : Reachable engine) :
    engine.representable = true := by
  obtain ⟨start, trace, ⟨config, epoch, salting, naming, rfl⟩, run⟩ := reachable
  refine run.invariant (fun engine => engine.representable = true) ?_ rfl
  intro before op reply after _ moved
  exact (Engine.step_eq_some moved).2

/-- In every interleaving that nobody directs, what a connection got back is what the loop of
`serve_connection` gives: each frame is handled at one moment between its arrival and its answer,
a handshake in two parts, and a promotion in its phases. -/
theorem connections_serialize (run : Run step start trace final)
    (idle : ∀ key, start.threads key = none) (reachable : Reachable start.shared.engine)
    (undirected : ∀ executed ∈ trace, Undirected executed) :
    ∀ past before key event after future,
      trace = past ++ ⟨before, .advance key, event, after⟩ :: future →
      ∀ deliveries turns, event.ended = some (deliveries, turns) →
        ∃ earlier since origin, past = earlier ++ since ∧ Run step start earlier origin ∧
          FrameServer.Conversed start.shared.engine.state.authority {} deliveries origin.shared
            (since.filterMap (Pool.seen key)) turns before.shared := by
  rintro past before key event after future split deliveries turns ended
  obtain ⟨earlier, since, origin, rfl, opened, amid⟩ := Pool.ended_amid run idle split ended
  have inside {executed : ConnectionMove} (listed : executed ∈ earlier ∨ executed ∈ since) :
      executed ∈ trace := by
    rw [split, List.append_assoc]
    simp only [List.mem_append]
    tauto
  have alike : start.shared.Alike origin.shared := by
    refine opened.guarded (fun pool => start.shared.Alike pool.shared) (fun executed =>
      executed.before.shared.Alike executed.after.shared)
      (fun executed alike kept _ => alike.trans kept) (.refl _) ?_
    intro executed listed
    have known := inside (.inl listed)
    exact moved_alike run idle known (undirected executed known)
  have steady : FrameServer.Steady (since.filterMap (Pool.seen key)) := by
    intro one seen
    obtain ⟨executed, listed, noticed⟩ := List.mem_filterMap.mp seen
    obtain ⟨⟨who, taken⟩, acted, rfl⟩ := Option.map_eq_some_iff.mp noticed
    have known := inside (.inr listed)
    exact acted_alike run idle known (undirected executed known) acted
  have fits : origin.shared.engine.representable = true := by
    have reached := opened.invariant (fun pool => Reachable pool.shared.engine)
      (fun _ _ _ _ => moved_reachable) reachable
    exact reachable_representable reached
  exact ⟨earlier, since, origin, rfl, opened,
    FrameServer.connected_conversed amid steady alike.authority fits⟩

section Samples

open FrameServer

theorem undirected_of_labels {trace : List ConnectionMove}
    (labelled : ∀ acted ∈ trace.filterMap fun executed => executed.output.acted,
      acted.1.isSome = true) : ∀ executed ∈ trace, Undirected executed := by
  intro executed inside taken acted
  have labels := labelled _ (List.mem_filterMap.mpr ⟨executed, inside, acted⟩)
  cases labels

/-- A connection has read the authority when another one greets under an older incarnation; then it
greets as well, and its thread ends. -/
theorem greetings_interleaved : ∃ past before turns final,
    Run step { shared := sampleServer ∅ } (past ++ [⟨before, .advance 0,
      { ended := some ([deliver (greetingFrame ⟨0, 2⟩)], turns) }, final⟩]) final ∧
    (past.filterMap fun executed => executed.output.acted).map Prod.fst =
      [some [deliver (greetingFrame ⟨0, 1⟩)], some [deliver (greetingFrame ⟨0, 2⟩)]] := by
  let older := [deliver (greetingFrame ⟨0, 1⟩)]
  let newer := [deliver (greetingFrame ⟨0, 2⟩)]
  let start : ConnectionPool := { shared := sampleServer ∅ }
  let opened := start.assign 0 (some (newer, connected {} newer))
  have opens : step start (.start 0 newer) = some ({}, opened) := rfl
  have held : opened.threads 0 = some (newer, .look fun server =>
      (greeted ⟨0, 2⟩ server.engine.state.authority).bind (continuing [])) := by
    rw [← connected_greeting]
    exact Pool.assign_held 0 _
  have reads := @Pool.advance_look _ _ _ _ _ enter (connected {}) _ _ _ _ held
  let waiting := opened.assign 0 (some (newer,
    (greeted ⟨0, 2⟩ opened.shared.engine.state.authority).bind (continuing [])))
  have joins : step waiting (.start 1 older) =
      some ({}, waiting.assign 1 (some (older, connected {} older))) := rfl
  obtain ⟨first, _, greets⟩ := @greeting_leads _ ⟨0, 1⟩ (sampleServer ∅) (greeting_first ⟨0, 1⟩ (by decide))
  obtain ⟨between, greeting, _, passes⟩ := @Pool.advance_leads _ _ _ _ _ enter (connected {})
    (waiting.assign 1 (some (older, connected {} older))) _ _ _ _ 1 older
    (@Thread.Leads.bind _ _ _ _ _ _ _ (continuing []) _ _ _ _ greets) (Pool.assign_held 1 _)
  rw [Pool.assign_again] at greeting
  have renewed : CoordinatorServer.registerWorkerBoot (Std.ExtTreeMap.insert ∅ ⟨0, 7⟩ ⟨0, 1⟩)
      ⟨0, 7⟩ ⟨0, 2⟩ = .ok _ :=
    CoordinatorServer.registerWorkerBoot_eq_ok.mpr ⟨by decide, by decide, by
      intro existing recorded
      rw [Std.ExtTreeMap.getElem?_insert_self] at recorded
      cases recorded
      decide, rfl⟩
  obtain ⟨turn, kept, answers⟩ := @greeted_leads _ _
    (sampleServer (Std.ExtTreeMap.insert ∅ ⟨0, 7⟩ ⟨0, 1⟩))
    opened.shared.engine.state.authority renewed
  have ends : continuing [] turn = .done [turn] := by
    simp only [continuing, kept]
    rfl
  have answers := @Thread.Leads.bind _ _ _ _ _ _ _ (continuing []) _ _ _ _ answers
  rw [Thread.bind, ends] at answers
  let resumed := ({ waiting with shared := sampleServer (Std.ExtTreeMap.insert ∅ ⟨0, 7⟩ ⟨0, 1⟩) } :
    ConnectionPool).assign 1 (some (older, (Thread.done first).bind (continuing [])))
  have waits : resumed.threads 0 = some (newer,
      (greeted ⟨0, 2⟩ opened.shared.engine.state.authority).bind (continuing [])) :=
    (Pool.assign_other (by decide) _).trans (@Pool.assign_held _ _ _ _ _ opened 0 _)
  obtain ⟨after, goes, _, follows⟩ :=
    @Pool.advance_leads _ _ _ _ _ enter (connected {}) resumed _ _ _ _ 0 newer answers waits
  have last (pool : ConnectionPool) : step (pool.assign 0 (some (newer, .done [turn]))) (.advance 0) =
      some ({ ended := some (newer, [turn]) }, _) :=
    Pool.advance_done (Pool.assign_held 0 _)
  refine ⟨_, _, [turn], _, ((Run.cons opens (.cons reads (.cons joins greeting))).append
    goes).append (.cons (last _) (.nil _)), ?_⟩
  simp only [List.cons_append, List.filterMap_cons, List.filterMap_append, passes, follows,
    List.map_append, List.map_cons, List.map_nil]
  rfl

theorem connections_serialize_greeting : ∃ (past : List ConnectionMove) (before final : ConnectionPool)
    (turns : List Turn) (since : List SeenSection) (origin : FrameServer),
    Run step { shared := sampleServer ∅ } (past ++ [⟨before, .advance 0,
      { ended := some ([deliver (greetingFrame ⟨0, 2⟩)], turns) }, final⟩]) final ∧
    (past.filterMap fun executed => executed.output.acted).map Prod.fst =
      [some [deliver (greetingFrame ⟨0, 1⟩)], some [deliver (greetingFrame ⟨0, 2⟩)]] ∧
    Conversed Engine.sampleEngine.state.authority {} [deliver (greetingFrame ⟨0, 2⟩)] origin since
      turns before.shared := by
  obtain ⟨past, before, turns, final, run, acted⟩ := greetings_interleaved
  have undirected : ∀ executed ∈ past ++ [⟨before, .advance 0,
      { ended := some ([deliver (greetingFrame ⟨0, 2⟩)], turns) }, final⟩], Undirected executed := by
    refine undirected_of_labels fun label inside => ?_
    rw [List.filterMap_append, List.mem_append] at inside
    rcases inside with inside | inside
    · have named : label.1 ∈ (past.filterMap fun executed => executed.output.acted).map Prod.fst :=
        List.mem_map_of_mem inside
      rw [acted] at named
      simp only [List.mem_cons, List.not_mem_nil, or_false] at named
      rcases named with same | same <;> rw [same, Option.isSome_some]
    · cases inside
  obtain ⟨_, since, origin, _, _, conversed⟩ := connections_serialize run (fun _ => rfl)
    ⟨_, [], Engine.sampleEngine_constructed, .nil _⟩ undirected past before 0 _ final [] rfl
    _ turns rfl
  exact ⟨past, before, final, turns, _, origin.shared, run, acted, conversed⟩

end Samples

end ConnectionPool

end ArtifactPromotion
