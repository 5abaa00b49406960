import ArtifactPromotion.Distributed.Interleavings

/-! The threads of the connections against the handler that is never interrupted: while nobody
changes the authority or closes admission, every frame is answered as if it were handled at one
moment, except that others can get into a handshake and between the phases of a promotion. -/

namespace ArtifactPromotion

open CriticalSections Protocol Runs

namespace Engine

variable {engine next : Engine} {request : PromotionRequest} {now later : UInt64}
  {meanwhile : List (Engine → Op)}

theorem promoteAmid_refused {status : Status}
    (decided : engine.evaluate request now = (.error status, next)) :
    engine.promoteAmid request now later meanwhile = some (.error status, next) := by
  rw [promoteAmid, decided]

theorem promoteAmid_planless {result : EvaluationResult}
    (decided : engine.evaluate request now = (.ok result, next))
    (planless : (!result.hasPlan) = true) : engine.promoteAmid request now later meanwhile =
      some (.ok { outcome := result.decision.outcome, decision := result.decision }, next) := by
  rw [promoteAmid, decided]
  exact if_pos planless

theorem promoteAmid_planned {result : EvaluationResult}
    (decided : engine.evaluate request now = (.ok result, next))
    (planned : ¬(!result.hasPlan) = true) : engine.promoteAmid request now later meanwhile =
      (next.amid meanwhile).map fun engine => engine.commit result.plan later := by
  rw [promoteAmid, decided]
  exact if_neg planned

end Engine

abbrev SeenSection := Seen FrameServer CoordinatorCall CoordinatorReply

namespace FrameServer

structure Alike (before after : FrameServer) : Prop where
  authority : after.engine.state.authority = before.engine.state.authority
  admission : after.engine.admissionOpen = before.engine.admissionOpen

theorem Alike.refl (server : FrameServer) : Alike server server := ⟨rfl, rfl⟩

theorem Alike.trans {before middle after : FrameServer} (first : Alike before middle)
    (second : Alike middle after) : Alike before after :=
  ⟨second.authority.trans first.authority, second.admission.trans first.admission⟩

/-- No section changes what frames are admitted. -/
def Steady (seen : List SeenSection) : Prop :=
  ∀ one ∈ seen, Alike one.taken.before one.taken.after

/-- What one call of the handler does at one moment, among what others do before and after. -/
def AtOnce (call : FrameServer → Result Answer × FrameServer) (before : FrameServer)
    (seen : List SeenSection) (answer : Result Answer) (after : FrameServer) : Prop :=
  ∃ first own last server, seen = first ++ (own.map (Seen.mk true) ++ last) ∧
    Interlude enter before first server ∧ Run enter server own (call server).2 ∧
    Interlude enter (call server).2 last after ∧ answer = (call server).1

/-- A handshake: the incarnation is registered at one moment, and what the answer says of the
engine is true at a later one. -/
def InTwoParts (circumstances : Circumstances) (request : Frame) (before : FrameServer)
    (seen : List SeenSection) (answer : Result Answer) (after : FrameServer) : Prop :=
  ∃ first own between last server later, seen = first ++ (⟨true, own⟩ :: (between ++ last)) ∧
    Interlude enter before first server ∧
    Run enter server [own] (server.handleFrame circumstances request).2 ∧
    Interlude enter (server.handleFrame circumstances request).2 between later ∧
    Interlude enter later last after ∧
    answer = ({ server with engine := later.engine }.handleFrame circumstances request).1

def ops (sections : List CoordinatorSection) : List (Engine → Op) :=
  sections.filterMap fun taken => match taken.input with
    | .perform op => some fun _ => op
    | .registerWorkerBoot _ _ => none

def others (seen : List SeenSection) : List SeenSection := seen.filter fun one => !one.own

/-- A promotion: others get in before its commit and before its plan is looked up. -/
def InPhases (circumstances : Circumstances) (request : Frame) (before : FrameServer)
    (seen : List SeenSection) (answer : Result Answer) (after : FrameServer) : Prop :=
  ∃ first own last server next committing inspecting, seen = first ++ (own ++ last) ∧
    Interlude enter before first server ∧ Run enter server (own.map Seen.taken) next ∧
    Interlude enter next last after ∧ others own = committing ++ inspecting ∧
    server.handleFrameAmid circumstances
      ⟨[], ops (committing.map Seen.taken), ops (inspecting.map Seen.taken)⟩ request =
        some (answer, { server with engine := next.engine })

variable {before middle after : FrameServer} {seen first second : List SeenSection}
  {answer : Result Answer} {request : Frame} {circumstances : Circumstances}
  {authority : CoordinatorAuthority}

theorem Steady.append_iff : Steady (first ++ second) ↔ Steady first ∧ Steady second :=
  List.forall_mem_append

theorem Steady.alike (steady : Steady seen) (run : Run enter before (seen.map Seen.taken) after) :
    Alike before after := by
  refine run.guarded (Alike before) (fun taken => Alike taken.before taken.after)
    (fun taken alike kept _ => alike.trans kept) (.refl before) ?_
  intro taken inside
  obtain ⟨one, listed, rfl⟩ := List.mem_map.mp inside
  exact steady one listed

theorem AtOnce.later {call : FrameServer → Result Answer × FrameServer}
    (others : Interlude enter before first middle)
    (atOnce : AtOnce call middle second answer after) :
    AtOnce call before (first ++ second) answer after := by
  obtain ⟨lead, own, last, server, rfl, leading, run, closing, answered⟩ := atOnce
  exact ⟨first ++ lead, own, last, server, by simp, others.append leading, run, closing, answered⟩

theorem AtOnce.congr {call other : FrameServer → Result Answer × FrameServer}
    (steady : Steady seen) (agree : ∀ server, Alike before server → call server = other server)
    (atOnce : AtOnce call before seen answer after) : AtOnce other before seen answer after := by
  obtain ⟨first, own, last, server, rfl, leading, run, closing, answered⟩ := atOnce
  have same := agree server ((Steady.append_iff.mp steady).1.alike leading.run)
  rw [same] at run closing answered
  exact ⟨first, own, last, server, rfl, leading, run, closing, answered⟩

theorem AtOnce.reading {call : FrameServer → Result Answer × FrameServer}
    (leading : Interlude enter before first middle) (closing : Interlude enter middle second after)
    (answered : call middle = (answer, middle)) :
    AtOnce call before (first ++ second) answer after :=
  ⟨first, [], second, middle, rfl, leading, by rw [answered]; exact .nil middle,
    by rwa [answered], by rw [answered]⟩

/-- The part of the server that a call of the engine touches. -/
def onEngine (call : Engine → Result Answer × Engine) (server : FrameServer) :
    Result Answer × FrameServer :=
  ((call server.engine).1, { server with engine := (call server.engine).2 })

theorem answerWith_eq {α : Type} {wrap : α → Reply} {outcome : α × Engine} {reply : Reply}
    {next : Engine} (answered : Engine.answerWith wrap outcome = some (reply, next)) :
    reply = wrap outcome.1 ∧ next = outcome.2 := by
  simp only [Engine.answerWith, Option.some.injEq, Prod.mk.injEq] at answered
  exact ⟨answered.1.symm, answered.2.symm⟩

theorem call_atOnce {α : Type} {op : Op} {answers : CoordinatorReply → Result Answer}
    {wrap : α → Reply} {performing : Engine → α × Engine} {calling : Engine → Result Answer × Engine}
    (amid : (call op answers).Amid enter before seen answer after) (steady : Steady seen)
    (performs : ∀ engine, engine.perform op = Engine.answerWith wrap (performing engine))
    (calls : ∀ engine, engine.state.authority = before.engine.state.authority →
      calling engine = (answers (.performed (wrap (performing engine).1)), (performing engine).2)) :
    AtOnce (onEngine calling) before seen answer after := by
  obtain ⟨first, second, server, output, next, rfl, leading, entered, rest⟩ := amid.acted
  obtain ⟨rfl, closing⟩ := rest.ended
  have alike := (Steady.append_iff.mp steady).1.alike leading.run
  obtain ⟨⟨reply, engine⟩, performed, made⟩ := Option.map_eq_some_iff.mp entered
  cases made
  have answered := (Engine.step_eq_some performed).1
  rw [performs] at answered
  obtain ⟨rfl, rfl⟩ := answerWith_eq answered
  have called := calls server.engine alike.authority
  refine ⟨first, [_], second, server, rfl, leading, ?_⟩
  rw [onEngine, called]
  exact ⟨.cons entered (.nil _), closing, rfl⟩

theorem checkAuthority_alike (alike : Alike before middle) :
    requireCurrentAuthority middle.engine request =
      checkAuthority before.engine.admissionOpen before.engine.state.authority request := by
  rw [← alike.admission, ← alike.authority]
  rfl

def admitted {α : Type} (server : FrameServer) (request : Frame) (decode : ByteBuffer → Result α) :
    Result α := do
  requireCurrentAuthority server.engine request
  decode request.payload

theorem withAuthority_eq {α : Type} (server : FrameServer) (decode : ByteBuffer → Result α)
    (arm : α → Result Answer × Engine) : server.withAuthority request decode arm =
      match server.admitted request decode with
      | .error status => (.error status, server)
      | .ok payload => onEngine (fun _ => arm payload) server := by
  unfold withAuthority admitted
  cases requireCurrentAuthority server.engine request with
  | error status => rfl
  | ok done =>
      cases decode request.payload with
      | error status => rfl
      | ok payload => rfl

theorem authorized_cases {α : Type} {decode : ByteBuffer → Result α}
    {arm : α → ConnectionThread (Result Answer)}
    (amid : (authorized authority request decode arm).Amid enter before seen answer after)
    (steady : Steady seen) (current : before.engine.state.authority = authority) :
    (∃ status, answer = .error status ∧ Interlude enter before seen after ∧
      ∀ server, Alike before server → server.admitted request decode = .error status) ∨
    ∃ payload first second middle, seen = first ++ second ∧ Interlude enter before first middle ∧
      (arm payload).Amid enter middle second answer after ∧
      ∀ server, Alike before server → server.admitted request decode = .ok payload := by
  obtain ⟨first, second, middle, rfl, leading, rest⟩ := amid.looked
  have alike := (Steady.append_iff.mp steady).1.alike leading.run
  have checks (server : FrameServer) (same : Alike before server) :
      server.admitted request decode = (do
        checkAuthority middle.engine.admissionOpen authority request
        decode request.payload) := by
    rw [admitted, checkAuthority_alike same, alike.admission, current]
  cases checked : checkAuthority middle.engine.admissionOpen authority request with
  | error status =>
      rw [checked] at rest checks
      obtain ⟨rfl, closing⟩ := rest.ended
      exact .inl ⟨status, rfl, leading.append closing, checks⟩
  | ok done =>
      rw [checked] at rest checks
      cases decoded : decode request.payload with
      | error status =>
          simp only [decoded] at rest checks
          obtain ⟨rfl, closing⟩ := rest.ended
          exact .inl ⟨status, rfl, leading.append closing, checks⟩
      | ok payload =>
          simp only [decoded] at rest checks
          exact .inr ⟨payload, first, second, middle, rfl, leading, rest, checks⟩

theorem authorized_atOnce {α : Type} {decode : ByteBuffer → Result α}
    {arm : α → ConnectionThread (Result Answer)} (calling : Engine → α → Result Answer × Engine)
    (amid : (authorized authority request decode arm).Amid enter before seen answer after)
    (steady : Steady seen) (current : before.engine.state.authority = authority)
    (calls : ∀ payload server rest, (arm payload).Amid enter server rest answer after →
      Steady rest → server.engine.state.authority = authority →
      AtOnce (onEngine (calling · payload)) server rest answer after) :
    AtOnce (fun server => server.withAuthority request decode (calling server.engine)) before seen
      answer after := by
  rcases authorized_cases amid steady current with
    ⟨status, rfl, others, refused⟩ | ⟨payload, first, second, middle, rfl, leading, rest, admits⟩
  · refine .reading (.nil enter before) others ?_
    rw [withAuthority_eq, refused before (.refl before)]
  · obtain ⟨steadyFirst, steadySecond⟩ := Steady.append_iff.mp steady
    have alike := steadyFirst.alike leading.run
    have atOnce := calls payload middle second rest steadySecond (alike.authority.trans current)
    refine .later leading (.congr steadySecond (fun server same => ?_) atOnce)
    rw [withAuthority_eq, admits server (alike.trans same)]
    rfl

theorem consulting_atOnce {α : Type} {decode : ByteBuffer → Result α}
    {arm : Engine → α → Result Answer}
    (amid : (consulting request decode arm).Amid enter before seen answer after) :
    AtOnce (fun server => server.query request decode (arm server.engine)) before seen answer
      after := by
  obtain ⟨first, second, middle, rfl, leading, rest⟩ := amid.looked
  obtain ⟨rfl, closing⟩ := rest.ended
  exact .reading leading closing rfl

theorem trusting_atOnce {type : MessageType} (op : TrustPayload → CoordinatorAuthority → Op)
    (mutation : TrustPayload → Engine → CoordinatorAuthority → Result TrustMutation × Engine)
    (performs : ∀ payload engine authority, engine.perform (op payload authority) =
      Engine.answerWith .mutated (mutation payload engine authority))
    (amid : (authorized authority request decodeTrust fun payload =>
      call (op payload authority) (mutatedAnswer type)).Amid enter before seen answer after)
    (steady : Steady seen) (current : before.engine.state.authority = authority) :
    AtOnce (fun server => server.withAuthority request decodeTrust fun payload =>
      mutationAnswer type (mutation payload server.engine server.engine.state.authority)) before
      seen answer after := by
  refine authorized_atOnce (fun engine payload =>
    mutationAnswer type (mutation payload engine engine.state.authority)) amid steady current ?_
  intro payload server rest called still now
  refine call_atOnce called still (performs payload · authority) ?_
  intro engine same
  rw [same, now]
  rfl

theorem deciding_atOnce {payload : PromotionPayload} (evaluates : request.type = .evaluateRequest)
    (amid : (deciding authority circumstances request payload).Amid enter before seen answer after)
    (steady : Steady seen) (current : before.engine.state.authority = authority) :
    AtOnce (onEngine (decidePromotion · circumstances request payload)) before seen answer after := by
  unfold deciding at amid
  by_cases unnamed : (!isValidStageValue payload.requestedStage.toByte.toNat) = true
  · rw [if_pos unnamed] at amid
    obtain ⟨rfl, closing⟩ := amid.ended
    have refused : decidePromotion before.engine circumstances request payload =
        (.error (.of .invalidStage (text "promotion request names no destination stage")
          request.request.toText), before.engine) := if_pos unnamed
    exact .reading (.nil enter before) closing (by rw [onEngine, refused])
  · rw [if_neg unnamed, if_pos evaluates] at amid
    refine call_atOnce amid steady (fun _ => rfl) ?_
    intro engine same
    have made : receivedPromotion engine request payload = promotionOf authority request payload := by
      rw [← current, ← same]
      rfl
    unfold decidePromotion
    rw [if_neg unnamed]
    dsimp only
    rw [if_pos evaluates, made]
    rfl

theorem dispatching_atOnce (later : request.type ≠ .helloRequest)
    (single : request.type ≠ .promotionRequest)
    (amid : (dispatching authority circumstances request).Amid enter before seen answer after)
    (steady : Steady seen) (current : before.engine.state.authority = authority) :
    AtOnce (fun server => server.handleFrame circumstances request) before seen answer after := by
  have ends {result : Result Answer} (quiet : (Thread.done result).Amid enter before seen answer after)
      (handled : before.handleFrame circumstances request = (result, before)) :
      AtOnce (fun server => server.handleFrame circumstances request) before seen answer after := by
    obtain ⟨rfl, closing⟩ := quiet.ended
    exact .reading (.nil enter before) closing handled
  unfold dispatching at amid
  cases typed : request.type with
  | helloRequest => exact absurd typed later
  | promotionRequest => exact absurd typed single
  | registerArtifactRequest =>
      rw [typed] at amid
      refine .congr steady (fun server _ => ?_) (authorized_atOnce (fun engine payload =>
        let outcome :=
          engine.registerArtifact (receivedRegistration request payload) circumstances.now
        (outcome.1.map fun record => artifactAnswer .registerArtifactResponse
          { outcome := .promotionCommitted, artifact := record, hasArtifact := true }, outcome.2))
        amid steady current ?_)
      · rw [handleFrame, typed]
      · intro payload server rest called still _
        exact call_atOnce called still (fun _ => rfl) (fun _ _ => rfl)
  | submitEvidenceRequest =>
      rw [typed] at amid
      refine .congr steady (fun server _ => ?_) (authorized_atOnce (fun engine payload =>
        let outcome := engine.submitEvidence (receivedSubmission request payload)
        (outcome.1.map fun record => ⟨.submitEvidenceResponse, encodeEvidenceRecord record⟩,
          outcome.2))
        amid steady current ?_)
      · rw [handleFrame, typed]
      · intro payload server rest called still _
        exact call_atOnce called still (fun _ => rfl) (fun _ _ => rfl)
  | evaluateRequest =>
      rw [typed] at amid
      refine .congr steady (fun server _ => ?_) (authorized_atOnce
        (decidePromotion · circumstances request) amid steady current ?_)
      · rw [handleFrame, typed]
      · intro payload server rest called still same
        exact deciding_atOnce typed called still same
  | artifactStateRequest =>
      rw [typed] at amid
      refine .congr steady (fun server _ => ?_) (consulting_atOnce amid)
      rw [handleFrame, typed]
  | historyRequest =>
      rw [typed] at amid
      refine .congr steady (fun server _ => ?_) (consulting_atOnce amid)
      rw [handleFrame, typed]
  | explainRequest =>
      rw [typed] at amid
      refine .congr steady (fun server _ => ?_) (consulting_atOnce amid)
      rw [handleFrame, typed]
  | quarantineRequest =>
      rw [typed] at amid
      refine .congr steady (fun server _ => ?_) (trusting_atOnce
        (fun payload authority => .quarantine payload.artifact payload.reasonClass payload.detail authority)
        (fun payload engine authority => engine.quarantine payload.artifact payload.reasonClass
          payload.detail authority)
        (fun _ _ _ => rfl) amid steady current)
      rw [handleFrame, typed]
  | releaseQuarantineRequest =>
      rw [typed] at amid
      refine .congr steady (fun server _ => ?_) (trusting_atOnce
        (fun payload authority => .releaseQuarantine payload.artifact authority circumstances.now
          circumstances.later)
        (fun payload engine authority => engine.releaseQuarantine payload.artifact authority
          circumstances.now circumstances.later)
        (fun _ _ _ => rfl) amid steady current)
      rw [handleFrame, typed]
  | revokeRequest =>
      rw [typed] at amid
      refine .congr steady (fun server _ => ?_) (trusting_atOnce
        (fun payload authority => .revoke payload.artifact payload.decision payload.reasonClass
          payload.detail authority {} circumstances.now)
        (fun payload engine authority => engine.revoke payload.artifact payload.decision
          payload.reasonClass payload.detail authority {} circumstances.now)
        (fun _ _ _ => rfl) amid steady current)
      rw [handleFrame, typed]
  | revokeEvidenceRequest =>
      rw [typed] at amid
      refine .congr steady (fun server _ => ?_) (authorized_atOnce (fun engine payload =>
        let outcome :=
          engine.revokeEvidence payload.evidence payload.detail engine.state.authority
        (outcome.1.map fun mutation => artifactAnswer .revokeEvidenceResponse
          { outcome := mutation.outcome, reasons := mutation.reasons }, outcome.2))
        amid steady current ?_)
      · rw [handleFrame, typed]
      · intro payload server rest called still now
        refine call_atOnce called still (fun _ => rfl) ?_
        intro engine same
        rw [same, now]
        rfl
  | supersedeRequest =>
      rw [typed] at amid
      refine .congr steady (fun server _ => ?_) (trusting_atOnce
        (fun payload authority => .supersede payload.artifact payload.successor payload.detail
          authority circumstances.now)
        (fun payload engine authority => engine.supersede payload.artifact payload.successor
          payload.detail authority circumstances.now)
        (fun _ _ _ => rfl) amid steady current)
      rw [handleFrame, typed]
  | retireRequest =>
      rw [typed] at amid
      refine .congr steady (fun server _ => ?_) (trusting_atOnce
        (fun payload authority => .retire payload.artifact authority circumstances.now)
        (fun payload engine authority => engine.retire payload.artifact authority circumstances.now)
        (fun _ _ _ => rfl) amid steady current)
      rw [handleFrame, typed]
  | _ =>
      rw [typed] at amid
      exact ends amid (by rw [handleFrame, typed])

theorem welcoming_inTwoParts (greets : request.type = .helloRequest)
    (amid : (welcoming authority request).Amid enter before seen answer after)
    (steady : Steady seen) (current : before.engine.state.authority = authority) :
    InTwoParts circumstances request before seen answer after := by
  obtain ⟨first, second, server, output, next, rfl, leading, entered, rest⟩ := amid.acted
  have refused (other : FrameServer) (status : Status) (fails : CoordinatorServer.registerWorkerBoot
      other.workerBoots request.worker request.boot = .error status) :
      other.handleFrame circumstances request = (.error status, other) := by
    rw [handleFrame, greets]
    simp only [fails]
  have welcomed (other : FrameServer) (workerBoots : CoordinatorServer.WorkerBoots)
      (accepts : CoordinatorServer.registerWorkerBoot other.workerBoots request.worker
        request.boot = .ok workerBoots) : other.handleFrame circumstances request =
          (.ok other.helloAnswer, { other with workerBoots }) := by
    rw [handleFrame, greets]
    simp only [accepts]
  obtain ⟨steadyFirst, steadyOwn⟩ := Steady.append_iff.mp steady
  obtain ⟨kept, steadySecond⟩ := List.forall_mem_cons.mp steadyOwn
  have moved := entered
  simp only [enter] at moved
  cases registered : CoordinatorServer.registerWorkerBoot server.workerBoots request.worker
      request.boot with
  | error status =>
      rw [registered] at moved
      cases moved
      obtain ⟨rfl, closing⟩ := rest.ended
      refine ⟨first, _, [], second, server, server, rfl, leading, ?_⟩
      rw [refused server status registered]
      exact ⟨.cons entered (.nil _), .nil enter _, closing, rfl⟩
  | ok boots =>
      rw [registered] at moved
      cases moved
      obtain ⟨between, last, later, rfl, waiting, rest⟩ := rest.looked
      obtain ⟨rfl, closing⟩ := rest.ended
      have alike := ((steadyFirst.alike leading.run).trans kept).trans
        ((Steady.append_iff.mp steadySecond).1.alike waiting.run)
      refine ⟨first, _, between, last, server, later, rfl, leading, ?_⟩
      rw [welcomed server boots registered, welcomed { server with engine := later.engine } boots
        registered]
      refine ⟨.cons entered (.nil _), waiting, closing, ?_⟩
      rw [← current, ← alike.authority]
      rfl

theorem enter_representable {call : CoordinatorCall} {reply : CoordinatorReply}
    (fits : before.engine.representable = true) (moved : before.enter call = some (reply, after)) :
    after.engine.representable = true := by
  cases call with
  | perform op =>
      obtain ⟨⟨answer, engine⟩, performed, made⟩ := Option.map_eq_some_iff.mp moved
      cases made
      exact (Engine.step_eq_some performed).2
  | registerWorkerBoot worker boot =>
      simp only [enter] at moved
      split at moved
      · cases moved
        exact fits
      · cases moved
        exact fits

theorem run_representable {sections : List CoordinatorSection}
    (fits : before.engine.representable = true) (run : Run enter before sections after) :
    after.engine.representable = true :=
  run.invariant (fun server => server.engine.representable = true)
    (fun _ _ _ _ fits moved => enter_representable fits moved) fits

theorem run_plays {sections : List CoordinatorSection} (run : Run enter before sections after) :
    ∃ trace, play Engine.step before.engine (ops sections) = some (trace, after.engine) := by
  induction run with
  | nil server => exact ⟨[], rfl⟩
  | @cons server call reply next rest final moved _ ih =>
      obtain ⟨trace, played⟩ := ih
      cases call with
      | perform op =>
          obtain ⟨⟨answer, engine⟩, performed, made⟩ := Option.map_eq_some_iff.mp moved
          cases made
          exact ⟨_, play_cons performed played⟩
      | registerWorkerBoot worker boot =>
          simp only [enter] at moved
          split at moved
          · cases moved
            exact ⟨trace, played⟩
          · cases moved
            exact ⟨trace, played⟩

theorem amid_of_run {sections : List CoordinatorSection}
    (fits : before.engine.representable = true) (run : Run enter before sections after) :
    before.engine.amid (ops sections) = some after.engine := by
  obtain ⟨trace, played⟩ := run_plays run
  rw [Engine.amid, if_pos fits, played]
  rfl

theorem others_interlude (interlude : Interlude enter before seen after) : others seen = seen := by
  rw [others, List.filter_eq_self]
  intro one inside
  simp [interlude.others one inside]

theorem promoting_inPhases {promotion : PromotionRequest} {committed : Result CommitResult}
    (fits : before.engine.representable = true)
    (amid : (promoting promotion circumstances).Amid enter before seen committed after) :
    ∃ first own last server next committing, seen = first ++ (own ++ last) ∧
      Interlude enter before first server ∧ Run enter server (own.map Seen.taken) next ∧
      Interlude enter next last after ∧ others own = committing ∧
      server.engine.promoteAmid promotion circumstances.now circumstances.later
        (ops (committing.map Seen.taken)) = some (committed, next.engine) := by
  obtain ⟨first, second, server, output, evaluated, rfl, leading, entered, rest⟩ := amid.acted
  have room := enter_representable (run_representable fits leading.run) entered
  obtain ⟨⟨reply, engine⟩, performed, made⟩ := Option.map_eq_some_iff.mp entered
  cases made
  obtain ⟨rfl, rfl⟩ := answerWith_eq (Engine.step_eq_some performed).1
  have run : Run enter server [⟨server, _, _, _⟩] _ := .cons entered (.nil _)
  cases decided : server.engine.evaluate promotion circumstances.now with
  | mk outcome engine =>
      rw [decided] at rest run room
      cases outcome with
      | error status =>
          obtain ⟨rfl, closing⟩ := rest.ended
          exact ⟨first, [⟨true, _⟩], second, server, _, [], rfl, leading, run, closing, rfl,
            Engine.promoteAmid_refused decided⟩
      | ok result =>
          simp only [CoordinatorReply.evaluated] at rest
          by_cases planless : (!result.hasPlan) = true
          · rw [if_pos planless] at rest
            obtain ⟨rfl, closing⟩ := rest.ended
            exact ⟨first, [⟨true, _⟩], second, server, _, [], rfl, leading, run, closing, rfl,
              Engine.promoteAmid_planless decided planless⟩
          · rw [if_neg planless] at rest
            obtain ⟨between, last, other, output, next, rfl, waiting, committing, rest⟩ := rest.acted
            obtain ⟨rfl, closing⟩ := rest.ended
            obtain ⟨⟨reply, final⟩, performed, made⟩ := Option.map_eq_some_iff.mp committing
            cases made
            obtain ⟨rfl, rfl⟩ := answerWith_eq (Engine.step_eq_some performed).1
            refine ⟨first, ⟨true, _⟩ :: (between ++ [⟨true, _⟩]), last, server, _, between,
              congrArg (fun rest => first ++ _ :: rest) (List.append_cons between _ last), leading,
              ?_, closing, ?_, ?_⟩
            · rw [List.map_cons, List.map_append]
              exact run.append (waiting.run.append (.cons committing (.nil _)))
            · have quiet := others_interlude waiting
              simp only [others] at quiet ⊢
              simp [List.filter_append, quiet]
            · rw [Engine.promoteAmid_planned decided planless, amid_of_run room waiting.run]
              rfl

theorem deciding_inPhases {payload : PromotionPayload} (promotes : request.type = .promotionRequest)
    (amid : (deciding authority circumstances request payload).Amid enter before seen answer after)
    (steady : Steady seen) (current : before.engine.state.authority = authority)
    (fits : before.engine.representable = true) :
    ∃ first own last server next committing inspecting result, seen = first ++ (own ++ last) ∧
      Interlude enter before first server ∧ Run enter server (own.map Seen.taken) next ∧
      Interlude enter next last after ∧ others own = committing ++ inspecting ∧
      promotionResult server.engine circumstances
        ⟨[], ops (committing.map Seen.taken), ops (inspecting.map Seen.taken)⟩ request payload =
          some (result, next.engine) ∧
      answer = result.map fun sent => ⟨.promotionResponse, encodePromotionResult sent⟩ := by
  unfold deciding at amid
  by_cases unnamed : (!isValidStageValue payload.requestedStage.toByte.toNat) = true
  · rw [if_pos unnamed] at amid
    obtain ⟨rfl, closing⟩ := amid.ended
    exact ⟨[], [], seen, before, before, [], [], _, rfl, .nil enter before, .nil before, closing, rfl,
      if_pos unnamed, rfl⟩
  · have other : request.type ≠ .evaluateRequest := by
      rw [promotes]
      decide
    rw [if_neg unnamed] at amid
    dsimp only at amid
    rw [if_neg other] at amid
    obtain ⟨phases, closes, committed, promoted, rfl, promoting, rest⟩ := amid.bind
    obtain ⟨waiting, last, next, rfl, between, rest⟩ := rest.looked
    obtain ⟨rfl, closing⟩ := rest.ended
    obtain ⟨first, own, late, server, done, committing, rfl, leading, run, settling, amidst, made⟩ :=
      promoting_inPhases fits promoting
    have room := run_representable fits leading.run
    have settled := settling.append between
    have alike := (Steady.append_iff.mp (Steady.append_iff.mp steady).1).1.alike leading.run
    have asked : receivedPromotion server.engine request payload =
        promotionOf authority request payload := by
      rw [← current, ← alike.authority]
      rfl
    refine ⟨first, own ++ (late ++ waiting), last, server, next, committing, late ++ waiting,
      committed.map (promotionPayload next.engine), by simp, leading, ?_, closing, ?_, ?_, ?_⟩
    · rw [List.map_append]
      exact run.append settled.run
    · rw [others, List.filter_append]
      exact congrArg₂ (· ++ ·) amidst (others_interlude settled)
    · have arrived : server.engine.amid [] = some server.engine := by
        rw [Engine.amid, if_pos room]
        rfl
      have inspected := amid_of_run (run_representable room run) settled.run
      rw [promotionResult, if_neg unnamed]
      simp only [arrived, Option.bind_some, if_neg other, asked, made, inspected, Option.map_some]
    · cases committed with
      | error status => rfl
      | ok result => rfl

theorem resultAmid_admitted (promotes : request.type = .promotionRequest) (server : FrameServer)
    (meanwhile : Meanwhile) : server.resultAmid circumstances meanwhile request =
      match server.admitted request decodePromotionRequest with
      | .error status => some (.error status, server)
      | .ok payload =>
          (promotionResult server.engine circumstances meanwhile request payload).map
            fun (result, engine) => (result, { server with engine }) := by
  unfold resultAmid admitted
  simp only [promotes]
  cases requireCurrentAuthority server.engine request with
  | error status => rfl
  | ok done =>
      cases decodePromotionRequest request.payload with
      | error status => rfl
      | ok payload => rfl

theorem dispatching_inPhases (promotes : request.type = .promotionRequest)
    (amid : (dispatching authority circumstances request).Amid enter before seen answer after)
    (steady : Steady seen) (current : before.engine.state.authority = authority)
    (fits : before.engine.representable = true) :
    InPhases circumstances request before seen answer after := by
  unfold dispatching at amid
  rw [promotes] at amid
  have handled (server : FrameServer) (meanwhile : Meanwhile) :
      server.handleFrameAmid circumstances meanwhile request =
        (server.resultAmid circumstances meanwhile request).map fun outcome =>
          (outcome.1.map fun payload => ⟨.promotionResponse, encodePromotionResult payload⟩,
            outcome.2) := by
    unfold handleFrameAmid
    simp only [promotes]
    rfl
  rcases authorized_cases amid steady current with
    ⟨status, rfl, closing, refused⟩ | ⟨payload, first, second, middle, rfl, leading, rest, admits⟩
  · refine ⟨[], [], seen, before, before, [], [], rfl, .nil enter before, .nil before, closing, rfl, ?_⟩
    rw [handled, resultAmid_admitted promotes, refused before (.refl before)]
    rfl
  · obtain ⟨steadyFirst, steadySecond⟩ := Steady.append_iff.mp steady
    have alike := steadyFirst.alike leading.run
    obtain ⟨lead, own, last, server, next, committing, inspecting, result, rfl, opening, run,
      closing, amidst, made, rfl⟩ := deciding_inPhases promotes rest steadySecond
        (alike.authority.trans current) (run_representable fits leading.run)
    have same := alike.trans ((Steady.append_iff.mp steadySecond).1.alike opening.run)
    refine ⟨first ++ lead, own, last, server, next, committing, inspecting, by simp,
      leading.append opening, run, closing, amidst, ?_⟩
    rw [handled, resultAmid_admitted promotes, admits server same]
    simp only [made, Option.map_some]

end FrameServer

end ArtifactPromotion
