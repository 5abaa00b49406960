import ArtifactPromotion.Distributed.ResultCodecs
import ArtifactPromotion.Distributed.Server
import ArtifactPromotion.Engine.Runs

/-! The results of evaluations, promotions and explanations that the server sends. Each connection
has a thread of its own, so other calls get in between the critical sections of one frame. -/

namespace ArtifactPromotion

open Protocol Runs

namespace Engine

/-- The engine after others have used it; `none` where the source's behaviour is undefined. -/
def amid (engine : Engine) (others : List (Engine → Op)) : Option Engine :=
  if engine.representable then (play step engine others).map Prod.snd else none

/-- `promote` when others get in between its evaluation and its commit. -/
def promoteAmid (engine : Engine) (request : PromotionRequest) (now later : UInt64)
    (others : List (Engine → Op)) : Option (Result CommitResult × Engine) :=
  match engine.evaluate request now with
  | (.error status, engine) => some (.error status, engine)
  | (.ok evaluated, engine) =>
      if !evaluated.hasPlan then
        some (.ok { outcome := evaluated.decision.outcome, decision := evaluated.decision }, engine)
      else (engine.amid others).map fun engine => engine.commit evaluated.plan later

variable {engine next : Engine}

theorem amid_reachable (reachable : Reachable engine) {others : List (Engine → Op)}
    (used : engine.amid others = some next) : Reachable next := by
  unfold amid at used
  split at used
  · obtain ⟨⟨trace, last⟩, played, rfl⟩ := Option.map_eq_some_iff.mp used
    obtain ⟨start, past, constructed, run⟩ := reachable
    exact ⟨start, past ++ trace, constructed, run.append (run_of_play played)⟩
  · cases used

theorem representable_of_amid {others : List (Engine → Op)}
    (used : engine.amid others = some next) : engine.representable = true := by
  unfold amid at used
  split at used
  · rename_i fits
    exact fits
  · cases used

theorem amid_nil (used : engine.amid [] = some next) : engine = next := by
  unfold amid at used
  split at used
  · exact Option.some.inj used
  · cases used

theorem promoteAmid_undisturbed {request : PromotionRequest} {now later : UInt64}
    {outcome : Result CommitResult × Engine}
    (promoted : engine.promoteAmid request now later [] = some outcome) :
    engine.promote request now later = outcome := by
  unfold promoteAmid at promoted
  unfold promote
  generalize engine.evaluate request now = evaluation at promoted ⊢
  obtain ⟨status | evaluated, next⟩ := evaluation
  · exact Option.some.inj promoted
  · dsimp only at promoted ⊢
    by_cases planless : (!evaluated.hasPlan) = true
    · rw [if_pos planless] at promoted ⊢
      exact Option.some.inj promoted
    · rw [if_neg planless] at promoted ⊢
      obtain ⟨middle, used, rfl⟩ := Option.map_eq_some_iff.mp promoted
      rw [amid_nil used]

end Engine

/-- What others make the engine do while one frame is handled: before its call, before the commit of
a promotion, and before the plan of the answer is looked up. -/
structure Meanwhile where
  arriving : List (Engine → Op) := []
  committing : List (Engine → Op) := []
  inspecting : List (Engine → Op) := []

namespace FrameServer

def promotionResult (engine : Engine) (circumstances : Circumstances) (meanwhile : Meanwhile)
    (request : Frame) (payload : PromotionPayload) :
    Option (Result PromotionResultPayload × Engine) :=
  if !isValidStageValue payload.requestedStage.toByte.toNat then
    some (engine.refuse .invalidStage "promotion request names no destination stage"
      request.request.toText)
  else
    let promotion := receivedPromotion engine request payload
    (engine.amid meanwhile.arriving).bind fun engine =>
      if request.type = .evaluateRequest then
        let (evaluated, engine) := engine.evaluate promotion circumstances.now
        some (evaluated.map evaluationPayload, engine)
      else
        (engine.promoteAmid promotion circumstances.now circumstances.later
            meanwhile.committing).bind fun (committed, engine) =>
          (engine.amid meanwhile.inspecting).map fun engine =>
            (committed.map (promotionPayload engine), engine)

def explanationResult (engine : Engine) (circumstances : Circumstances)
    (payload : PromotionPayload) : Result PromotionResultPayload :=
  match engine.explain payload.artifact payload.requestedStage circumstances.now
      circumstances.later with
  | none => .error (.of .artifactNotFound (text "artifact identity is not registered"))
  | some decision => .ok (explanationPayload decision)

/-- The result that is sent for an evaluation, a promotion or an explanation. -/
def resultAmid (server : FrameServer) (circumstances : Circumstances) (meanwhile : Meanwhile)
    (request : Frame) : Option (Result PromotionResultPayload × FrameServer) :=
  match request.type with
  | .explainRequest =>
      some (decodePromotionRequest request.payload >>=
        explanationResult server.engine circumstances, server)
  | _ =>
      match requireCurrentAuthority server.engine request with
      | .error status => some (.error status, server)
      | .ok () =>
          match decodePromotionRequest request.payload with
          | .error status => some (.error status, server)
          | .ok payload =>
              (promotionResult server.engine circumstances meanwhile request payload).map
                fun (result, engine) => (result, { server with engine })

def resultType : MessageType → MessageType
  | .evaluateRequest => .evaluateResponse
  | .promotionRequest => .promotionResponse
  | _ => .explainResponse

def handleFrameAmid (server : FrameServer) (circumstances : Circumstances) (meanwhile : Meanwhile)
    (request : Frame) : Option (Result Answer × FrameServer) :=
  match request.type with
  | .evaluateRequest | .promotionRequest | .explainRequest =>
      (server.resultAmid circumstances meanwhile request).map fun (result, next) =>
        (result.map fun payload => ⟨resultType request.type, encodePromotionResult payload⟩, next)
  | _ => some (server.handleFrame circumstances request)

variable {server next : FrameServer} {circumstances : Circumstances} {meanwhile : Meanwhile}
  {request : Frame}

def CarriesResult (type : MessageType) : Prop :=
  type = .evaluateResponse ∨ type = .promotionResponse ∨ type = .explainResponse

instance (type : MessageType) : Decidable (CarriesResult type) :=
  inferInstanceAs (Decidable (_ ∨ _))

theorem withAuthority_answered {α : Type} {decode : ByteBuffer → Result α}
    {arm : α → Result Answer × Engine} {answer : Answer}
    (served : server.withAuthority request decode arm = (.ok answer, next)) :
    ∃ payload, (arm payload).1 = .ok answer := by
  unfold withAuthority at served
  split at served
  · cases served
  split at served
  · cases served
  · rename_i payload _
    exact ⟨payload, congrArg Prod.fst served⟩

theorem answered_type {α : Type} {made : Result α} {answers : α → Answer} {type : MessageType}
    {answer : Answer} (typed : ∀ value, (answers value).type = type)
    (answered : made.map answers = .ok answer) : answer.type = type := by
  cases made with
  | error status => cases answered
  | ok value =>
      cases answered
      exact typed value

theorem handleFrame_other {answer : Answer}
    (served : server.handleFrame circumstances request = (.ok answer, next))
    (others : request.type ≠ .evaluateRequest ∧ request.type ≠ .promotionRequest ∧
      request.type ≠ .explainRequest) : ¬CarriesResult answer.type := by
  have apart {type : MessageType} (typed : answer.type = type) (foreign : ¬CarriesResult type) :
      ¬CarriesResult answer.type := typed ▸ foreign
  have mutation {type : MessageType} {arm : TrustPayload → Result TrustMutation × Engine}
      (answered : server.withAuthority request decodeTrust
        (fun payload => mutationAnswer type (arm payload)) = (.ok answer, next)) :
      answer.type = type := by
    obtain ⟨payload, made⟩ := withAuthority_answered answered
    exact answered_type (fun _ => rfl) made
  have built {α : Type} {made : Result α} {answers : α → Answer} {type : MessageType}
      (answered : made.map answers = .ok answer) (typed : ∀ value, (answers value).type = type)
      (foreign : ¬CarriesResult type) : ¬CarriesResult answer.type :=
    apart (answered_type typed answered) foreign
  unfold handleFrame at served
  cases asked : request.type
  all_goals simp only [asked, ne_eq, not_true_eq_false, false_and, and_false] at served others
  case helloRequest =>
    split at served
    · cases served
    · cases served
      exact apart rfl (show ¬CarriesResult .helloResponse by decide)
  case registerArtifactRequest =>
    obtain ⟨payload, made⟩ := withAuthority_answered served
    exact built made (fun _ => rfl) (show ¬CarriesResult .registerArtifactResponse by decide)
  case submitEvidenceRequest =>
    obtain ⟨payload, made⟩ := withAuthority_answered served
    exact built made (fun _ => rfl) (show ¬CarriesResult .submitEvidenceResponse by decide)
  case revokeEvidenceRequest =>
    obtain ⟨payload, made⟩ := withAuthority_answered served
    exact built made (fun _ => rfl) (show ¬CarriesResult .revokeEvidenceResponse by decide)
  case artifactStateRequest =>
    obtain ⟨payload, _, answered⟩ := (bind_eq_ok _ _ _).mp (congrArg Prod.fst served)
    unfold stateAnswer at answered
    split at answered
    · cases answered
    · cases answered
      exact apart rfl (show ¬CarriesResult .artifactStateResponse by decide)
  case historyRequest =>
    obtain ⟨payload, _, answered⟩ := (bind_eq_ok _ _ _).mp (congrArg Prod.fst served)
    exact built answered (fun _ => rfl) (show ¬CarriesResult .historyResponse by decide)
  case quarantineRequest | releaseQuarantineRequest | revokeRequest | supersedeRequest |
      retireRequest => exact apart (mutation served) (by decide)
  case snapshotSaveRequest =>
    exact built (congrArg Prod.fst served) (fun _ => rfl)
      (show ¬CarriesResult .snapshotSaveResponse by decide)
  all_goals cases served

theorem handleFrameAmid_results {answer : Answer}
    (served : server.handleFrameAmid circumstances meanwhile request = some (.ok answer, next))
    (carries : CarriesResult answer.type) :
    ∃ payload, server.resultAmid circumstances meanwhile request = some (.ok payload, next) ∧
      answer = ⟨resultType request.type, encodePromotionResult payload⟩ ∧
      (request.type = .evaluateRequest ∨ request.type = .promotionRequest ∨
        request.type = .explainRequest) := by
  have results (asked : request.type = .evaluateRequest ∨ request.type = .promotionRequest ∨
      request.type = .explainRequest)
      (sent : (server.resultAmid circumstances meanwhile request).map (fun (result, next) =>
        (result.map fun payload => (⟨resultType request.type, encodePromotionResult payload⟩ : Answer),
          next)) = some (.ok answer, next)) :
      ∃ payload, server.resultAmid circumstances meanwhile request = some (.ok payload, next) ∧
        answer = ⟨resultType request.type, encodePromotionResult payload⟩ ∧
        (request.type = .evaluateRequest ∨ request.type = .promotionRequest ∨
          request.type = .explainRequest) := by
    obtain ⟨⟨result, last⟩, made, same⟩ := Option.map_eq_some_iff.mp sent
    cases result with
    | error status => simp [Except.map] at same
    | ok payload =>
        simp only [Except.map, Prod.mk.injEq, Except.ok.injEq] at same
        obtain ⟨rfl, rfl⟩ := same
        exact ⟨payload, made, rfl, asked⟩
  unfold handleFrameAmid at served
  split at served
  · rename_i asked
    exact results (.inl asked) served
  · rename_i asked
    exact results (.inr (.inl asked)) served
  · rename_i asked
    exact results (.inr (.inr asked)) served
  · rename_i evaluates promotes explains
    have plain := Option.some.inj served
    exact absurd carries (handleFrame_other plain ⟨evaluates, promotes, explains⟩)

theorem promotionResult_undisturbed {engine last : Engine} {payload : PromotionPayload}
    {result : Result PromotionResultPayload}
    (asked : request.type = .evaluateRequest ∨ request.type = .promotionRequest)
    (made : promotionResult engine circumstances {} request payload = some (result, last)) :
    decidePromotion engine circumstances request payload =
      (result.map fun sent => ⟨resultType request.type, encodePromotionResult sent⟩, last) := by
  unfold promotionResult at made
  unfold decidePromotion
  split at made
  · rename_i unnamed
    rw [if_pos unnamed]
    cases made
    rfl
  rename_i named
  rw [if_neg named]
  dsimp only at made ⊢
  obtain ⟨arrived, used, made⟩ := Option.bind_eq_some_iff.mp made
  rw [← Engine.amid_nil used] at made
  rcases asked with evaluates | promotes
  · rw [if_pos evaluates] at made ⊢
    cases made
    rw [evaluates]
    cases (engine.evaluate (receivedPromotion engine request payload) circumstances.now).1 with
    | error status => rfl
    | ok evaluated => rfl
  · have other : request.type ≠ .evaluateRequest := by
      rw [promotes]
      decide
    rw [if_neg other] at made ⊢
    obtain ⟨⟨committed, middle⟩, promoted, made⟩ := Option.bind_eq_some_iff.mp made
    obtain ⟨final, inspected, made⟩ := Option.map_eq_some_iff.mp made
    rw [Engine.promoteAmid_undisturbed promoted, promotes]
    rw [← Engine.amid_nil inspected] at made
    cases made
    cases committed with
    | error status => rfl
    | ok evaluated => rfl

theorem explainAnswer_eq {engine : Engine} {payload : PromotionPayload} :
    explainAnswer engine circumstances payload =
      (explanationResult engine circumstances payload).map fun sent =>
        ⟨.explainResponse, encodePromotionResult sent⟩ := by
  unfold explainAnswer explanationResult
  cases engine.explain payload.artifact payload.requestedStage circumstances.now
      circumstances.later with
  | none => rfl
  | some decision => rfl

theorem handleFrameAmid_undisturbed {outcome : Result Answer × FrameServer}
    (served : server.handleFrameAmid circumstances {} request = some outcome) :
    server.handleFrame circumstances request = outcome := by
  have decides (asked : request.type = .evaluateRequest ∨ request.type = .promotionRequest)
      (sent : (server.resultAmid circumstances {} request).map (fun (result, next) =>
        (result.map fun payload => (⟨resultType request.type, encodePromotionResult payload⟩ : Answer),
          next)) = some outcome) :
      (server.withAuthority request decodePromotionRequest fun payload =>
        decidePromotion server.engine circumstances request payload) = outcome := by
    obtain ⟨⟨result, last⟩, made, rfl⟩ := Option.map_eq_some_iff.mp sent
    have explains : request.type ≠ .explainRequest := by
      rcases asked with evaluates | promotes
      · rw [evaluates]
        decide
      · rw [promotes]
        decide
    unfold resultAmid at made
    unfold withAuthority
    split at made
    · contradiction
    generalize requireCurrentAuthority server.engine request = allowed at made ⊢
    obtain refused | ⟨⟨⟩⟩ := allowed
    · cases made
      rfl
    generalize decodePromotionRequest request.payload = decoded at made ⊢
    obtain malformed | payload := decoded
    · cases made
      rfl
    obtain ⟨⟨sent, engine⟩, decided, same⟩ := Option.map_eq_some_iff.mp made
    cases same
    dsimp only
    rw [promotionResult_undisturbed asked decided]
  unfold handleFrameAmid at served
  unfold handleFrame
  split at served
  · rename_i evaluates
    rw [evaluates]
    exact decides (.inl evaluates) served
  · rename_i promotes
    rw [promotes]
    exact decides (.inr promotes) served
  · rename_i explains
    obtain ⟨⟨result, last⟩, made, rfl⟩ := Option.map_eq_some_iff.mp served
    simp only [resultAmid, explains, Option.some.injEq, Prod.mk.injEq] at made
    obtain ⟨rfl, rfl⟩ := made
    simp only [explains, query]
    cases decodePromotionRequest request.payload with
    | error status => rfl
    | ok payload => exact congrArg (·, server) explainAnswer_eq
  · exact Option.some.inj served

end FrameServer

end ArtifactPromotion
