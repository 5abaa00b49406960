import ArtifactPromotion.Engine.Refusals
import ArtifactPromotion.Engine.Requests

/-! How an operation counts the mutations that are still to be written, and which transition
records it stores and reports. -/

namespace ArtifactPromotion

open Runs

def Op.online : Op → Bool
  | .reload _ => false
  | _ => true

/-- Storing one more record would drop the record of this transition: it is the oldest of a full
store, or its identity is allocated again. -/
def Engine.Displaces (engine : Engine) (transition : TransitionId) : Prop :=
  engine.state.transitionGenerator.next = transition ∨
    (engine.config.maxRecordsRetained.toNat ≤ engine.state.records.size ∧
      engine.state.records.minKey? = some transition)

def Engine.Stores (engine : Engine) (op : Op) : Prop :=
  ∃ reply next, engine.step op = some (reply, next) ∧ next.state.records ≠ engine.state.records

structure Counts (before after : Engine) : Prop where
  clean : after.persistCleanEpoch = before.persistCleanEpoch
  counted : after.persistEpoch = before.persistEpoch ∨
    after.persistEpoch = before.persistEpoch + 1
  uncounted : after.state.records = before.state.records ∨
    after.persistEpoch = before.persistEpoch + 1

namespace Counts

theorem refl (engine : Engine) : Counts engine engine := ⟨rfl, .inl rfl, .inl rfl⟩

theorem touched {engine : Engine} {state : CoordinatorState}
    (same : state.records = engine.state.records) : Counts engine { engine with state } :=
  ⟨rfl, .inl rfl, .inl same⟩

theorem after_touch {engine after : Engine} (state : CoordinatorState)
    (same : state.records = engine.state.records)
    (counts : Counts { engine with state } after) : Counts engine after :=
  ⟨counts.clean, counts.counted, counts.uncounted.imp_left fun kept => kept.trans same⟩

end Counts

namespace Engine

variable {engine next : Engine}

theorem counts_dirty (state : CoordinatorState) : Counts engine (engine.dirty state) :=
  ⟨rfl, .inr rfl, .inr rfl⟩

theorem releaseAll_records (note : PendingTransition → Text) (state : CoordinatorState) :
    (releaseAll note state).records = state.records := by
  unfold releaseAll
  induction state.pending.keys generalizing state with
  | nil => rfl
  | cons id rest ih =>
      rw [List.foldl_cons, ih]
      unfold releaseOne
      split <;> rfl

theorem counts_revalidate (plan : PromotionPlan) (artifact : ArtifactRecord)
    (decision : PromotionDecision) (now : UInt64) :
    Counts engine (engine.revalidate plan artifact decision now).2 := by
  unfold revalidate
  dsimp only
  repeat' split
  all_goals exact counts_dirty _

theorem counts_commitStored (plan : PromotionPlan) (now : UInt64) :
    Counts engine (engine.commitStored plan now).2 := by
  unfold commitStored
  dsimp only
  split
  · exact .touched rfl
  · refine .after_touch (engine.state.touchDecision plan.decision) rfl ?_
    split
    · exact counts_dirty _
    · split
      · exact counts_dirty _
      · exact counts_revalidate _ _ _ _

theorem counts_commit (plan : PromotionPlan) (now : UInt64) :
    Counts engine (engine.commit plan now).2 := by
  unfold commit
  split
  · exact .refl engine
  split
  · exact .refl engine
  split
  · exact .refl engine
  split
  · exact .refl engine
  split
  · exact .touched rfl
  · exact counts_commitStored plan now

theorem counts_registerArtifact (registration : ArtifactRegistration) (now : UInt64) :
    Counts engine (engine.registerArtifact registration now).2 := by
  unfold registerArtifact
  dsimp only
  repeat' split
  all_goals first
    | exact ⟨rfl, .inl rfl, .inl rfl⟩
    | exact counts_dirty _

theorem counts_recoverInFlight : Counts engine engine.recoverInFlight.2 := by
  unfold recoverInFlight
  dsimp only
  split
  · exact counts_dirty _
  · exact ⟨rfl, .inl rfl, .inl (releaseAll_records _ _)⟩

structure Reports (engine : Engine) (outcome : Result TrustMutation × Engine) : Prop where
  counts : Counts engine outcome.2
  stored : ∀ result, outcome.1 = .ok result → result.hasRecord = true →
    outcome.2.state.records[result.record.transition]? = some result.record ∧
      outcome.2.persistEpoch = engine.persistEpoch + 1

theorem reports_refuse (code : ErrorCode) (message : String) (subject : Text) :
    engine.Reports (engine.refuse code message subject) :=
  ⟨.refl engine, by simp [refuse]⟩

theorem reports_answer (outcome : PromotionOutcome) (artifact : ArtifactRecord) (code : ErrorCode)
    (message : String) : engine.Reports (engine.answer outcome artifact code message) := by
  refine ⟨.refl engine, ?_⟩
  intro result answered recorded
  cases answered
  simp at recorded

theorem storeRecord_stored (state : CoordinatorState) (config : EngineConfig)
    (record : PromotionRecord) :
    (state.storeRecord config record).records[record.transition]? = some record :=
  Std.ExtTreeMap.getElem?_insert_self

theorem reports_applyTrust (state : CoordinatorState) (id : ArtifactId) (changed : ArtifactRecord)
    (source : Stage) (decision : PromotionDecisionId) (now : UInt64) (note : Text)
    (kind : HistoryEventKind) (outcome : PromotionOutcome) :
    engine.Reports (engine.applyTrust state id changed source decision now note kind outcome) := by
  refine ⟨counts_dirty _, ?_⟩
  intro result answered _
  cases answered
  exact ⟨storeRecord_stored _ _ _, rfl⟩

theorem reports_applyRelease (state : CoordinatorState) (id : ArtifactId)
    (artifact : ArtifactRecord) (request : PromotionRequest) (decision : PromotionDecision)
    (later : UInt64) :
    engine.Reports (engine.applyRelease state id artifact request decision later) := by
  refine ⟨counts_dirty _, ?_⟩
  intro result answered _
  cases answered
  exact ⟨storeRecord_stored _ _ _, rfl⟩

theorem reports_unrecorded {result : TrustMutation} {state : CoordinatorState}
    (unrecorded : result.hasRecord = false) : engine.Reports (.ok result, engine.dirty state) := by
  refine ⟨counts_dirty _, ?_⟩
  intro answer answered recorded
  cases answered
  simp [unrecorded] at recorded

theorem reports_quarantine (id : ArtifactId) (reasonClass detail : Text)
    (authority : CoordinatorAuthority) :
    engine.Reports (engine.quarantine id reasonClass detail authority) := by
  unfold quarantine
  dsimp only
  repeat' split
  all_goals first
    | exact reports_refuse _ _ _
    | exact reports_answer _ _ _ _
    | exact reports_unrecorded rfl

theorem reports_releaseQuarantine (id : ArtifactId) (authority : CoordinatorAuthority)
    (now later : UInt64) : engine.Reports (engine.releaseQuarantine id authority now later) := by
  unfold releaseQuarantine
  dsimp only
  repeat' split
  all_goals first
    | exact reports_refuse _ _ _
    | exact reports_answer _ _ _ _
    | exact reports_unrecorded rfl
    | exact reports_applyRelease _ _ _ _ _ _

theorem reports_revoke (id : ArtifactId) (decision : PromotionDecisionId)
    (reasonClass detail : Text) (authority : CoordinatorAuthority) (cause : EvidenceId)
    (now : UInt64) :
    engine.Reports (engine.revoke id decision reasonClass detail authority cause now) := by
  unfold revoke
  dsimp only
  repeat' split
  all_goals first
    | exact reports_refuse _ _ _
    | exact reports_answer _ _ _ _
    | exact reports_applyTrust _ _ _ _ _ _ _ _ _

theorem reports_supersede (id successor : ArtifactId) (reason : Text)
    (authority : CoordinatorAuthority) (now : UInt64) :
    engine.Reports (engine.supersede id successor reason authority now) := by
  unfold supersede
  dsimp only
  repeat' split
  all_goals first
    | exact reports_refuse _ _ _
    | exact reports_answer _ _ _ _
    | exact reports_applyTrust _ _ _ _ _ _ _ _ _

theorem reports_retire (id : ArtifactId) (authority : CoordinatorAuthority) (now : UInt64) :
    engine.Reports (engine.retire id authority now) := by
  unfold retire
  dsimp only
  repeat' split
  all_goals first
    | exact reports_refuse _ _ _
    | exact reports_answer _ _ _ _
    | exact reports_applyTrust _ _ _ _ _ _ _ _ _

theorem reports_revokeEvidence (id : EvidenceId) (reason : Text)
    (authority : CoordinatorAuthority) :
    engine.Reports (engine.revokeEvidence id reason authority) := by
  unfold revokeEvidence
  dsimp only
  repeat' split
  all_goals first
    | exact reports_refuse _ _ _
    | exact reports_answer _ _ _ _
    | exact reports_unrecorded rfl

theorem perform_counts {op : Op} {reply : Reply} (moved : engine.perform op = some (reply, next)) :
    Counts engine next := by
  by_cases transacts : op.transacts = true
  · rcases perform_transacts transacts moved with rfl | ⟨_, state, rfl⟩
    · exact .refl _
    · exact counts_dirty state
  cases op with
  | registerArtifact registration now =>
      cases moved
      exact counts_registerArtifact registration now
  | commit plan now =>
      cases moved
      exact counts_commit plan now
  | recoverInFlight =>
      cases moved
      exact counts_recoverInFlight
  | closeAdmission | openAdmission =>
      cases moved
      exact ⟨rfl, .inl rfl, .inl rfl⟩
  | _ => exact absurd rfl transacts

theorem step_counts {op : Op} {reply : Reply} (moved : engine.step op = some (reply, next)) :
    Counts engine next :=
  perform_counts (step_eq_some moved).1

theorem reports_answerWith {outcome : Result TrustMutation × Engine} {result : TrustMutation}
    (reports : engine.Reports outcome)
    (answered : answerWith .mutated outcome = some (.mutated (.ok result), next))
    (recorded : result.hasRecord = true) :
    next.state.records[result.record.transition]? = some result.record ∧
      next.persistEpoch = engine.persistEpoch + 1 := by
  simp only [answerWith, Option.some.injEq, Prod.mk.injEq, Reply.mutated.injEq] at answered
  rw [← answered.2]
  exact reports.stored result answered.1 recorded

theorem step_reports {op : Op} {result : TrustMutation}
    (moved : engine.step op = some (.mutated (.ok result), next))
    (recorded : result.hasRecord = true) :
    next.state.records[result.record.transition]? = some result.record ∧
      next.persistEpoch = engine.persistEpoch + 1 := by
  have performed := (step_eq_some moved).1
  cases op with
  | quarantine id reasonClass detail authority =>
      exact reports_answerWith (reports_quarantine id reasonClass detail authority) performed
        recorded
  | releaseQuarantine id authority now later =>
      exact reports_answerWith (reports_releaseQuarantine id authority now later) performed
        recorded
  | revoke id decision reasonClass detail authority cause now =>
      exact reports_answerWith
        (reports_revoke id decision reasonClass detail authority cause now) performed recorded
  | supersede id successor reason authority now =>
      exact reports_answerWith (reports_supersede id successor reason authority now) performed
        recorded
  | retire id authority now =>
      exact reports_answerWith (reports_retire id authority now) performed recorded
  | revokeEvidence id reason authority =>
      exact reports_answerWith (reports_revokeEvidence id reason authority) performed recorded
  | publishPolicy policy | reload advance =>
      rw [perform] at performed
      obtain ⟨outcome, _, answered⟩ := Option.bind_eq_some_iff.mp performed
      simp [answerWith] at answered
  | restart _ | recoverInFlight | registerArtifact _ _ | submitEvidence _ | evaluate _ _
  | commit _ _ | setSecurityVeto _ _ _ | setDependencyVeto _ _ _
  | setCompatibilityGeneration _ | closeAdmission | openAdmission =>
      simp [perform, answerWith] at performed

theorem step_promotes {op : Op} {result : CommitResult}
    (moved : engine.step op = some (.committed (.ok result), next))
    (granted : result.outcome = .promotionCommitted) :
    ∃ plan now, op = .commit plan now ∧ result.record.decision = plan.decision ∧
      next.state.records[result.record.transition]? = some result.record := by
  cases step_effect moved with
  | idle quiet _ => simp [Reply.confirmsChange] at quiet
  | closed _ quiet _ _ _ _ => exact absurd granted quiet
  | @committed plan now artifact _ _ _ _ _ record_eq _ _ changed =>
      have records : next.control.records = putBounded engine.config.maxRecordsRetained
          engine.control.records result.record.transition result.record :=
        congrArg Control.records changed
      refine ⟨plan, now, rfl, by rw [record_eq]; rfl, ?_⟩
      change next.control.records[_]? = _
      rw [records]
      exact Std.ExtTreeMap.getElem?_insert_self

theorem step_record_store {op : Op} {reply : Reply} (moved : engine.step op = some (reply, next))
    (online : op.online = true) :
    next.state.records = engine.state.records ∨
      ∃ record : PromotionRecord, record.transition = engine.state.transitionGenerator.next ∧
        next.state.records = putBounded engine.config.maxRecordsRetained engine.state.records
          record.transition record := by
  have kept (same : next.control.records = engine.control.records) :
      next.state.records = engine.state.records := same
  have added {record : PromotionRecord}
      (named : record.transition = engine.state.transitionGenerator.next)
      (changed : next.control.records = putBounded engine.config.maxRecordsRetained
        engine.control.records record.transition record) :
      ∃ record : PromotionRecord, record.transition = engine.state.transitionGenerator.next ∧
        next.state.records = putBounded engine.config.maxRecordsRetained engine.state.records
          record.transition record :=
    ⟨record, named, changed⟩
  cases step_effect moved with
  | closed released _ _ _ _ changed =>
      refine .inl (kept ?_)
      rw [changed]
      cases released <;> rfl
  | committed _ _ record_eq _ _ changed =>
      have records := congrArg Control.records changed
      exact .inr (added (by rw [record_eq]; rfl) records)
  | released _ _ _ _ _ _ _ record_eq changed =>
      have records := congrArg Control.records changed
      exact .inr (added (by rw [record_eq]; rfl) records)
  | revoked _ _ _ _ _ record_eq changed =>
      have records := congrArg Control.records changed
      exact .inr (added (by rw [record_eq]; rfl) records)
  | superseded _ _ _ _ _ record_eq changed =>
      have records := congrArg Control.records changed
      exact .inr (added (by rw [record_eq]; rfl) records)
  | retired _ _ record_eq changed =>
      have records := congrArg Control.records changed
      exact .inr (added (by rw [record_eq]; rfl) records)
  | reloaded _ _ => simp [Op.online] at online
  | idle _ changed | published _ _ changed | restarted _ changed | recovered changed
  | compatibilityMoved _ changed | registrationRefused _ _ changed
  | registered _ _ _ _ _ _ _ changed | submitted _ _ _ _ changed | undecided _ _ _ changed
  | decided _ _ _ _ _ _ changed | issued _ _ _ _ _ _ changed | quarantined _ _ _ _ changed
  | releaseRefused _ _ changed | evidenceRevoked _ _ changed =>
      have same := congrArg Control.records changed
      exact .inl (kept same)

theorem step_record_kept {op : Op} {reply : Reply} (moved : engine.step op = some (reply, next))
    (online : op.online = true) {transition : TransitionId} {record : PromotionRecord}
    (held : engine.state.records[transition]? = some record)
    (room : next.state.records ≠ engine.state.records → ¬engine.Displaces transition) :
    next.state.records[transition]? = some record := by
  by_cases same : next.state.records = engine.state.records
  · rw [same, held]
  · obtain ⟨made, named, changed⟩ := (step_record_store moved online).resolve_left same
    have stays := room same
    rw [Displaces, not_or, not_and] at stays
    rw [← named] at stays
    rw [changed]
    unfold putBounded
    rw [OrderedMaps.getElem?_insert_ne _ _ (Ne.symm stays.1)]
    split
    · rename_i full
      unfold eraseFirst
      cases oldest : engine.state.records.minKey? with
      | none => exact held
      | some key =>
          have apart : transition ≠ key := by
            rintro rfl
            exact stays.2 full oldest
          simp only [OrderedMaps.getElem?_erase_ne _ apart, held]
    · exact held

theorem step_settles (sound : engine.Sound) {op : Op} {reply : Reply}
    (moved : engine.step op = some (reply, next)) (online : op.online = true)
    {request : PromotionRequestId} {record : IdempotencyRecord} {decision : PromotionDecision}
    (bound : next.control.idempotency[request]? = some record)
    (stored : next.control.decisions[record.decision]? = some decision)
    (settled : decision.outcome = .promotionCommitted) :
    (∃ result, reply = .committed (.ok result) ∧ result.outcome = .promotionCommitted ∧
        result.record.decision = record.decision) ∨
      ∃ earlier held, engine.control.idempotency[request]? = some earlier ∧
        earlier.decision = record.decision ∧
        engine.control.decisions[record.decision]? = some held ∧
        held.outcome = .promotionCommitted := by
  have reported {plan : PromotionPlan} {now : UInt64} {result : CommitResult}
      (commits : engine.step (.commit plan now) = some (.committed (.ok result), next))
      (granted : result.outcome = .promotionCommitted) :
      result.record.decision = plan.decision := by
    obtain ⟨same, time, named, decided, _⟩ := step_promotes commits granted
    cases named
    exact decided
  cases earlier : engine.control.idempotency[request]? with
  | none =>
      obtain ⟨asked, now, opened, result, _, _, _, opens, _, held, rfl⟩ :=
        step_binds sound moved earlier bound
      have same : opened = decision := Option.some.inj (held.symm.trans stored)
      exact absurd (same ▸ settled) opens.uncommitted
  | some binding =>
      obtain ⟨changed, rebound, change⟩ := step_binding sound moved earlier
      rw [bound, Option.some.injEq] at rebound
      subst rebound
      have named : (∃ result, reply = .committed (.ok result) ∧
          result.outcome = .promotionCommitted ∧ result.record.decision = record.decision) ∨
          binding.decision = record.decision := by
        cases change with
        | kept => exact .inr rfl
        | @applied plan now _ result _ _ _ =>
            by_cases granted : result.outcome = .promotionCommitted
            · exact .inl ⟨result, rfl, granted, reported moved granted⟩
            · cases step_effect moved with
              | idle quiet _ => simp [Reply.confirmsChange] at quiet
              | committed _ acknowledged _ _ _ _ => exact absurd acknowledged granted
              | closed released _ _ _ _ changed =>
                  have same : next.control.idempotency = engine.control.idempotency := by
                    rw [changed]
                    cases released <;> rfl
                  rw [same, earlier, Option.some.injEq] at bound
                  exact .inr (congrArg IdempotencyRecord.decision bound)
      rcases named with reports | named
      · exact .inl reports
      rw [← named] at stored ⊢
      obtain ⟨held, present⟩ := held_decision (sound.coherent.idempotency _ _ earlier).2
      obtain ⟨changed, kept, change⟩ := step_decision sound moved present
      rw [stored, Option.some.injEq] at kept
      subst kept
      cases change with
      | kept => exact .inr ⟨binding, decision, rfl, rfl, present, settled⟩
      | restored => simp [Op.online] at online
      | @refused plan now result _ _ planned held_plan rewrites =>
          rcases rewrites.uncommitted with uncommitted | same
          · exact absurd settled uncommitted
          · rw [planned, Std.ExtTreeMap.getD_eq_getD_getElem?, present, Option.getD_some] at same
            exact .inr ⟨binding, held, rfl, rfl, present, same ▸ settled⟩
      | @applied plan now _ result _ _ planned _ acknowledged _ =>
          exact .inl ⟨result, rfl, acknowledged, (reported moved acknowledged).trans planned⟩

theorem step_replays (sound : engine.Sound) {op : Op} {result : EvaluationResult}
    (moved : engine.step op = some (.evaluated (.ok result), next))
    (settled : result.decision.outcome = .promotionCommitted) :
    ∃ request now decision, op = .evaluate request now ∧
      engine.Binds request.request decision (computeRequestDigest request) ∧
      engine.control.decisions[decision]? = some result.decision := by
  have performed := (step_eq_some moved).1
  cases op with
  | evaluate request now =>
      rcases evaluate_answers sound moved with ⟨decision, binds, held⟩ | ⟨decision, opens⟩
      · exact ⟨request, now, decision, rfl, binds, held⟩
      · rw [opens.answered] at settled
        exact absurd settled opens.uncommitted
  | publishPolicy policy | reload advance =>
      rw [perform] at performed
      obtain ⟨outcome, _, answered⟩ := Option.bind_eq_some_iff.mp performed
      simp [answerWith] at answered
  | restart _ | recoverInFlight | registerArtifact _ _ | submitEvidence _
  | commit _ _ | quarantine _ _ _ _ | releaseQuarantine _ _ _ _ | revoke _ _ _ _ _ _ _
  | supersede _ _ _ _ _ | retire _ _ _ | revokeEvidence _ _ _ | setSecurityVeto _ _ _
  | setDependencyVeto _ _ _ | setCompatibilityGeneration _ | closeAdmission | openAdmission =>
      simp [perform, answerWith] at performed

end Engine

end ArtifactPromotion
