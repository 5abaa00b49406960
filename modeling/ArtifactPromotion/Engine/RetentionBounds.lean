import ArtifactPromotion.Engine.Isolation
import ArtifactPromotion.Engine.Requests
import ArtifactPromotion.Engine.TrustFlags

/-! Whether the retained plans, records, reservations, decisions and events stay within their
configured bounds. -/

namespace ArtifactPromotion

open Runs

section

variable {κ ν : Type} [Ord κ] [Std.TransOrd κ]

theorem eraseFirst_size {map : OrderedMap κ ν} (nonempty : 0 < map.size) :
    (eraseFirst map).size = map.size - 1 := by
  unfold eraseFirst
  cases first : map.minKey? with
  | none =>
      rw [Std.ExtTreeMap.minKey?_eq_none_iff] at first
      rw [first, Std.ExtTreeMap.size_empty] at nonempty
      omega
  | some key =>
      dsimp only
      rw [Std.ExtTreeMap.size_erase, if_pos (Std.ExtTreeMap.contains_minKey? first)]

theorem putBounded_size {bound : UInt64} {map : OrderedMap κ ν} {key : κ} {value : ν}
    (positive : 0 < bound.toNat) (fits : map.size ≤ bound.toNat) :
    (putBounded bound map key value).size ≤ bound.toNat := by
  unfold putBounded
  refine Std.ExtTreeMap.size_insert_le.trans ?_
  split
  · rename_i full
    rw [eraseFirst_size (by omega)]
    omega
  · omega

end

structure CoordinatorState.Within (config : EngineConfig) (state : CoordinatorState) : Prop where
  plans : state.plans.size ≤ config.maxPlansRetained.toNat
  records : state.records.size ≤ config.maxRecordsRetained.toNat
  pending : state.pending.size ≤ config.maxPendingPromotions.toNat
  history : state.history.size ≤ config.maxHistoryEvents.toNat

theorem EngineConfig.bounds_positive {config : EngineConfig} (valid : config.valid = true) :
    0 < config.maxPlansRetained.toNat ∧ 0 < config.maxRecordsRetained.toNat ∧
      0 < config.maxHistoryEvents.toNat := by
  unfold EngineConfig.valid at valid
  simp only [Bool.and_eq_true, decide_eq_true_eq, gt_iff_lt, UInt64.lt_iff_toNat_lt,
    UInt64.toNat_zero] at valid
  omega

namespace CoordinatorState.Within

variable {config : EngineConfig} {state : CoordinatorState}

theorem recordEvent (within : state.Within config) (valid : config.valid = true)
    (event : HistoryEvent) : (state.recordEvent config event).Within config := by
  have positive := (EngineConfig.bounds_positive valid).2.2
  exact ⟨within.plans, within.records, within.pending, putBounded_size positive within.history⟩

theorem storeRecord (within : state.Within config) (valid : config.valid = true)
    (record : PromotionRecord) : (state.storeRecord config record).Within config := by
  have positive := (EngineConfig.bounds_positive valid).2.1
  exact ⟨within.plans, putBounded_size positive within.records, within.pending, within.history⟩

theorem releasePending (within : state.Within config) (id : ArtifactId) :
    (state.releasePending id).Within config :=
  ⟨within.plans, within.records, Std.ExtTreeMap.size_erase_le.trans within.pending, within.history⟩

theorem storeEvent (within : state.Within config) (event : HistoryEvent)
    (room : state.history.size < config.maxHistoryEvents.toNat) :
    (state.storeEvent event).Within config :=
  ⟨within.plans, within.records, within.pending, Std.ExtTreeMap.size_insert_le.trans room⟩

end CoordinatorState.Within

namespace Engine

variable {engine next : Engine}

theorem publishPolicy_within {policy : PromotionPolicy} {outcome : Result PolicyGeneration × Engine}
    (within : engine.state.Within engine.config) (valid : engine.config.valid = true)
    (published : engine.publishPolicy policy = some outcome) :
    outcome.2.state.Within engine.config := by
  obtain ⟨validation, _, rfl⟩ := Option.map_eq_some_iff.mp published
  cases validation with
  | error status => exact within
  | ok done =>
      dsimp only
      split
      · exact within
      · apply CoordinatorState.Within.recordEvent _ valid
        exact ⟨within.plans, within.records, within.pending, within.history⟩

theorem submitEvidence_within (within : engine.state.Within engine.config)
    (valid : engine.config.valid = true) (submission : EvidenceSubmission) :
    (engine.submitEvidence submission).2.state.Within engine.config := by
  have added (replaced : Option (EvidenceId × EvidenceRecord)) :
      (engine.addEvidence submission replaced).2.state.Within engine.config := by
    unfold addEvidence
    cases replaced with
    | none =>
        apply CoordinatorState.Within.recordEvent _ valid
        exact ⟨within.plans, within.records, within.pending, within.history⟩
    | some previous =>
        have noted : (supersedeEvidence { engine.state with
            evidenceGenerator := engine.state.evidenceGenerator.advance }.advanceSequence
            engine.config previous (submissionRecord submission engine.state.evidenceGenerator.next
              previous.2.generation.next engine.state.commitSequence.next)).Within
              engine.config := by
          apply CoordinatorState.Within.recordEvent _ valid
          exact ⟨within.plans, within.records, within.pending, within.history⟩
        apply CoordinatorState.Within.recordEvent _ valid
        exact ⟨noted.plans, noted.records, noted.pending, noted.history⟩
  unfold submitEvidence
  split
  · exact within
  split
  · exact within
  split
  · exact within
  split
  · exact within
  dsimp only
  split
  · exact within
  split
  · exact within
  · exact added _

theorem issuePlan_within {config : EngineConfig} {state : CoordinatorState}
    (within : state.Within config) (valid : config.valid = true) (request : PromotionRequest)
    (artifact : ArtifactRecord) (evaluation : GateEvaluation) (now : UInt64) :
    (issuePlan config state request artifact evaluation now).state.Within config := by
  have positive := (EngineConfig.bounds_positive valid).1
  have room : (if state.plans.size ≥ config.maxPlansRetained.toNat then eraseFirst state.plans
      else state.plans).size < config.maxPlansRetained.toNat := by
    have plans := within.plans
    split
    · rw [eraseFirst_size (by omega)]
      omega
    · omega
  unfold issuePlan
  dsimp only
  generalize (if state.plans.size ≥ config.maxPlansRetained.toNat then eraseFirst state.plans
    else state.plans) = kept at room ⊢
  split
  · rename_i reservable
    refine ⟨Std.ExtTreeMap.size_insert_le.trans room, within.records, ?_, within.history⟩
    simp only [Bool.or_eq_true, decide_eq_true_eq] at reservable
    rcases reservable with free | held
    · exact Std.ExtTreeMap.size_insert_le.trans free
    · exact (OrderedMaps.size_insert_held _ held).trans_le within.pending
  · exact ⟨Nat.le_of_lt room, within.records, within.pending, within.history⟩

theorem decideTransition_within {config : EngineConfig} {state : CoordinatorState}
    (within : state.Within config) (valid : config.valid = true) (request : PromotionRequest)
    (artifact : ArtifactRecord) (now : UInt64) (decision : PromotionDecision) :
    (decideTransition config state request artifact now decision).state.Within config := by
  unfold decideTransition
  split
  · split
    · exact within
    · exact within
  split
  · exact within
  split
  · exact within
  dsimp only
  split
  · exact within
  · exact issuePlan_within within valid _ _ _ _

theorem evaluate_within (within : engine.state.Within engine.config)
    (valid : engine.config.valid = true) (request : PromotionRequest) (now : UInt64) :
    (engine.evaluate request now).2.state.Within engine.config := by
  have opened : engine.state.openDecision.Within engine.config :=
    ⟨within.plans, within.records, within.pending, within.history⟩
  have fresh : (engine.evaluateFresh request now).2.state.Within engine.config := by
    unfold evaluateFresh
    dsimp only
    split
    · exact ⟨within.plans, within.records, within.pending, within.history⟩
    rename_i artifact _
    split
    · exact ⟨within.plans, within.records, within.pending, within.history⟩
    · have decided := decideTransition_within opened valid request artifact now
        (engine.fullDecision request artifact now)
      apply CoordinatorState.Within.recordEvent _ valid
      exact ⟨decided.plans, decided.records, decided.pending, decided.history⟩
  unfold evaluate
  split
  · exact within
  split
  · exact within
  split
  · exact fresh
  split
  · exact within
  split
  · exact within
  · exact fresh

theorem closeCommit_within (within : engine.state.Within engine.config) (plan : PromotionPlan)
    (outcome : PromotionOutcome) (decision : PromotionDecision) (released : Bool) :
    (engine.closeCommit plan outcome decision released).2.state.Within engine.config := by
  have decided : { engine.state with
      decisions := engine.state.decisions.insert plan.decision decision }.Within engine.config :=
    ⟨within.plans, within.records, within.pending, within.history⟩
  cases released with
  | false => exact decided
  | true => exact decided.releasePending plan.artifact

theorem applyCommit_within (within : engine.state.Within engine.config)
    (valid : engine.config.valid = true) (plan : PromotionPlan) (artifact : ArtifactRecord)
    (decision : PromotionDecision) (now : UInt64) :
    (engine.applyCommit plan artifact decision now).2.state.Within engine.config := by
  have recorded : (recordTransition engine.config engine.state.advanceSequence plan artifact
      (commitRecord engine.state.advanceSequence plan artifact.stage now)).Within engine.config := by
    apply CoordinatorState.Within.storeRecord _ valid
    exact ⟨within.plans, within.records, within.pending, within.history⟩
  apply CoordinatorState.Within.recordEvent _ valid
  apply CoordinatorState.Within.releasePending
  exact ⟨recorded.plans, recorded.records, recorded.pending, recorded.history⟩

theorem revalidate_within (within : engine.state.Within engine.config)
    (valid : engine.config.valid = true) (plan : PromotionPlan) (artifact : ArtifactRecord)
    (decision : PromotionDecision) (now : UInt64) :
    (engine.revalidate plan artifact decision now).2.state.Within engine.config := by
  unfold revalidate
  dsimp only
  split
  · exact closeCommit_within within _ _ _ _
  split
  · exact closeCommit_within within _ _ _ _
  split
  · exact closeCommit_within within _ _ _ _
  · exact applyCommit_within within valid _ _ _ _

theorem commitStored_within (within : engine.state.Within engine.config)
    (valid : engine.config.valid = true) (plan : PromotionPlan) (now : UInt64) :
    (engine.commitStored plan now).2.state.Within engine.config := by
  have touched : (engine.touch plan).state.Within (engine.touch plan).config :=
    ⟨within.plans, within.records, within.pending, within.history⟩
  unfold commitStored
  dsimp only
  split
  · exact touched
  split
  · exact closeCommit_within touched plan _ _ _
  split
  · exact closeCommit_within touched plan _ _ _
  · exact revalidate_within touched valid plan _ _ _

theorem commit_within (within : engine.state.Within engine.config)
    (valid : engine.config.valid = true) (plan : PromotionPlan) (now : UInt64) :
    (engine.commit plan now).2.state.Within engine.config := by
  unfold commit
  split
  · exact within
  split
  · exact within
  split
  · exact within
  split
  · exact within
  split
  · apply CoordinatorState.Within.releasePending
    exact ⟨within.plans, within.records, within.pending, within.history⟩
  · exact commitStored_within within valid plan now

theorem quarantine_within (within : engine.state.Within engine.config)
    (valid : engine.config.valid = true) (id : ArtifactId) (reasonClass detail : Text)
    (authority : CoordinatorAuthority) :
    (engine.quarantine id reasonClass detail authority).2.state.Within engine.config := by
  have held (record : ArtifactRecord) :
      ((engine.state.advanceSequence.replaceCurrent id record).releasePending id).Within
        engine.config := by
    apply CoordinatorState.Within.releasePending
    exact ⟨within.plans, within.records, within.pending, within.history⟩
  unfold quarantine
  split
  · exact within
  split
  · exact within
  split
  · exact within
  split
  · exact within
  rename_i artifact _
  split
  · exact within
  split
  · exact within
  split
  · exact within
  · have noted := held (quarantinedArtifact engine.state.advanceSequence artifact reasonClass detail)
    apply CoordinatorState.Within.recordEvent _ valid
    exact ⟨noted.plans, noted.records, noted.pending, noted.history⟩

theorem releaseQuarantine_within (within : engine.state.Within engine.config)
    (valid : engine.config.valid = true) (id : ArtifactId) (authority : CoordinatorAuthority)
    (now later : UInt64) :
    (engine.releaseQuarantine id authority now later).2.state.Within engine.config := by
  have released (state : CoordinatorState) (within : state.Within engine.config)
      (artifact : ArtifactRecord) (request : PromotionRequest) (decision : PromotionDecision) :
      (engine.applyRelease state id artifact request decision later).2.state.Within
        engine.config := by
    have stored : ({ state.advanceSequence.replaceCurrent id
        (releasedArtifact state.advanceSequence artifact) with
        transitionGenerator := state.transitionGenerator.advance : CoordinatorState }.storeRecord
          engine.config (releaseRecord state.advanceSequence artifact request decision later)).Within
          engine.config := by
      apply CoordinatorState.Within.storeRecord _ valid
      exact ⟨within.plans, within.records, within.pending, within.history⟩
    apply CoordinatorState.Within.recordEvent _ valid
    exact ⟨stored.plans, stored.records, stored.pending, stored.history⟩
  unfold releaseQuarantine
  split
  · exact within
  split
  · exact within
  split
  · exact within
  split
  · exact within
  dsimp only
  split
  · exact ⟨within.plans, within.records, within.pending, within.history⟩
  · apply released
    exact ⟨within.plans, within.records, within.pending, within.history⟩

theorem Applied.within {id : ArtifactId} {now : UInt64} (applied : engine.Applied id now next)
    (within : engine.state.Within engine.config) (valid : engine.config.valid = true) :
    next.state.Within engine.config := by
  rcases applied with rfl | ⟨changed, source, decision, note, kind, outcome, rfl⟩
  · exact within
  · have replaced : ((engine.state.advanceSequence.replaceCurrent id changed).releasePending
        id).Within engine.config := by
      apply CoordinatorState.Within.releasePending
      exact ⟨within.plans, within.records, within.pending, within.history⟩
    have stored : ({ (engine.state.advanceSequence.replaceCurrent id changed).releasePending id with
        transitionGenerator := engine.state.transitionGenerator.advance
        : CoordinatorState }.storeRecord engine.config (trustRecord engine.state.advanceSequence
          changed source changed.stage decision now note)).Within engine.config := by
      apply CoordinatorState.Within.storeRecord _ valid
      exact ⟨replaced.plans, replaced.records, replaced.pending, replaced.history⟩
    apply CoordinatorState.Within.recordEvent _ valid
    exact ⟨stored.plans, stored.records, stored.pending, stored.history⟩

theorem revokeEvidence_within (within : engine.state.Within engine.config)
    (valid : engine.config.valid = true) (id : EvidenceId) (reason : Text)
    (authority : CoordinatorAuthority) :
    (engine.revokeEvidence id reason authority).2.state.Within engine.config := by
  unfold revokeEvidence
  split
  · exact within
  split
  · exact within
  split
  · exact within
  split
  · exact within
  · apply CoordinatorState.Within.recordEvent _ valid
    exact ⟨within.plans, within.records, Std.ExtTreeMap.size_filter_le_size.trans within.pending,
      within.history⟩

theorem releaseOne_sizes (note : PendingTransition → Text) (state : CoordinatorState)
    (id : ArtifactId) :
    (releaseOne note state id).plans = state.plans ∧
      (releaseOne note state id).records = state.records ∧
      (releaseOne note state id).pending.size ≤ state.pending.size ∧
      (releaseOne note state id).history.size ≤ state.history.size + 1 := by
  unfold releaseOne
  split
  · exact ⟨rfl, rfl, Nat.le_refl _, Nat.le_succ _⟩
  · exact ⟨rfl, rfl, Std.ExtTreeMap.size_erase_le, Std.ExtTreeMap.size_insert_le⟩

theorem releaseAll_within {config : EngineConfig} {state : CoordinatorState}
    (within : state.Within config)
    (room : state.history.size + state.pending.size ≤ config.maxHistoryEvents.toNat)
    (note : PendingTransition → Text) : (releaseAll note state).Within config := by
  have walked (keys : List ArtifactId) (state : CoordinatorState) (within : state.Within config)
      (room : state.history.size + keys.length ≤ config.maxHistoryEvents.toNat) :
      (keys.foldl (releaseOne note) state).Within config := by
    induction keys generalizing state with
    | nil => exact within
    | cons id rest ih =>
        obtain ⟨plans, records, pending, history⟩ := releaseOne_sizes note state id
        rw [List.length_cons] at room
        rw [List.foldl_cons]
        apply ih
        · constructor
          · rw [plans]
            exact within.plans
          · rw [records]
            exact within.records
          · exact pending.trans within.pending
          · omega
        · omega
  apply walked _ _ within
  rw [Std.ExtTreeMap.length_keys]
  exact room

theorem addRevision_within {state : CoordinatorState} (within : state.Within engine.config)
    (valid : engine.config.valid = true) (registration : ArtifactRegistration)
    (revision : ArtifactRevision) (now : UInt64)
    (room : state.findCurrent registration.id = none ∨
      state.history.size < engine.config.maxHistoryEvents.toNat) :
    (engine.addRevision state registration revision now).2.state.Within engine.config := by
  have superseded : (supersedePrevious state revision registration.id).Within engine.config := by
    unfold supersedePrevious
    split
    · exact within
    · rename_i previous found
      have room : state.history.size < engine.config.maxHistoryEvents.toNat := by
        rcases room with absent | room
        · rw [absent] at found
          cases found
        · exact room
      have replaced : (state.advanceSequence.replaceCurrent registration.id
          (supersedeByRegistration state.advanceSequence revision previous registration.id)).Within
          engine.config := ⟨within.plans, within.records, within.pending, within.history⟩
      exact replaced.storeEvent _ room
  apply CoordinatorState.Within.recordEvent _ valid
  exact ⟨superseded.plans, superseded.records, superseded.pending, superseded.history⟩

structure RetentionBounded (engine : Engine) : Prop where
  within : engine.state.Within engine.config
  decisions : engine.state.decisions.size ≤ engine.config.maxDecisionsRetained.toNat

/-- The operations that pass their checks and write into a store that has no room left, or fewer
places left than they write entries. -/
inductive Overruns (engine : Engine) : Op → Prop
  | evaluate {request now} (passes : engine.Passes request)
      (unbound : engine.state.idempotency[request.request]? = none)
      (full : engine.config.maxDecisionsRetained.toNat ≤ engine.state.decisions.size) :
      Overruns engine (.evaluate request now)
  | release {op} (evaluates : engine.EvaluatesRelease op)
      (full : engine.config.maxDecisionsRetained.toNat ≤ engine.state.decisions.size) :
      Overruns engine op
  | restart {epoch} (advances : engine.state.epoch.value < epoch.value)
      (full : engine.config.maxHistoryEvents.toNat <
        engine.state.history.size + engine.state.pending.size) :
      Overruns engine (.restart epoch)
  | recover (full : engine.config.maxHistoryEvents.toNat <
        engine.state.history.size + engine.state.pending.size) :
      Overruns engine .recoverInFlight
  | overtake {registration now} (enrolls : engine.Enrolls registration)
      (known : engine.state.chain registration.id ≠ [])
      (full : engine.config.maxHistoryEvents.toNat ≤ engine.state.history.size) :
      Overruns engine (.registerArtifact registration now)

theorem restart_within (within : engine.state.Within engine.config) {epoch : CoordinatorEpoch}
    (fits : ¬engine.Overruns (.restart epoch)) :
    (engine.restart epoch).2.state.Within engine.config := by
  unfold restart
  split
  · exact within
  · rename_i accepted
    have accepted : epoch.valid = true ∧ engine.state.epoch.value < epoch.value := by
      simpa using accepted
    apply releaseAll_within
    · exact ⟨within.plans, within.records, within.pending, within.history⟩
    · by_contra full
      exact fits (.restart accepted.2 (Nat.lt_of_not_le full))

theorem recoverInFlight_within (within : engine.state.Within engine.config)
    (fits : ¬engine.Overruns .recoverInFlight) :
    engine.recoverInFlight.2.state.Within engine.config := by
  have room : engine.state.history.size + engine.state.pending.size ≤
      engine.config.maxHistoryEvents.toNat := by
    by_contra full
    exact fits (.recover (Nat.lt_of_not_le full))
  unfold recoverInFlight
  dsimp only
  split
  · exact releaseAll_within within room _
  · exact releaseAll_within within room _

theorem registerArtifact_within (within : engine.state.Within engine.config)
    (valid : engine.config.valid = true) {registration : ArtifactRegistration} {now : UInt64}
    {reply : Reply} (moved : engine.step (.registerArtifact registration now) = some (reply, next))
    (fits : ¬engine.Overruns (.registerArtifact registration now)) :
    next.state.Within engine.config := by
  have performed := (step_eq_some moved).1
  simp only [perform, answerWith, Option.some.injEq, Prod.mk.injEq] at performed
  obtain ⟨answer, rfl⟩ := performed
  by_cases enrolls : engine.Enrolls registration
  · have room : (allocateRevision engine.state registration.id).findCurrent registration.id = none ∨
        (allocateRevision engine.state registration.id).history.size <
          engine.config.maxHistoryEvents.toNat := by
      by_cases unknown : engine.state.chain registration.id = []
      · left
        rw [CoordinatorState.findCurrent, allocateRevision_chain, unknown]
        rfl
      · right
        by_contra full
        exact fits (.overtake enrolls unknown (Nat.le_of_not_lt full))
    have allocated : (allocateRevision engine.state registration.id).Within engine.config :=
      ⟨within.plans, within.records, within.pending, within.history⟩
    unfold registerArtifact
    split
    · exact within
    split
    · exact within
    split
    · exact within
    split
    · exact within
    dsimp only
    split
    · exact allocated
    split
    · exact allocated
    · exact addRevision_within allocated valid _ _ _ room
  · cases answered : (engine.registerArtifact registration now).1 with
    | ok record =>
        rw [answered] at answer
        subst answer
        exact absurd (registered_enrolls moved) enrolls
    | error status =>
        rcases registerArtifact_refused valid answered with same | allocated
        · rw [same]
          exact within
        · rw [allocated]
          exact ⟨within.plans, within.records, within.pending, within.history⟩

theorem reload_within (sound : engine.Sound) (within : engine.state.Within engine.config)
    {advance : Bool} {reply : Reply} (moved : engine.step (.reload advance) = some (reply, next)) :
    next.state.Within engine.config := by
  rcases reload_cases moved with ⟨rfl, _⟩ | ⟨_, image, decoded, installed⟩
  · exact within
  · have image_eq := decoded_image sound decoded
    rw [StatePersistence.restoredState_eq] at image_eq
    subst image_eq
    rw [installed]
    constructor
    case plans =>
      exact Std.ExtTreeMap.size_map.trans_le within.plans
    case records =>
      exact Std.ExtTreeMap.size_map.trans_le within.records
    case pending =>
      exact (Nat.le_of_eq Std.ExtTreeMap.size_empty).trans (Nat.zero_le _)
    case history =>
      exact Std.ExtTreeMap.size_map.trans_le within.history

theorem setVeto_within (within : engine.state.Within engine.config) (id : ArtifactId)
    (message : String) (change : VetoState → VetoState) :
    (engine.setVeto id message change).2.state.Within engine.config := by
  unfold setVeto
  split
  · exact within
  · exact ⟨within.plans, within.records, within.pending, within.history⟩

theorem step_within (sound : engine.Sound) (within : engine.state.Within engine.config)
    (valid : engine.config.valid = true) {op : Op} {reply : Reply}
    (moved : engine.step op = some (reply, next)) (fits : ¬engine.Overruns op) :
    next.state.Within engine.config := by
  have performed := (step_eq_some moved).1
  cases op with
  | publishPolicy policy =>
      rw [perform] at performed
      obtain ⟨outcome, published, answered⟩ := Option.bind_eq_some_iff.mp performed
      rw [answerWith_after answered]
      exact publishPolicy_within within valid published
  | reload advance => exact reload_within sound within moved
  | restart epoch =>
      rw [answerWith_after performed]
      exact restart_within within fits
  | recoverInFlight =>
      rw [answerWith_after performed]
      exact recoverInFlight_within within fits
  | registerArtifact registration now => exact registerArtifact_within within valid moved fits
  | submitEvidence submission =>
      rw [answerWith_after performed]
      exact submitEvidence_within within valid submission
  | evaluate request now =>
      rw [answerWith_after performed]
      exact evaluate_within within valid request now
  | commit plan now =>
      rw [answerWith_after performed]
      exact commit_within within valid plan now
  | quarantine id reasonClass detail authority =>
      rw [answerWith_after performed]
      exact quarantine_within within valid id reasonClass detail authority
  | releaseQuarantine id authority now later =>
      rw [answerWith_after performed]
      exact releaseQuarantine_within within valid id authority now later
  | revoke id decision reasonClass detail authority cause now =>
      rw [answerWith_after performed]
      exact (revoke_applied id decision reasonClass detail authority cause now).within within valid
  | supersede id successor reason authority now =>
      rw [answerWith_after performed]
      exact (supersede_applied id successor reason authority now).within within valid
  | retire id authority now =>
      rw [answerWith_after performed]
      exact (retire_applied id authority now).within within valid
  | revokeEvidence id reason authority =>
      rw [answerWith_after performed]
      exact revokeEvidence_within within valid id reason authority
  | setSecurityVeto id active reason | setDependencyVeto id active reason =>
      rw [answerWith_after performed]
      exact setVeto_within within id _ _
  | setCompatibilityGeneration generation =>
      rw [answerWith_after performed]
      unfold setCompatibilityGeneration
      split
      · exact within
      split
      · exact within
      · exact ⟨within.plans, within.records,
          (Nat.le_of_eq Std.ExtTreeMap.size_empty).trans (Nat.zero_le _), within.history⟩
  | closeAdmission | openAdmission =>
      simp only [perform, Option.some.injEq, Prod.mk.injEq] at performed
      rw [← performed.2]
      exact within

theorem releaseQuarantine_idle {id : ArtifactId} {authority : CoordinatorAuthority}
    {now later : UInt64}
    (quiet : ¬engine.EvaluatesRelease (.releaseQuarantine id authority now later)) :
    (engine.releaseQuarantine id authority now later).2 = engine := by
  unfold releaseQuarantine
  split
  · rfl
  rename_i admitted
  split
  · rfl
  rename_i artifact found
  split
  · rfl
  rename_i held
  split
  · rfl
  rename_i native
  exact absurd ⟨id, authority, now, later, artifact, rfl, by simpa using admitted, found,
    by simpa using held, by simpa using native⟩ quiet

theorem step_opens (sound : engine.Sound) {op : Op} {reply : Reply}
    (moved : engine.step op = some (reply, next)) :
    next.control.decisionGenerator = engine.control.decisionGenerator ∨
      (∃ request now, op = .evaluate request now ∧ engine.Passes request ∧
        engine.state.idempotency[request.request]? = none) ∨ engine.EvaluatesRelease op := by
  have asked {request : PromotionRequest} {now : UInt64} {decision : PromotionDecision}
      {result : EvaluationResult} (opens : engine.Opens request decision result) :
      ∃ other later, Op.evaluate request now = .evaluate other later ∧ engine.Passes other ∧
        engine.state.idempotency[other.request]? = none :=
    ⟨request, now, rfl, ⟨opens.admitted, opens.wellFormed⟩, unbound_of_unseen sound opens.unseen⟩
  have released {id : ArtifactId} {authority : CoordinatorAuthority} {now later : UInt64}
      (answered : next = (engine.releaseQuarantine id authority now later).2) :
      next.control.decisionGenerator = engine.control.decisionGenerator ∨
        engine.EvaluatesRelease (.releaseQuarantine id authority now later) := by
    by_cases evaluates : engine.EvaluatesRelease (.releaseQuarantine id authority now later)
    · exact .inr evaluates
    · left
      rw [answered, releaseQuarantine_idle evaluates]
  have performed := (step_eq_some moved).1
  cases step_effect moved with
  | undecided _ opens _ _ | decided _ _ opens _ _ _ _ | issued _ _ _ _ opens _ _ =>
      exact .inr (.inl (asked opens))
  | releaseRefused | released => exact (released (answerWith_after performed)).imp_right .inr
  | reloaded decoded changed => exact .inl (image_reloaded sound decoded changed).decisionGenerator
  | closed released _ _ _ _ changed =>
      left
      rw [changed]
      cases released with
      | false => rfl
      | true => rfl
  | idle _ changed | published _ _ changed | restarted _ changed | recovered changed
  | compatibilityMoved _ changed | registrationRefused _ _ changed
  | registered _ _ _ _ _ _ _ changed | submitted _ _ _ _ changed | committed _ _ _ _ _ changed
  | quarantined _ _ _ _ changed | revoked _ _ _ _ _ _ changed | superseded _ _ _ _ _ _ changed
  | retired _ _ _ changed | evidenceRevoked _ _ changed =>
      have same := congrArg Control.decisionGenerator changed
      exact .inl same

theorem step_decisions_bounded (sound : engine.Sound)
    (bounded : engine.state.decisions.size ≤ engine.config.maxDecisionsRetained.toNat) {op : Op}
    {reply : Reply} (moved : engine.step op = some (reply, next)) (fits : ¬engine.Overruns op) :
    next.state.decisions.size ≤ engine.config.maxDecisionsRetained.toNat := by
  have before : engine.state.decisions.size = _ := sound.coherent.decisionsCounted
  have after : next.state.decisions.size = _ := (sound_step sound moved).coherent.decisionsCounted
  have opened (room : engine.state.decisions.size < engine.config.maxDecisionsRetained.toNat) :
      next.state.decisions.size ≤ engine.config.maxDecisionsRetained.toNat := by
    have counter := IdentityGenerator.advance_counter (sound.coherent.decisionRoom sound.roomy)
    rcases step_decisionGenerator sound moved with same | advanced
    · rw [same] at after
      omega
    · rw [advanced, counter] at after
      omega
  rcases step_opens sound moved with same | ⟨request, now, rfl, passes, unbound⟩ | evaluates
  · rw [same, ← before] at after
    rw [after]
    exact bounded
  · apply opened
    by_contra full
    exact fits (.evaluate passes unbound (Nat.le_of_not_lt full))
  · apply opened
    by_contra full
    exact fits (.release evaluates (Nat.le_of_not_lt full))

theorem constructed_retention_bounded (constructed : Constructed engine) :
    engine.RetentionBounded := by
  obtain ⟨config, epoch, salting, naming, rfl⟩ := constructed
  have empty {κ ν : Type} [Ord κ] [Std.TransOrd κ] (bound : Nat) :
      (∅ : OrderedMap κ ν).size ≤ bound :=
    (Nat.le_of_eq Std.ExtTreeMap.size_empty).trans (Nat.zero_le _)
  exact ⟨⟨empty _, empty _, empty _, empty _⟩, empty _⟩

theorem step_retention_bounded (sound : engine.Sound) (valid : engine.config.valid = true)
    (bounded : engine.RetentionBounded) {op : Op} {reply : Reply}
    (moved : engine.step op = some (reply, next)) (fits : ¬engine.Overruns op) :
    next.RetentionBounded := by
  have config := step_config moved
  constructor
  case within =>
    rw [config]
    exact step_within sound bounded.within valid moved fits
  case decisions =>
    rw [config]
    exact step_decisions_bounded sound bounded.decisions moved fits

/-- In every run whose steps find room for what they write, all five stores are within their bounds
in every state. -/
theorem run_retention_bounded {start final : Engine} {trace : List EngineStep}
    (constructed : Constructed start) (run : EngineRun start trace final)
    (fits : ∀ step ∈ trace, ¬step.before.Overruns step.input) :
    start.RetentionBounded ∧ ∀ step ∈ trace, step.after.RetentionBounded := by
  have initially := constructed_retention_bounded constructed
  have valid : start.config.valid = true := by
    obtain ⟨config, epoch, salting, naming, rfl⟩ := constructed
    exact create_config_valid config epoch salting naming
  have bounded := run.throughout
    (fun engine => engine.Sound ∧ engine.config.valid = true ∧ engine.RetentionBounded)
    (fun step => ¬step.before.Overruns step.input)
    (fun step held allowed moved => ⟨sound_step held.1 moved, by rw [step_config moved, held.2.1],
      step_retention_bounded held.1 held.2.1 held.2.2 moved allowed⟩)
    ⟨constructed.sound, valid, initially⟩ fits
  exact ⟨initially, fun step executed => (bounded step executed).2.2.2⟩

def leavesRoom (trace : List EngineStep) : Bool :=
  trace.all fun step =>
    step.before.state.decisions.size < step.before.config.maxDecisionsRetained.toNat &&
      step.before.state.history.size + step.before.state.pending.size <
        step.before.config.maxHistoryEvents.toNat

theorem run_retention_bounded_promoted :
    ∃ (trace : List EngineStep) (final : Engine), EngineRun sampleEngine trace final ∧
      final.state.records.size = 1 ∧ (∀ step ∈ trace, ¬step.before.Overruns step.input) ∧
      ∀ step ∈ trace, step.after.RetentionBounded := by
  have evaluated : (play step sampleEngine promoteChoices).any (fun played =>
      leavesRoom played.1 && played.2.state.records.size == 1) = true := by
    rw [promote_played]
    decide +kernel
  obtain ⟨trace, final, run, checked⟩ := run_of_checked evaluated
  simp only [leavesRoom, Bool.and_eq_true, List.all_eq_true, beq_iff_eq,
    decide_eq_true_eq] at checked
  have fits : ∀ step ∈ trace, ¬step.before.Overruns step.input := by
    intro step executed overruns
    have room := checked.1 step executed
    generalize step.input = op at overruns
    cases overruns with
    | evaluate _ _ full | release _ full | restart _ full | recover full | overtake _ _ full => omega
  exact ⟨trace, final, run, checked.2, fits,
    (run_retention_bounded sampleEngine_constructed run fits).2⟩

def shortEngine : Engine :=
  create { maxDecisionsRetained := 1, maxHistoryEvents := 4 } ⟨1⟩ 1 2

def evaluateTwiceChoices : List (Engine → Op) :=
  [fun _ => .publishPolicy directPolicy,
    fun _ => .registerArtifact (sampleRegistration 1) 0,
    fun engine => .evaluate (engine.sampleRequest .promoted 1) 0,
    fun engine => .evaluate (engine.sampleRequest .retired 2) 0,
    fun _ => .restart ⟨2⟩]

def exceedsRetention (engine : Engine) : Bool :=
  decide (engine.config.maxDecisionsRetained.toNat < engine.state.decisions.size) &&
    decide (engine.config.maxHistoryEvents.toNat < engine.state.history.size)

/-- Two evaluations and a restart leave more decisions and events than a valid configuration
retains. -/
theorem evaluations_exceed_retention :
    ∃ engine : Engine, Reachable engine ∧ engine.config.valid = true ∧
      engine.config.maxDecisionsRetained.toNat < engine.state.decisions.size ∧
      engine.config.maxHistoryEvents.toNat < engine.state.history.size := by
  have evaluated : ((play step shortEngine evaluateTwiceChoices).any fun played =>
      exceedsRetention played.2) = true := by
    decide +kernel
  obtain ⟨engine, reachable, checked⟩ :=
    Reachable.of_play exceedsRetention ⟨_, _, _, _, rfl⟩ evaluated
  simp only [exceedsRetention, Bool.and_eq_true, decide_eq_true_eq] at checked
  exact ⟨engine, reachable, reachable.config_valid, checked.1, checked.2⟩

end Engine

end ArtifactPromotion
