import ArtifactPromotion.Engine.Reloads
import ArtifactPromotion.Engine.Revisions
import ArtifactPromotion.Library.BoundedLogs

/-! Which sequences an operation takes and which events it writes into the history. -/

namespace ArtifactPromotion

open Runs

abbrev History := OrderedMap CommitSequence HistoryEvent

def ArtifactRecord.sequences (artifact : ArtifactRecord) : List CommitSequence :=
  [artifact.createdSequence, artifact.promotionSequence, artifact.lastSequence,
    artifact.quarantine.sequence, artifact.revocation.sequence, artifact.supersession.sequence]

def EvidenceRecord.sequences (record : EvidenceRecord) : List CommitSequence :=
  [record.createdSequence, record.revocationSequence]

def PromotionPlan.sequences (plan : PromotionPlan) : List CommitSequence :=
  [plan.artifactSequence, plan.createdSequence]

/-- What is stored carries the same commit sequences as before, the history aside. -/
structure CoordinatorState.SameSequences (before after : CoordinatorState) : Prop where
  chains : ∀ id, (after.chain id).map ArtifactRecord.sequences =
    (before.chain id).map ArtifactRecord.sequences
  evidence : ∀ id : EvidenceId, after.evidence[id]?.map EvidenceRecord.sequences =
    before.evidence[id]?.map EvidenceRecord.sequences
  plans : ∀ id : PromotionPlanId, after.plans[id]?.map PromotionPlan.sequences =
    before.plans[id]?.map PromotionPlan.sequences
  records : ∀ id : TransitionId, after.records[id]?.map PromotionRecord.sequence =
    before.records[id]?.map PromotionRecord.sequence

/-- Events under consecutive sequences, written without a look at the bound. -/
inductive Noted : CommitSequence → History → CommitSequence → History → Prop
  | nil {clock log} : Noted clock log clock log
  | cons {clock log last final} (event : HistoryEvent) (sequenced : event.sequence = clock.next)
      (rest : Noted event.sequence (log.insert event.sequence event) last final) :
      Noted clock log last final

/-- What an operation does to the commit sequence and the history. -/
inductive Chronicle (bound : UInt64) (before after : CoordinatorState) : Op → Prop
  | quiet {op} (clock : after.commitSequence = before.commitSequence)
      (log : after.history = before.history) (stores : before.SameSequences after) :
      Chronicle bound before after op
  /-- One event, possibly after a sequence that something else carries. -/
  | single {op} (event : HistoryEvent)
      (sequenced : event.sequence = before.commitSequence.next ∨
        event.sequence = before.commitSequence.next.next)
      (clock : after.commitSequence = event.sequence)
      (log : after.history = putBounded bound before.history event.sequence event) :
      Chronicle bound before after op
  /-- A registration that supersedes: the first event ignores the bound. -/
  | succeeded {op} (first second : HistoryEvent)
      (sequenced : first.sequence = before.commitSequence.next)
      (following : second.sequence = first.sequence.next)
      (clock : after.commitSequence = second.sequence)
      (log : after.history = putBounded bound (before.history.insert first.sequence first)
        second.sequence second) :
      Chronicle bound before after op
  /-- A submission that replaces: the later event is written first. -/
  | replaced {op} (first second : HistoryEvent)
      (sequenced : second.sequence = before.commitSequence.next)
      (following : first.sequence = second.sequence.next)
      (clock : after.commitSequence = first.sequence)
      (log : after.history = putBounded bound
        (putBounded bound before.history first.sequence first) second.sequence second) :
      Chronicle bound before after op
  | noted {op} (stores : before.SameSequences after)
      (notes : Noted before.commitSequence before.history after.commitSequence after.history) :
      Chronicle bound before after op
  | reloaded {advance} (clock : after.commitSequence = before.commitSequence)
      (log : after.history = before.history.map fun _ => HistoryEvent.restored)
      (stores : before.SameSequences after) : Chronicle bound before after (.reload advance)

namespace CoordinatorState.SameSequences

theorem refl (state : CoordinatorState) : state.SameSequences state :=
  ⟨fun _ => rfl, fun _ => rfl, fun _ => rfl, fun _ => rfl⟩

theorem trans {state middle after : CoordinatorState} (first : state.SameSequences middle)
    (second : middle.SameSequences after) : state.SameSequences after where
  chains id := (second.chains id).trans (first.chains id)
  evidence id := (second.evidence id).trans (first.evidence id)
  plans id := (second.plans id).trans (first.plans id)
  records id := (second.records id).trans (first.records id)

theorem of_stores {before after : CoordinatorState} (artifacts : after.artifacts = before.artifacts)
    (evidence : after.evidence = before.evidence) (plans : after.plans = before.plans)
    (records : after.records = before.records) : before.SameSequences after where
  chains id := by rw [CoordinatorState.chain, artifacts]; rfl
  evidence id := by rw [evidence]
  plans id := by rw [plans]
  records id := by rw [records]

end CoordinatorState.SameSequences

theorem Chronicle.rebase {bound : UInt64} {base state after : CoordinatorState} {op : Op}
    (chronicle : Chronicle bound base after op)
    (sameClock : base.commitSequence = state.commitSequence)
    (sameLog : base.history = state.history) (same : state.SameSequences base) :
    Chronicle bound state after op := by
  cases chronicle with
  | quiet clock log stores =>
      exact .quiet (clock.trans sameClock) (log.trans sameLog) (same.trans stores)
  | single event sequenced clock log =>
      rw [sameClock] at sequenced
      rw [sameLog] at log
      exact .single event sequenced clock log
  | succeeded first second sequenced following clock log =>
      rw [sameClock] at sequenced
      rw [sameLog] at log
      exact .succeeded first second sequenced following clock log
  | replaced first second sequenced following clock log =>
      rw [sameClock] at sequenced
      rw [sameLog] at log
      exact .replaced first second sequenced following clock log
  | noted stores notes =>
      rw [sameClock, sameLog] at notes
      exact .noted (same.trans stores) notes
  | reloaded clock log stores =>
      rw [sameLog] at log
      exact .reloaded (clock.trans sameClock) log (same.trans stores)

/-- No decision was opened, or one was and took the next decision sequence. -/
def CoordinatorState.Opens (before after : CoordinatorState) : Prop :=
  (after.decisionSequence = before.decisionSequence ∧
    after.decisionGenerator = before.decisionGenerator) ∨
  after.decisionSequence = before.decisionSequence.next

namespace Engine

variable {engine next : Engine} {op : Op}

structure Chronicled (engine next : Engine) (op : Op) : Prop where
  commits : Chronicle engine.config.maxHistoryEvents engine.state next.state op
  decisions : engine.state.Opens next.state

theorem chronicled_same : Chronicled engine engine op :=
  ⟨.quiet rfl rfl (.refl _), .inl ⟨rfl, rfl⟩⟩

theorem chronicled_quiet (clock : next.state.commitSequence = engine.state.commitSequence)
    (log : next.state.history = engine.state.history)
    (stores : engine.state.SameSequences next.state)
    (decisions : engine.state.Opens next.state) : Chronicled engine next op :=
  ⟨.quiet clock log stores, decisions⟩

theorem applyTrust_chronicled (id : ArtifactId) (changed : ArtifactRecord) (source : Stage)
    (decision : PromotionDecisionId) (now : UInt64) (note : Text) (kind : HistoryEventKind)
    (outcome : PromotionOutcome) :
    Chronicled engine (engine.applyTrust engine.state.advanceSequence id changed source decision now
      note kind outcome).2 op := by
  unfold applyTrust dirty
  exact ⟨.single _ (.inr rfl) rfl rfl, .inl ⟨rfl, rfl⟩⟩

theorem Applied.chronicled {id : ArtifactId} {now : UInt64} (applied : engine.Applied id now next) :
    Chronicled engine next op := by
  rcases applied with rfl | ⟨_, _, _, _, _, _, rfl⟩
  · exact chronicled_same
  · exact applyTrust_chronicled _ _ _ _ _ _ _ _

theorem quarantine_chronicled (id : ArtifactId) (reasonClass detail : Text)
    (authority : CoordinatorAuthority) :
    Chronicled engine (engine.quarantine id reasonClass detail authority).2 op := by
  unfold quarantine
  dsimp only
  repeat' split
  all_goals first
    | exact chronicled_same
    | exact ⟨.single _ (.inr rfl) rfl rfl, .inl ⟨rfl, rfl⟩⟩

theorem releaseQuarantine_chronicled (id : ArtifactId) (authority : CoordinatorAuthority)
    (now later : UInt64) :
    Chronicled engine (engine.releaseQuarantine id authority now later).2 op := by
  unfold releaseQuarantine
  split
  · exact chronicled_same
  split
  · exact chronicled_same
  split
  · exact chronicled_same
  split
  · exact chronicled_same
  · dsimp only
    split
    · exact chronicled_quiet rfl rfl (.of_stores rfl rfl rfl rfl) (.inr rfl)
    · exact ⟨.single _ (.inr rfl) rfl rfl, .inr rfl⟩

theorem revokeEvidence_chronicled (id : EvidenceId) (reason : Text)
    (authority : CoordinatorAuthority) :
    Chronicled engine (engine.revokeEvidence id reason authority).2 op := by
  unfold revokeEvidence
  dsimp only
  repeat' split
  all_goals first
    | exact chronicled_same
    | exact ⟨.single _ (.inl rfl) rfl rfl, .inl ⟨rfl, rfl⟩⟩

theorem publishPolicy_chronicled {policy : PromotionPolicy}
    {outcome : Result PolicyGeneration × Engine}
    (published : engine.publishPolicy policy = some outcome) :
    Chronicled engine outcome.2 op := by
  obtain ⟨validation, _, rfl⟩ := Option.map_eq_some_iff.mp published
  split
  · exact chronicled_same
  · dsimp only
    split
    · exact chronicled_same
    · exact ⟨.single _ (.inl rfl) rfl rfl, .inl ⟨rfl, rfl⟩⟩

theorem submitEvidence_chronicled (submission : EvidenceSubmission) :
    Chronicled engine (engine.submitEvidence submission).2 op := by
  have added (replaced : Option (EvidenceId × EvidenceRecord)) :
      Chronicled engine (engine.addEvidence submission replaced).2 op := by
    cases replaced with
    | none => exact ⟨.single _ (.inl rfl) rfl rfl, .inl ⟨rfl, rfl⟩⟩
    | some previous => exact ⟨.replaced _ _ rfl rfl rfl rfl, .inl ⟨rfl, rfl⟩⟩
  unfold submitEvidence
  dsimp only
  repeat' split
  all_goals first
    | exact added _
    | exact chronicled_same

theorem allocateRevision_chains (state : CoordinatorState) (id other : ArtifactId) :
    (allocateRevision state id).chain other = state.chain other := by
  by_cases same : other = id
  · subst same
    exact allocateRevision_chain state other
  · unfold CoordinatorState.chain
    rw [Std.ExtTreeMap.getD_eq_getD_getElem?, Std.ExtTreeMap.getD_eq_getD_getElem?,
      allocateRevision]
    dsimp only
    rw [OrderedMaps.getElem?_insert_ne _ _ same]

theorem addRevision_chronicled (registration : ArtifactRegistration) (now : UInt64) :
    Chronicled engine (engine.addRevision (allocateRevision engine.state registration.id)
      registration engine.state.revisionGenerator.next now).2 op := by
  unfold addRevision supersedePrevious dirty CoordinatorState.recordEvent CoordinatorState.setChain
    CoordinatorState.advanceSequence
  cases (allocateRevision engine.state registration.id).findCurrent registration.id with
  | none => exact ⟨.single _ (.inl rfl) rfl rfl, .inl ⟨rfl, rfl⟩⟩
  | some previous => exact ⟨.succeeded _ _ rfl rfl rfl rfl, .inl ⟨rfl, rfl⟩⟩

theorem registerArtifact_chronicled (registration : ArtifactRegistration) (now : UInt64) :
    Chronicled engine (engine.registerArtifact registration now).2 op := by
  unfold registerArtifact
  dsimp only
  repeat' split
  all_goals first
    | exact chronicled_same
    | exact chronicled_quiet rfl rfl
        ⟨fun id => congrArg _ (allocateRevision_chains engine.state registration.id id),
          fun _ => rfl, fun _ => rfl, fun _ => rfl⟩ (.inl ⟨rfl, rfl⟩)
    | exact addRevision_chronicled registration now

theorem decideTransition_clock (config : EngineConfig) (state : CoordinatorState)
    (request : PromotionRequest) (artifact : ArtifactRecord) (now : UInt64)
    (decision : PromotionDecision) :
    let decided := (decideTransition config state request artifact now decision).state
    decided.history = state.history ∧ decided.decisionSequence = state.decisionSequence ∧
      (decided.commitSequence = state.commitSequence ∨
        decided.commitSequence = state.commitSequence.next) := by
  unfold decideTransition issuePlan
  dsimp only
  repeat' split
  all_goals first
    | exact ⟨rfl, rfl, .inl rfl⟩
    | exact ⟨rfl, rfl, .inr rfl⟩

theorem settle_chronicle {config : EngineConfig} (state : CoordinatorState)
    {decided : CoordinatorState} (log : decided.history = state.history)
    (clock : decided.commitSequence = state.commitSequence ∨
      decided.commitSequence = state.commitSequence.next) (request : PromotionRequest)
    (artifact : ArtifactRecord) (decision : PromotionDecision) :
    Chronicle config.maxHistoryEvents state (decided.settle config request artifact decision)
      op := by
  have written (event : HistoryEvent) :
      putBounded config.maxHistoryEvents decided.history event.sequence event =
        putBounded config.maxHistoryEvents state.history event.sequence event := by
    rw [log]
  have sequenced : decided.commitSequence.next = state.commitSequence.next ∨
      decided.commitSequence.next = state.commitSequence.next.next := by
    rcases clock with same | moved
    · exact .inl (by rw [same])
    · exact .inr (by rw [moved])
  exact .single _ sequenced rfl (written _)

theorem evaluate_chronicled (request : PromotionRequest) (now : UInt64) :
    Chronicled engine (engine.evaluate request now).2 op := by
  have fresh : Chronicled engine (engine.evaluateFresh request now).2 op := by
    unfold evaluateFresh
    dsimp only
    split
    · exact chronicled_quiet rfl rfl (.of_stores rfl rfl rfl rfl) (.inr rfl)
    rename_i artifact _
    split
    · exact chronicled_quiet rfl rfl (.of_stores rfl rfl rfl rfl) (.inr rfl)
    · obtain ⟨log, opened, clock⟩ := decideTransition_clock engine.config engine.state.openDecision
        request artifact now (engine.fullDecision request artifact now)
      exact ⟨settle_chronicle engine.state log clock _ _ _, .inr opened⟩
  unfold evaluate
  repeat' split
  all_goals first
    | exact fresh
    | exact chronicled_same

theorem closeCommit_chronicled (plan : PromotionPlan) (outcome : PromotionOutcome)
    (decision : PromotionDecision) (released : Bool) :
    Chronicled engine (engine.closeCommit plan outcome decision released).2 op := by
  unfold closeCommit
  cases released <;> exact chronicled_quiet rfl rfl (.of_stores rfl rfl rfl rfl) (.inl ⟨rfl, rfl⟩)

theorem chronicled_touched {id : PromotionDecisionId}
    (chronicled : Chronicled { engine with state := engine.state.touchDecision id } next op) :
    Chronicled engine next op :=
  ⟨chronicled.commits.rebase rfl rfl (.of_stores rfl rfl rfl rfl), chronicled.decisions⟩

theorem applyCommit_chronicled (plan : PromotionPlan) (artifact : ArtifactRecord)
    (decision : PromotionDecision) (now : UInt64) :
    Chronicled engine (engine.applyCommit plan artifact decision now).2 op := by
  unfold applyCommit recordTransition keepDecision markCommitted dirty
  exact ⟨.single _ (.inl rfl) rfl rfl, .inl ⟨rfl, rfl⟩⟩

theorem revalidate_chronicled (plan : PromotionPlan) (artifact : ArtifactRecord)
    (decision : PromotionDecision) (now : UInt64) :
    Chronicled engine (engine.revalidate plan artifact decision now).2 op := by
  unfold revalidate
  dsimp only
  split
  · exact closeCommit_chronicled _ _ _ _
  split
  · exact closeCommit_chronicled _ _ _ _
  split
  · exact closeCommit_chronicled _ _ _ _
  · exact applyCommit_chronicled _ _ _ _

theorem commitStored_chronicled (plan : PromotionPlan) (now : UInt64) :
    Chronicled engine (engine.commitStored plan now).2 op := by
  let touched : Engine := { engine with state := engine.state.touchDecision plan.decision }
  have closed (outcome : PromotionOutcome) (decision : PromotionDecision) (released : Bool) :
      Chronicled engine (touched.closeCommit plan outcome decision released).2 op :=
    chronicled_touched (@closeCommit_chronicled touched op plan outcome decision released)
  unfold commitStored
  dsimp only
  split
  · exact chronicled_quiet rfl rfl (.of_stores rfl rfl rfl rfl) (.inl ⟨rfl, rfl⟩)
  split
  · exact closed _ _ _
  split
  · exact closed _ _ _
  · exact chronicled_touched (@revalidate_chronicled touched op _ _ _ _)

theorem commit_chronicled (plan : PromotionPlan) (now : UInt64) :
    Chronicled engine (engine.commit plan now).2 op := by
  unfold commit
  split
  · exact chronicled_same
  split
  · exact chronicled_same
  split
  · exact chronicled_same
  split
  · exact chronicled_same
  split
  · exact chronicled_quiet rfl rfl (.of_stores rfl rfl rfl rfl) (.inl ⟨rfl, rfl⟩)
  · exact commitStored_chronicled plan now

theorem releaseOne_noted (note : PendingTransition → Text) (state : CoordinatorState)
    (id : ArtifactId) {last : CommitSequence} {final : History}
    (notes : Noted (releaseOne note state id).commitSequence (releaseOne note state id).history
      last final) : Noted state.commitSequence state.history last final := by
  unfold releaseOne at notes
  split at notes
  · exact notes
  · rename_i pending _
    exact .cons
      { sequence := state.commitSequence.next, kind := .recoveryNote, artifact := id,
        artifactRevision := pending.artifactRevision, authority := state.authority,
        note := note pending } rfl notes

theorem releaseOne_stores (note : PendingTransition → Text) (state : CoordinatorState)
    (id : ArtifactId) : state.SameSequences (releaseOne note state id) ∧
      (releaseOne note state id).decisionSequence = state.decisionSequence ∧
      (releaseOne note state id).decisionGenerator = state.decisionGenerator := by
  unfold releaseOne
  split <;> exact ⟨.of_stores rfl rfl rfl rfl, rfl, rfl⟩

theorem releaseAll_chronicle (note : PendingTransition → Text) (state : CoordinatorState)
    (bound : UInt64) :
    Chronicle bound state (releaseAll note state) op ∧ state.Opens (releaseAll note state) := by
  have walked (keys : List ArtifactId) (state : CoordinatorState) :
      let last := keys.foldl (releaseOne note) state
      state.SameSequences last ∧
        Noted state.commitSequence state.history last.commitSequence last.history ∧
        last.decisionSequence = state.decisionSequence ∧
        last.decisionGenerator = state.decisionGenerator := by
    induction keys generalizing state with
    | nil => exact ⟨.refl state, .nil, rfl, rfl⟩
    | cons id rest ih =>
        rw [List.foldl_cons]
        obtain ⟨stores, notes, sequence, generator⟩ := ih (releaseOne note state id)
        obtain ⟨first, sequenced, generated⟩ := releaseOne_stores note state id
        exact ⟨first.trans stores, releaseOne_noted note state id notes, sequence.trans sequenced,
          generator.trans generated⟩
  obtain ⟨stores, notes, opened⟩ := walked state.pending.keys state
  exact ⟨.noted stores notes, .inl opened⟩

theorem setVeto_chronicled (id : ArtifactId) (message : String) (change : VetoState → VetoState) :
    Chronicled engine (engine.setVeto id message change).2 op := by
  unfold setVeto
  split <;> exact chronicled_quiet rfl rfl (.of_stores rfl rfl rfl rfl) (.inl ⟨rfl, rfl⟩)

theorem answerWith_chronicled {α : Type} {reply : Reply} {wrap : α → Reply}
    {outcome : α × Engine} (chronicled : Chronicled engine outcome.2 op)
    (answered : answerWith wrap outcome = some (reply, next)) : Chronicled engine next op := by
  simp only [answerWith, Option.some.injEq, Prod.mk.injEq] at answered
  rwa [← answered.2]

theorem restart_chronicled (epoch : CoordinatorEpoch) :
    Chronicled engine (engine.restart epoch).2 op := by
  unfold restart
  split
  · exact chronicled_same
  · obtain ⟨commits, decisions⟩ := @releaseAll_chronicle op (fun pending =>
      text "reservation released by coordinator restart; plan " ++ pending.plan.toText ++
        text " is not authority under the new epoch") { engine.state with epoch }
      engine.config.maxHistoryEvents
    exact ⟨commits.rebase rfl rfl (.of_stores rfl rfl rfl rfl), decisions⟩

theorem recoverInFlight_chronicled : Chronicled engine engine.recoverInFlight.2 op := by
  obtain ⟨commits, decisions⟩ := @releaseAll_chronicle op (fun _ =>
    text "in-flight transition recovered conservatively: not promoted, reservation released")
    engine.state engine.config.maxHistoryEvents
  unfold recoverInFlight
  dsimp only
  split <;> exact ⟨commits, decisions⟩

theorem reloaded_sequences (reloaded : Coherent.Reloaded engine.control next.control) :
    engine.state.SameSequences next.state where
  chains id := by
    have chain : next.state.chain id = (engine.state.chain id).map ArtifactRecord.restored :=
      restored_chain reloaded id
    rw [chain, List.map_map]
    rfl
  evidence id := by
    have same : next.state.evidence = engine.state.evidence.map fun _ => EvidenceRecord.restored :=
      reloaded.evidence
    rw [same, Std.ExtTreeMap.getElem?_map, Option.map_map]
    rfl
  plans id := by
    have same : next.state.plans = engine.state.plans.map fun _ => PromotionPlan.restored :=
      reloaded.plans
    rw [same, Std.ExtTreeMap.getElem?_map, Option.map_map]
    rfl
  records id := by
    have same : next.state.records = engine.state.records.map fun _ => PromotionRecord.restored :=
      reloaded.records
    rw [same, Std.ExtTreeMap.getElem?_map, Option.map_map]
    rfl

theorem reload_chronicled {advance : Bool} {reply : Reply} (sound : engine.Sound)
    (moved : engine.step (.reload advance) = some (reply, next)) :
    Chronicled engine next (.reload advance) := by
  rcases reload_cases moved with ⟨rfl, _⟩ | ⟨_, image, decoded, installed⟩
  · exact chronicled_same
  · have changed : next.control = { image.control with
        pending := ∅
        authority := ⟨image.coordinator, if advance then image.epoch.next else image.epoch⟩ } := by
      change next.state.control = _
      rw [installed]
      rfl
    have reloaded := image_reloaded sound decoded changed
    have image_eq := decoded_image sound decoded
    rw [StatePersistence.restoredState_eq] at image_eq
    subst image_eq
    have clock : next.state.commitSequence = engine.state.commitSequence := by
      rw [installed]
      rfl
    have log : next.state.history = engine.state.history.map fun _ => HistoryEvent.restored := by
      rw [installed]
      rfl
    have opened : next.state.decisionSequence = engine.state.decisionSequence := by
      rw [installed]
      rfl
    exact ⟨.reloaded clock log (reloaded_sequences reloaded),
      .inl ⟨opened, reloaded.decisionGenerator⟩⟩

theorem step_chronicled {reply : Reply} (sound : engine.Sound)
    (moved : engine.step op = some (reply, next)) : Chronicled engine next op := by
  have performed := (step_eq_some moved).1
  cases op with
  | publishPolicy policy =>
      rw [perform] at performed
      obtain ⟨outcome, published, answered⟩ := Option.bind_eq_some_iff.mp performed
      exact answerWith_chronicled (publishPolicy_chronicled published) answered
  | reload advance => exact reload_chronicled sound moved
  | restart epoch => exact answerWith_chronicled (restart_chronicled epoch) performed
  | recoverInFlight => exact answerWith_chronicled recoverInFlight_chronicled performed
  | registerArtifact registration now =>
      exact answerWith_chronicled (registerArtifact_chronicled registration now) performed
  | submitEvidence submission =>
      exact answerWith_chronicled (submitEvidence_chronicled submission) performed
  | evaluate request now => exact answerWith_chronicled (evaluate_chronicled request now) performed
  | commit plan now => exact answerWith_chronicled (commit_chronicled plan now) performed
  | quarantine id reasonClass detail authority =>
      exact answerWith_chronicled (quarantine_chronicled id reasonClass detail authority) performed
  | releaseQuarantine id authority now later =>
      exact answerWith_chronicled (releaseQuarantine_chronicled id authority now later) performed
  | revoke id decision reasonClass detail authority cause now =>
      exact answerWith_chronicled
        (revoke_applied id decision reasonClass detail authority cause now).chronicled performed
  | supersede id successor reason authority now =>
      exact answerWith_chronicled
        (supersede_applied id successor reason authority now).chronicled performed
  | retire id authority now =>
      exact answerWith_chronicled (retire_applied id authority now).chronicled performed
  | revokeEvidence id reason authority =>
      exact answerWith_chronicled (revokeEvidence_chronicled id reason authority) performed
  | setSecurityVeto id active reason =>
      exact answerWith_chronicled (setVeto_chronicled id _ _) performed
  | setDependencyVeto id active reason =>
      exact answerWith_chronicled (setVeto_chronicled id _ _) performed
  | setCompatibilityGeneration generation =>
      refine answerWith_chronicled ?_ performed
      unfold setCompatibilityGeneration
      repeat' split
      all_goals exact chronicled_quiet rfl rfl (.of_stores rfl rfl rfl rfl) (.inl ⟨rfl, rfl⟩)
  | closeAdmission =>
      simp only [perform, Option.some.injEq, Prod.mk.injEq] at performed
      obtain ⟨rfl, rfl⟩ := performed
      exact chronicled_quiet rfl rfl (.of_stores rfl rfl rfl rfl) (.inl ⟨rfl, rfl⟩)
  | openAdmission =>
      simp only [perform, Option.some.injEq, Prod.mk.injEq] at performed
      obtain ⟨rfl, rfl⟩ := performed
      exact chronicled_quiet rfl rfl (.of_stores rfl rfl rfl rfl) (.inl ⟨rfl, rfl⟩)

end Engine

end ArtifactPromotion
