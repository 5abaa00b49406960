import ArtifactPromotion.Engine.Cases

/-! The audit history: every event lies under its own, valid sequence in every reachable state. -/

namespace ArtifactPromotion

open Runs

def HistoryKeyed (history : OrderedMap CommitSequence HistoryEvent) : Prop :=
  ∀ (sequence : CommitSequence) (event : HistoryEvent), history[sequence]? = some event →
    event.sequence = sequence ∧ sequence.valid = true

theorem eraseFirst_entry {κ ν : Type} [Ord κ] [Std.TransOrd κ] [Std.LawfulEqOrd κ]
    {map : OrderedMap κ ν} {key : κ} {value : ν}
    (present : (eraseFirst map)[key]? = some value) : map[key]? = some value := by
  unfold eraseFirst at present
  split at present
  · exact present
  · exact (OrderedMaps.erase_cases present).2

theorem putBounded_entry {κ ν : Type} [Ord κ] [Std.TransOrd κ] [Std.LawfulEqOrd κ] {bound : UInt64}
    {map : OrderedMap κ ν} {key other : κ} {value found : ν}
    (present : (putBounded bound map key value)[other]? = some found) :
    (other = key ∧ found = value) ∨ (other ≠ key ∧ map[other]? = some found) := by
  unfold putBounded at present
  rcases OrderedMaps.insert_cases present with new | ⟨apart, old⟩
  · exact .inl new
  · refine .inr ⟨apart, ?_⟩
    split at old
    · exact eraseFirst_entry old
    · exact old

variable {state : CoordinatorState} {config : EngineConfig} {event : HistoryEvent}

theorem storeEvent_keyed (keyed : HistoryKeyed state.history)
    (valid : event.sequence.valid = true) : HistoryKeyed (state.storeEvent event).history := by
  intro sequence found present
  rcases OrderedMaps.insert_cases present with ⟨rfl, rfl⟩ | ⟨_, old⟩
  · exact ⟨rfl, valid⟩
  · exact keyed sequence found old

theorem recordEvent_keyed (keyed : HistoryKeyed state.history)
    (valid : event.sequence.valid = true) :
    HistoryKeyed (state.recordEvent config event).history := by
  intro sequence found present
  rcases putBounded_entry present with ⟨rfl, rfl⟩ | ⟨_, old⟩
  · exact ⟨rfl, valid⟩
  · exact keyed sequence found old

theorem appendHistory_keyed (keyed : HistoryKeyed state.history) (kind : HistoryEventKind)
    (artifact : ArtifactRecord) (source target : Stage) (note : Text) :
    HistoryKeyed (state.appendHistory config kind artifact source target note).history :=
  recordEvent_keyed keyed (Counter.next_valid _)

theorem settle_keyed (keyed : HistoryKeyed state.history) (request : PromotionRequest)
    (artifact : ArtifactRecord) (decision : PromotionDecision) :
    HistoryKeyed (state.settle config request artifact decision).history :=
  recordEvent_keyed keyed (Counter.next_valid _)

namespace Engine

variable {engine : Engine}

theorem releaseOne_keyed (note : PendingTransition → Text) (id : ArtifactId)
    (keyed : HistoryKeyed state.history) : HistoryKeyed (releaseOne note state id).history := by
  unfold releaseOne
  split
  · exact keyed
  · exact storeEvent_keyed keyed (Counter.next_valid _)

theorem releaseAll_keyed (note : PendingTransition → Text) (keyed : HistoryKeyed state.history) :
    HistoryKeyed (releaseAll note state).history := by
  unfold releaseAll
  generalize state.pending.keys = keys
  induction keys generalizing state with
  | nil => exact keyed
  | cons id rest ih => exact ih (releaseOne_keyed note id keyed)

theorem supersedePrevious_keyed (revision : ArtifactRevision) (id : ArtifactId)
    (keyed : HistoryKeyed state.history) :
    HistoryKeyed (supersedePrevious state revision id).history := by
  unfold supersedePrevious
  split
  · exact keyed
  · exact storeEvent_keyed keyed (Counter.next_valid _)

theorem registerArtifact_keyed (registration : ArtifactRegistration) (now : UInt64)
    (keyed : HistoryKeyed engine.state.history) :
    HistoryKeyed (engine.registerArtifact registration now).2.state.history := by
  unfold registerArtifact
  dsimp only
  repeat' split
  all_goals first
    | exact keyed
    | refine recordEvent_keyed (supersedePrevious_keyed _ _ ?_) (Counter.next_valid _); exact keyed

theorem submitEvidence_keyed (submission : EvidenceSubmission)
    (keyed : HistoryKeyed engine.state.history) :
    HistoryKeyed (engine.submitEvidence submission).2.state.history := by
  have added (replaced : Option (EvidenceId × EvidenceRecord)) :
      HistoryKeyed (engine.addEvidence submission replaced).2.state.history := by
    cases replaced with
    | none => exact recordEvent_keyed keyed (Counter.next_valid _)
    | some previous =>
        exact recordEvent_keyed (recordEvent_keyed keyed (Counter.next_valid _))
          (Counter.next_valid _)
  unfold submitEvidence
  dsimp only
  repeat' split
  all_goals first
    | exact added _
    | exact keyed

theorem issuePlan_history (request : PromotionRequest) (artifact : ArtifactRecord)
    (evaluation : GateEvaluation) (now : UInt64) :
    (issuePlan config state request artifact evaluation now).state.history = state.history := by
  unfold issuePlan
  dsimp only
  repeat' split
  all_goals rfl

theorem decideTransition_history (request : PromotionRequest) (artifact : ArtifactRecord)
    (now : UInt64) (decision : PromotionDecision) :
    (decideTransition config state request artifact now decision).state.history =
      state.history := by
  unfold decideTransition
  dsimp only
  repeat' split
  all_goals first
    | rfl
    | exact issuePlan_history _ _ _ _

theorem evaluate_keyed (request : PromotionRequest) (now : UInt64)
    (keyed : HistoryKeyed engine.state.history) :
    HistoryKeyed (engine.evaluate request now).2.state.history := by
  have fresh : HistoryKeyed (engine.evaluateFresh request now).2.state.history := by
    unfold evaluateFresh
    dsimp only
    split
    · exact keyed
    · split
      · exact keyed
      · refine settle_keyed ?_ _ _ _
        rw [decideTransition_history]
        exact keyed
  unfold evaluate
  repeat' split
  all_goals first
    | exact fresh
    | exact keyed

theorem closeCommit_history (plan : PromotionPlan) (outcome : PromotionOutcome)
    (decision : PromotionDecision) (released : Bool) :
    (engine.closeCommit plan outcome decision released).2.state.history =
      engine.state.history := by
  unfold closeCommit
  cases released <;> rfl

theorem applyCommit_keyed (plan : PromotionPlan) (artifact : ArtifactRecord)
    (decision : PromotionDecision) (now : UInt64) (keyed : HistoryKeyed engine.state.history) :
    HistoryKeyed (engine.applyCommit plan artifact decision now).2.state.history :=
  recordEvent_keyed keyed (Counter.next_valid _)

theorem revalidate_keyed (plan : PromotionPlan) (artifact : ArtifactRecord)
    (decision : PromotionDecision) (now : UInt64) (keyed : HistoryKeyed engine.state.history) :
    HistoryKeyed (engine.revalidate plan artifact decision now).2.state.history := by
  unfold revalidate
  dsimp only
  split
  · rwa [closeCommit_history]
  split
  · rwa [closeCommit_history]
  split
  · rwa [closeCommit_history]
  · exact applyCommit_keyed _ _ _ _ keyed

theorem commitStored_keyed (plan : PromotionPlan) (now : UInt64)
    (keyed : HistoryKeyed engine.state.history) :
    HistoryKeyed (engine.commitStored plan now).2.state.history := by
  have touched : HistoryKeyed (engine.state.touchDecision plan.decision).history := keyed
  unfold commitStored
  dsimp only
  split
  · exact touched
  split
  · rwa [closeCommit_history]
  split
  · rwa [closeCommit_history]
  · exact revalidate_keyed _ _ _ _ touched

theorem commit_keyed (plan : PromotionPlan) (now : UInt64)
    (keyed : HistoryKeyed engine.state.history) :
    HistoryKeyed (engine.commit plan now).2.state.history := by
  unfold commit
  split
  · exact keyed
  split
  · exact keyed
  split
  · exact keyed
  split
  · exact keyed
  split
  · exact keyed
  · exact commitStored_keyed plan now keyed

theorem quarantine_keyed (id : ArtifactId) (reasonClass detail : Text)
    (authority : CoordinatorAuthority) (keyed : HistoryKeyed engine.state.history) :
    HistoryKeyed (engine.quarantine id reasonClass detail authority).2.state.history := by
  unfold quarantine
  dsimp only
  repeat' split
  all_goals first
    | exact keyed
    | refine appendHistory_keyed ?_ _ _ _ _ _; exact keyed

theorem applyRelease_keyed (id : ArtifactId) (artifact : ArtifactRecord)
    (request : PromotionRequest) (decision : PromotionDecision) (later : UInt64)
    (keyed : HistoryKeyed state.history) :
    HistoryKeyed (engine.applyRelease state id artifact request decision later).2.state.history := by
  refine appendHistory_keyed ?_ _ _ _ _ _
  exact keyed

theorem releaseQuarantine_keyed (id : ArtifactId) (authority : CoordinatorAuthority)
    (now later : UInt64) (keyed : HistoryKeyed engine.state.history) :
    HistoryKeyed (engine.releaseQuarantine id authority now later).2.state.history := by
  unfold releaseQuarantine
  split
  · exact keyed
  split
  · exact keyed
  split
  · exact keyed
  split
  · exact keyed
  · dsimp only
    split
    · exact keyed
    · exact applyRelease_keyed _ _ _ _ _ keyed

theorem applyTrust_keyed (id : ArtifactId) (changed : ArtifactRecord) (source : Stage)
    (decision : PromotionDecisionId) (now : UInt64) (note : Text) (kind : HistoryEventKind)
    (outcome : PromotionOutcome) (keyed : HistoryKeyed state.history) :
    HistoryKeyed (engine.applyTrust state id changed source decision now note kind
      outcome).2.state.history := by
  refine appendHistory_keyed ?_ _ _ _ _ _
  exact keyed

theorem Applied.keyed {id : ArtifactId} {now : UInt64} {next : Engine}
    (applied : engine.Applied id now next) (keyed : HistoryKeyed engine.state.history) :
    HistoryKeyed next.state.history := by
  rcases applied with rfl | ⟨_, _, _, _, _, _, rfl⟩
  · exact keyed
  · exact applyTrust_keyed _ _ _ _ _ _ _ _ keyed

theorem revokeEvidence_keyed (id : EvidenceId) (reason : Text) (authority : CoordinatorAuthority)
    (keyed : HistoryKeyed engine.state.history) :
    HistoryKeyed (engine.revokeEvidence id reason authority).2.state.history := by
  unfold revokeEvidence
  dsimp only
  repeat' split
  all_goals first
    | exact keyed
    | refine recordEvent_keyed ?_ (Counter.next_valid _); exact keyed

theorem publishPolicy_keyed {policy : PromotionPolicy} {outcome : Result PolicyGeneration × Engine}
    (published : engine.publishPolicy policy = some outcome)
    (keyed : HistoryKeyed engine.state.history) : HistoryKeyed outcome.2.state.history := by
  obtain ⟨validation, _, rfl⟩ := Option.map_eq_some_iff.mp published
  split
  · exact keyed
  · dsimp only
    split
    · exact keyed
    · refine recordEvent_keyed ?_ (Counter.next_valid _)
      exact keyed

theorem checkHistory_entries (entries : List (CommitSequence × HistoryEvent))
    {previous : CommitSequence} {done : Unit}
    (checked : CoordinatorState.checkHistory previous entries = .ok done) :
    ∀ entry ∈ entries, entry.2.sequence = entry.1 ∧ entry.1.valid = true := by
  induction entries generalizing previous with
  | nil => simp
  | cons entry rest ih =>
      simp only [CoordinatorState.checkHistory, CoordinatorState.rejectCorrupt, bind_eq_ok,
        rejectWhen_eq_ok, Bool.or_eq_false_iff, Bool.not_eq_false', bne_eq_false_iff_eq] at checked
      obtain ⟨_, ⟨valid, same⟩, _, _, rest⟩ := checked
      rw [List.forall_mem_cons]
      exact ⟨⟨same, valid⟩, ih rest⟩

theorem verifyConsistency_history (consistent : state.verifyConsistency = some (.ok ())) :
    HistoryKeyed state.history := by
  unfold CoordinatorState.verifyConsistency at consistent
  dsimp only at consistent
  split at consistent
  · simp at consistent
  · obtain ⟨policyStatus, _, checked⟩ := Option.map_eq_some_iff.mp consistent
    simp only [bind_eq_ok] at checked
    obtain ⟨_, _, _, _, _, _, _, _, _, _, _, _, _, history, _⟩ := checked
    intro sequence event present
    exact checkHistory_entries _ history (sequence, event)
      (Std.ExtTreeMap.mem_toList_iff_getElem?_eq_some.mpr present)

theorem reload_keyed {advance : Bool} {outcome : Result Unit × Engine}
    (moved : engine.reload advance = some outcome) (keyed : HistoryKeyed engine.state.history) :
    HistoryKeyed outcome.2.state.history := by
  unfold reload at moved
  split at moved
  · cases moved
    exact keyed
  · obtain ⟨consistency, consistent, rfl⟩ := Option.map_eq_some_iff.mp moved
    split
    · exact keyed
    · exact verifyConsistency_history consistent

theorem answerWith_keyed {α : Type} {reply : Reply} {next : Engine} {wrap : α → Reply}
    {outcome : α × Engine} (keyed : HistoryKeyed outcome.2.state.history)
    (answered : answerWith wrap outcome = some (reply, next)) :
    HistoryKeyed next.state.history := by
  simp only [answerWith, Option.some.injEq, Prod.mk.injEq] at answered
  rwa [← answered.2]

theorem perform_keyed {op : Op} {reply : Reply} {next : Engine}
    (moved : engine.perform op = some (reply, next)) (keyed : HistoryKeyed engine.state.history) :
    HistoryKeyed next.state.history := by
  cases op with
  | publishPolicy policy =>
      rw [perform] at moved
      obtain ⟨outcome, published, answered⟩ := Option.bind_eq_some_iff.mp moved
      exact answerWith_keyed (publishPolicy_keyed published keyed) answered
  | reload advance =>
      rw [perform] at moved
      obtain ⟨outcome, installed, answered⟩ := Option.bind_eq_some_iff.mp moved
      exact answerWith_keyed (reload_keyed installed keyed) answered
  | restart epoch =>
      refine answerWith_keyed ?_ moved
      unfold restart
      split
      · exact keyed
      · refine releaseAll_keyed _ ?_
        exact keyed
  | recoverInFlight =>
      refine answerWith_keyed ?_ moved
      have released := releaseAll_keyed (fun _ =>
        text "in-flight transition recovered conservatively: not promoted, reservation released")
        keyed
      unfold recoverInFlight
      dsimp only
      split
      · exact released
      · exact released
  | registerArtifact registration now =>
      exact answerWith_keyed (registerArtifact_keyed registration now keyed) moved
  | submitEvidence submission => exact answerWith_keyed (submitEvidence_keyed submission keyed) moved
  | evaluate request now => exact answerWith_keyed (evaluate_keyed request now keyed) moved
  | commit plan now => exact answerWith_keyed (commit_keyed plan now keyed) moved
  | quarantine id reasonClass detail authority =>
      exact answerWith_keyed (quarantine_keyed id reasonClass detail authority keyed) moved
  | releaseQuarantine id authority now later =>
      exact answerWith_keyed (releaseQuarantine_keyed id authority now later keyed) moved
  | revoke id decision reasonClass detail authority cause now =>
      exact answerWith_keyed
        ((revoke_applied id decision reasonClass detail authority cause now).keyed keyed) moved
  | supersede id successor reason authority now =>
      exact answerWith_keyed
        ((supersede_applied id successor reason authority now).keyed keyed) moved
  | retire id authority now =>
      exact answerWith_keyed ((retire_applied id authority now).keyed keyed) moved
  | revokeEvidence id reason authority =>
      exact answerWith_keyed (revokeEvidence_keyed id reason authority keyed) moved
  | setSecurityVeto id active reason =>
      refine answerWith_keyed ?_ moved
      unfold setSecurityVeto setVeto
      split <;> exact keyed
  | setDependencyVeto id active reason =>
      refine answerWith_keyed ?_ moved
      unfold setDependencyVeto setVeto
      split <;> exact keyed
  | setCompatibilityGeneration generation =>
      refine answerWith_keyed ?_ moved
      unfold setCompatibilityGeneration
      repeat' split
      all_goals exact keyed
  | closeAdmission =>
      simp only [perform, Option.some.injEq, Prod.mk.injEq] at moved
      obtain ⟨rfl, rfl⟩ := moved
      exact keyed
  | openAdmission =>
      simp only [perform, Option.some.injEq, Prod.mk.injEq] at moved
      obtain ⟨rfl, rfl⟩ := moved
      exact keyed

end Engine

theorem Reachable.history_keyed {engine : Engine} (reachable : Reachable engine) :
    HistoryKeyed engine.state.history := by
  obtain ⟨start, trace, ⟨config, epoch, salting, naming, rfl⟩, run⟩ := reachable
  refine run.invariant (fun engine => HistoryKeyed engine.state.history) ?_ ?_
  · intro before input output after keyed moved
    exact Engine.perform_keyed (Engine.step_eq_some moved).1 keyed
  · intro sequence event present
    have empty : (∅ : OrderedMap CommitSequence HistoryEvent)[sequence]? = some event := present
    simp at empty

end ArtifactPromotion
