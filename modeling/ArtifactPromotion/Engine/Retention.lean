import ArtifactPromotion.Engine.Bookkeeping
import ArtifactPromotion.Engine.Withdrawals

/-! Whether the bounded store of promotion records keeps the proof of every promoted revision. -/

namespace ArtifactPromotion

open Runs

def PromotionRecord.Proves (record : PromotionRecord) (artifact : ArtifactRecord) : Prop :=
  record.artifact = artifact.id ∧ record.artifactRevision = artifact.revision ∧
    record.target = .promoted

def Op.Promotes (op : Op) (artifact : ArtifactRecord) : Prop :=
  ∃ plan now, op = .commit plan now ∧ plan.artifact = artifact.id ∧
    plan.artifactRevision = artifact.revision ∧ plan.target = .promoted

namespace Engine

variable {engine next : Engine}

structure ProofsHeld (engine : Engine) : Prop where
  recorded : ∀ (id : ArtifactId) (artifact : ArtifactRecord), artifact ∈ engine.state.chain id →
    artifact.promoted = true → ∃ (transition : TransitionId) (record : PromotionRecord),
      engine.state.records[transition]? = some record ∧ record.Proves artifact
  decided : ∀ (id : ArtifactId) (artifact : ArtifactRecord), artifact ∈ engine.state.chain id →
    artifact.promoted = true →
      engine.state.decisions.contains artifact.promotionDecision = true

/-- The operations that pass their checks and then store a record. -/
inductive Records (engine : Engine) : Op → Prop
  | commit {plan now} (artifact : ArtifactRecord) (accepts : engine.Accepts plan now artifact) :
      Records engine (.commit plan now)
  | release {id authority now later} (artifact : ArtifactRecord)
      (releases : engine.Releases id authority now artifact) :
      Records engine (.releaseQuarantine id authority now later)
  | revoke {id decision reasonClass detail authority cause now} (artifact : ArtifactRecord)
      (revokes : engine.Revokes id decision reasonClass authority cause artifact) :
      Records engine (.revoke id decision reasonClass detail authority cause now)
  | supersede {id successor reason authority now} (artifact successorRecord : ArtifactRecord)
      (supersedes : engine.Supersedes id successor authority artifact successorRecord) :
      Records engine (.supersede id successor reason authority now)
  | retire {id authority now} (artifact : ArtifactRecord)
      (retires : engine.Retires id authority artifact) : Records engine (.retire id authority now)

/-- Storing the record of the operation drops every record of the promotion of a revision that the
operation neither promotes nor withdraws. -/
def Forgets (engine : Engine) (op : Op) : Prop :=
  engine.Records op ∧ ∃ (id : ArtifactId) (index : Nat) (artifact : ArtifactRecord),
    (engine.state.chain id)[index]? = some artifact ∧ artifact.promoted = true ∧
      ¬op.Promotes artifact ∧ ¬(op.withdraws = some id ∧ engine.Current id index) ∧
      ∀ (transition : TransitionId) (record : PromotionRecord),
        engine.state.records[transition]? = some record → record.Proves artifact →
          engine.Displaces transition

theorem changed_records {op : Op} {reply : Reply} (moved : engine.step op = some (reply, next))
    (online : op.online = true) (changed : next.state.records ≠ engine.state.records) :
    engine.Records op := by
  have performed := (step_eq_some moved).1
  have kept (same : next.control.records = engine.control.records) : engine.Records op :=
    absurd same changed
  cases step_effect moved with
  | committed accepts _ _ _ _ _ => exact .commit _ accepts
  | released _ _ _ _ _ _ _ _ _ =>
      rcases release_releases _ _ _ _ with unchanged | ⟨artifact, releases⟩
      · rw [mutated_next performed] at unchanged
        exact kept unchanged.2
      · exact .release artifact releases
  | revoked _ _ _ _ _ _ _ =>
      rcases revoke_revokes _ _ _ _ _ _ _ with unchanged | ⟨artifact, revokes⟩
      · rw [mutated_next performed] at unchanged
        exact kept (by rw [unchanged])
      · exact .revoke artifact revokes
  | superseded _ _ _ _ _ _ _ =>
      rcases supersede_supersedes _ _ _ _ _ with unchanged | ⟨artifact, successorRecord, supersedes⟩
      · rw [mutated_next performed] at unchanged
        exact kept (by rw [unchanged])
      · exact .supersede artifact successorRecord supersedes
  | retired _ _ _ _ =>
      rcases retire_retires _ _ _ with unchanged | ⟨artifact, retires⟩
      · rw [mutated_next performed] at unchanged
        exact kept (by rw [unchanged])
      · exact .retire artifact retires
  | closed released _ _ _ _ changed =>
      refine kept ?_
      rw [changed]
      cases released <;> rfl
  | reloaded _ _ => simp [Op.online] at online
  | idle _ changed | published _ _ changed | restarted _ changed | recovered changed
  | compatibilityMoved _ changed | registrationRefused _ _ changed
  | registered _ _ _ _ _ _ _ changed | submitted _ _ _ _ changed | undecided _ _ _ changed
  | decided _ _ _ _ _ _ changed | issued _ _ _ _ _ _ changed | quarantined _ _ _ _ changed
  | releaseRefused _ _ changed | evidenceRevoked _ _ changed =>
      have same := congrArg Control.records changed
      exact kept same

theorem step_promoted (sound : engine.Sound) {op : Op} {reply : Reply}
    (moved : engine.step op = some (reply, next)) {id : ArtifactId} {artifact : ArtifactRecord}
    (inside : artifact ∈ next.state.chain id) (promoted : artifact.promoted = true) :
    (∃ plan now record, op = .commit plan now ∧ engine.Accepts plan now record ∧
        plan.target = .promoted ∧ artifact.id = plan.artifact ∧
        artifact.revision = plan.artifactRevision) ∨
      ∃ (index : Nat) (old : ArtifactRecord), (engine.state.chain id)[index]? = some old ∧
        (next.state.chain id)[index]? = some artifact ∧ old.promoted = true ∧
        artifact.id = old.id ∧ artifact.revision = old.revision := by
  rcases step_revision sound moved inside with ⟨index, old, before, after, change⟩ |
    ⟨registration, now, stamped, _, rfl⟩
  · have revision := revised_revision change
    cases change with
    | kept | restored | quarantined | released =>
        exact .inr ⟨index, _, before, after, promoted, rfl, revision⟩
    | overtaken state newest named current fresh =>
        obtain ⟨_, _, same⟩ := supersedeByRegistration_eq state newest old _
        rw [same] at promoted ⊢
        refine .inr ⟨index, old, before, ?_, promoted, rfl, rfl⟩
        rw [after, same]
    | @applied plan now _ _ named first accepts =>
        by_cases target : plan.target = .promoted
        · refine .inl ⟨plan, now, old, rfl, accepts, target, ?_, ?_⟩
          · obtain ⟨_, _, _, _, same⟩ := promotedArtifact_eq engine.state.advanceSequence plan old
            have id_eq := findRevision_id sound.coherent accepts.found
            rw [same]
            exact id_eq
          · rw [revision]
            exact (findRevision_mem accepts.found).2
        · right
          have same : promotedArtifact engine.state.advanceSequence plan old =
              { old with
                stage := plan.target, stageGeneration := old.stageGeneration.next,
                lastSequence := engine.state.advanceSequence.commitSequence } := by
            unfold promotedArtifact
            rw [if_neg target]
          rw [same] at promoted after ⊢
          exact ⟨index, old, before, after, promoted, rfl, rfl⟩
    | revoked => simp [revokedArtifact] at promoted
    | superseded => simp [supersededArtifact] at promoted
    | retired => simp [retiredArtifact] at promoted
  · simp [registrationRecord] at promoted

/-- A withdrawal that stores a record leaves the current revision without its promotion. -/
theorem recorded_withdrawal {op : Op} {reply : Reply} {id : ArtifactId}
    (moved : engine.step op = some (reply, next)) (records : engine.Records op)
    (withdraws : op.withdraws = some id) {index : Nat} {artifact : ArtifactRecord}
    (current : engine.Current id index)
    (after : (next.state.chain id)[index]? = some artifact) : artifact.promoted = false := by
  have performed := (step_eq_some moved).1
  have length : index + 1 = (engine.state.chain id).length := current
  have nonempty : engine.state.chain id ≠ [] := by
    intro empty
    rw [empty] at length
    simp at length
  have replaced {withdrawn : ArtifactRecord}
      (applied : next.control.artifacts = (engine.control.replaceCurrent id withdrawn).artifacts)
      (unpromoted : withdrawn.promoted = false) : artifact.promoted = false := by
    rw [chain_replaceCurrent applied, getElem?_dropLast_append nonempty, if_pos length,
      Option.some.injEq] at after
    rw [← after]
    exact unpromoted
  cases records with
  | commit | release => cases withdraws
  | @revoke other decision reasonClass detail authority cause now artifact revokes =>
      cases withdraws
      have applied := revokes_applies revokes detail now
      rw [mutated_next performed] at applied
      exact replaced applied rfl
  | @supersede other successor reason authority now artifact successorRecord supersedes =>
      cases withdraws
      have applied := supersedes_applies supersedes reason now
      rw [mutated_next performed] at applied
      exact replaced applied rfl
  | @retire other authority now artifact retires =>
      cases withdraws
      have applied := (retires_applies retires now).1
      rw [mutated_next performed] at applied
      exact replaced applied rfl

theorem commit_recorded {plan : PromotionPlan} {now : UInt64} {reply : Reply}
    (moved : engine.step (.commit plan now) = some (reply, next)) :
    (next.control.artifacts = engine.control.artifacts ∧
        next.state.records = engine.state.records) ∨
      ∃ (transition : TransitionId) (record : PromotionRecord),
        next.state.records[transition]? = some record ∧ record.artifact = plan.artifact ∧
          record.artifactRevision = plan.artifactRevision ∧ record.target = plan.target := by
  cases step_effect moved with
  | idle _ same => exact .inl ⟨by rw [same], congrArg Control.records same⟩
  | closed released _ _ _ _ changed =>
      left
      have artifacts : next.control.artifacts = engine.control.artifacts := by
        rw [changed]
        cases released <;> rfl
      have records : next.control.records = engine.control.records := by
        rw [changed]
        cases released <;> rfl
      exact ⟨artifacts, records⟩
  | @committed _ _ artifact result _ _ _ _ record_eq _ _ changed =>
      have records := congrArg Control.records changed
      have stored : next.state.records[result.record.transition]? = some result.record := by
        change next.control.records[result.record.transition]? = _
        rw [records]
        exact Std.ExtTreeMap.getElem?_insert_self
      refine .inr ⟨_, result.record, stored, ?_⟩
      rw [record_eq]
      exact ⟨rfl, rfl, rfl⟩

theorem reload_recorded (sound : engine.Sound) {advance : Bool} {reply : Reply}
    (moved : engine.step (.reload advance) = some (reply, next)) {transition : TransitionId}
    {record : PromotionRecord} (held : engine.state.records[transition]? = some record) :
    ∃ restored, next.state.records[transition]? = some restored ∧
      restored.artifact = record.artifact ∧ restored.artifactRevision = record.artifactRevision ∧
      restored.target = record.target := by
  cases step_effect moved with
  | idle _ same =>
      have records : next.state.records = engine.state.records := congrArg Control.records same
      exact ⟨record, by rw [records, held], rfl, rfl, rfl⟩
  | reloaded decoded changed =>
      have records := (image_reloaded sound decoded changed).records
      refine ⟨record.restored, ?_, rfl, rfl, rfl⟩
      change next.control.records[transition]? = _
      rw [records, Std.ExtTreeMap.getElem?_map,
        show engine.control.records[transition]? = some record from held]
      rfl

theorem step_recorded (sound : engine.Sound) (held : engine.ProofsHeld) {op : Op} {reply : Reply}
    (moved : engine.step op = some (reply, next)) (kept : ¬engine.Forgets op) {id : ArtifactId}
    {artifact : ArtifactRecord} (inside : artifact ∈ next.state.chain id)
    (promoted : artifact.promoted = true) :
    ∃ (transition : TransitionId) (record : PromotionRecord),
      next.state.records[transition]? = some record ∧ record.Proves artifact := by
  have same (artifacts : next.control.artifacts = engine.control.artifacts)
      (records : next.state.records = engine.state.records) :
      ∃ (transition : TransitionId) (record : PromotionRecord),
        next.state.records[transition]? = some record ∧ record.Proves artifact := by
    have chain : next.state.chain id = engine.state.chain id := by
      change next.control.chain id = engine.control.chain id
      rw [Control.chain, artifacts, Control.chain]
    rw [chain] at inside
    rw [records]
    exact held.recorded id artifact inside promoted
  rcases step_promoted sound moved inside promoted with
    ⟨plan, now, record, rfl, accepts, target, named, revised⟩ |
    ⟨index, old, before, after, wasPromoted, named, revised⟩
  · rcases commit_recorded moved with ⟨artifacts, records⟩ | ⟨transition, made, stored, subject⟩
    · exact same artifacts records
    · exact ⟨transition, made, stored, subject.1.trans named.symm,
        subject.2.1.trans revised.symm, subject.2.2.trans target⟩
  · obtain ⟨transition, record, stored, proves⟩ :=
      held.recorded id old (List.mem_of_getElem? before) wasPromoted
    -- What proves the old revision proves the new one.
    have carry {record : PromotionRecord} (proves : record.Proves old) : record.Proves artifact :=
      ⟨proves.1.trans named.symm, proves.2.1.trans revised.symm, proves.2.2⟩
    cases online : op.online with
    | false =>
        obtain ⟨advance, rfl⟩ : ∃ advance, op = .reload advance := by
          cases op <;> simp [Op.online] at online
          exact ⟨_, rfl⟩
        obtain ⟨restored, still, artifact_eq, revision_eq, target_eq⟩ :=
          reload_recorded sound moved stored
        exact ⟨transition, restored, still, carry ⟨artifact_eq.trans proves.1,
          revision_eq.trans proves.2.1, target_eq.trans proves.2.2⟩⟩
    | true =>
        by_cases records : next.state.records = engine.state.records
        · rw [records]
          exact ⟨transition, record, stored, carry proves⟩
        by_contra lost
        have passed := changed_records moved online records
        refine kept ⟨passed, id, index, old, before, wasPromoted, ?_, ?_, ?_⟩
        · rintro ⟨plan, now, rfl, subject, revision, target⟩
          rcases commit_recorded moved with ⟨_, unchanged⟩ | ⟨made, proof, present, facts⟩
          · exact records unchanged
          · exact lost ⟨made, proof, present, carry ⟨facts.1.trans subject,
              facts.2.1.trans revision, facts.2.2.trans target⟩⟩
        · rintro ⟨withdraws, current⟩
          rw [recorded_withdrawal moved passed withdraws current after] at promoted
          cases promoted
        · intro other proof present documents
          by_contra stays
          exact lost ⟨other, proof, step_record_kept moved online present fun _ => stays,
            carry documents⟩

/-- In every run none of whose steps forgets the proof of a promoted revision, every promoted
revision of every state reached has its record and its decision. -/
theorem run_proofs_held {start final : Engine} {trace : List EngineStep}
    (constructed : Constructed start) (run : EngineRun start trace final)
    (condition : ∀ step ∈ trace, ¬Forgets step.before step.input) : final.ProofsHeld := by
  have initially : start.ProofsHeld ∧ start.PromotionsOwn ∧ start.Linked := by
    obtain ⟨config, epoch, salting, naming, rfl⟩ := constructed
    refine ⟨⟨?_, ?_⟩, ?_, create_linked config epoch salting naming⟩
    all_goals
      intro id artifact inside
      rw [create_chain] at inside
      simp at inside
  have kept := run.guarded
    (fun engine => engine.Sound ∧ engine.ProofsHeld ∧ engine.PromotionsOwn ∧ engine.Linked)
    (fun step => ¬Forgets step.before step.input)
    (fun step holds allowed moved => ?_) ⟨constructed.sound, initially⟩ condition
  · exact kept.2.1
  · obtain ⟨sound, held, own, linked⟩ := holds
    have stillOwn := step_promotions_own sound linked own moved
    refine ⟨sound_step sound moved, ⟨?_, ?_⟩, stillOwn, step_linked sound linked moved⟩
    · intro id artifact inside promoted
      exact step_recorded sound held moved allowed inside promoted
    · intro id artifact inside promoted
      obtain ⟨decision, present, _⟩ := stillOwn id artifact inside promoted
      exact OrderedMaps.contains_iff.mpr ⟨decision, present⟩

def promotesFirst (played : List EngineStep × Engine) : Bool :=
  (played.1.all fun step => step.before.state.artifacts.toList.all fun entry =>
    entry.2.all fun artifact => !artifact.promoted) &&
  (played.2.state.findCurrent ⟨0, 5⟩).any (·.promoted)

theorem run_proofs_held_promoted :
    ∃ (trace : List EngineStep) (final : Engine), EngineRun sampleEngine trace final ∧
      (final.state.findCurrent ⟨0, 5⟩).any (·.promoted) = true ∧ final.ProofsHeld := by
  have evaluated : (play step sampleEngine promoteChoices).any promotesFirst = true := by
    rw [promote_played]
    decide +kernel
  obtain ⟨trace, final, run, checked⟩ := run_of_checked evaluated
  simp only [promotesFirst, Bool.and_eq_true, List.all_eq_true, Bool.not_eq_true'] at checked
  refine ⟨trace, final, run, checked.2, run_proofs_held sampleEngine_constructed run ?_⟩
  rintro step executed ⟨_, id, index, artifact, held, promoted, _⟩
  have inside := List.mem_of_getElem? held
  rw [CoordinatorState.chain, Std.ExtTreeMap.getD_eq_getD_getElem?] at inside
  cases entry : step.before.state.artifacts[id]? with
  | none =>
      rw [entry] at inside
      simp at inside
  | some chain =>
      rw [entry, Option.getD_some] at inside
      have unpromoted := checked.1 step executed (id, chain)
        (Std.ExtTreeMap.mem_toList_iff_getElem?_eq_some.mpr entry) artifact inside
      rw [unpromoted] at promoted
      cases promoted

def forgetfulEngine : Engine := create { maxRecordsRetained := 1 } ⟨1⟩ 1 2

def retirablePolicy : PromotionPolicy :=
  { id := ⟨7, 4⟩, generation := ⟨1⟩, name := text "retirable",
    graph := { edges := [⟨.candidate, .promoted⟩, ⟨.candidate, .retired⟩, ⟨.promoted, .retired⟩] }
    rules := [{ source := .candidate, target := .promoted }] }

def promoteBesideChoices : List (Engine → Op) :=
  [fun _ => .publishPolicy retirablePolicy,
    fun _ => .registerArtifact (sampleRegistration 1) 0,
    fun engine => .evaluate (engine.sampleRequest .promoted 1) 0,
    fun engine => .commit (engine.planFor 1) 0,
    fun _ => .registerArtifact { sampleRegistration 2 with id := ⟨0, 6⟩ } 0]

def retiresBeside (engine : Engine) : Bool :=
  engine.config.maxRecordsRetained == 1 && engine.state.records.keys.length == 1 &&
    (engine.state.findCurrent ⟨0, 5⟩).any (·.promoted) &&
    (engine.step (.retire ⟨0, 6⟩ engine.state.authority 0)).any fun moved =>
      (moved.2.state.findCurrent ⟨0, 5⟩).any (·.promoted) &&
        moved.2.state.findCurrent ⟨0, 6⟩ != engine.state.findCurrent ⟨0, 6⟩

theorem putBounded_single {κ ν : Type} [Ord κ] [Std.TransOrd κ] [Std.LawfulEqOrd κ]
    {map : OrderedMap κ ν} {key other : κ} {value found : ν} (single : map.keys.length = 1)
    (present : (putBounded 1 map key value)[other]? = some found) : found = value := by
  unfold putBounded at present
  rcases OrderedMaps.insert_cases present with ⟨_, same⟩ | ⟨_, old⟩
  · exact same
  · obtain ⟨only, keys⟩ := List.length_eq_one_iff.mp single
    have full : map.size ≥ (1 : UInt64).toNat := by
      rw [← Std.ExtTreeMap.length_keys, single]
      decide
    rw [if_pos full, eraseFirst, Std.ExtTreeMap.minKey?_eq_head?_keys, keys] at old
    obtain ⟨apart, before⟩ := OrderedMaps.erase_cases old
    have inside : other ∈ map.keys := by
      rw [Std.ExtTreeMap.mem_keys, Std.ExtTreeMap.mem_iff_isSome_getElem?, before]
      rfl
    rw [keys, List.mem_singleton] at inside
    exact absurd inside apart

/-- The record of an unrelated retirement displaces the proof of the promotion. -/
theorem promotion_record_lost :
    ∃ engine, Reachable engine ∧ engine.config.valid = true ∧ ¬engine.ProofsHeld := by
  have evaluated : ((play step forgetfulEngine promoteBesideChoices).any fun played =>
      retiresBeside played.2) = true := by
    decide +kernel
  obtain ⟨engine, reachable, checked⟩ :=
    Reachable.of_play retiresBeside ⟨_, _, _, _, rfl⟩ evaluated
  simp only [retiresBeside, Bool.and_eq_true, beq_iff_eq, Option.any_eq_true, bne_iff_ne] at checked
  obtain ⟨⟨⟨bound, single⟩, _⟩, ⟨reply, next⟩, moved, ⟨artifact, found, promoted⟩, changed⟩ := checked
  obtain ⟨start, trace, constructed, run⟩ := reachable
  have reached : Reachable next :=
    ⟨start, _, constructed, run.append (.cons moved (.nil _))⟩
  refine ⟨next, reached, reached.config_valid, ?_⟩
  intro held
  obtain ⟨transition, record, stored, proves⟩ :=
    held.recorded ⟨0, 5⟩ artifact (List.mem_of_getLast? found) promoted
  rcases retire_retires ⟨0, 6⟩ engine.state.authority 0 with unchanged | ⟨retired, retires⟩
  · rw [mutated_next (step_eq_some moved).1] at unchanged
    exact changed (by rw [unchanged])
  · have records := (retires_applies retires 0).2
    rw [mutated_next (step_eq_some moved).1, bound] at records
    rw [records] at stored
    have same := putBounded_single single stored
    have target := proves.2.2
    rw [same] at target
    cases target

end Engine

end ArtifactPromotion
