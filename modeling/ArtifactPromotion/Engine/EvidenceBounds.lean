import ArtifactPromotion.Engine.EvidenceStore

/-! Whether the evidence store stays within its two configured bounds. -/

namespace ArtifactPromotion

open Runs

def EvidenceRecord.about (subject : ArtifactId) (revision : ArtifactRevision)
    (record : EvidenceRecord) : Bool :=
  record.subject == subject && record.subjectRevision == revision

namespace Engine

variable {engine next : Engine}

theorem countEvidence_eq_size (state : CoordinatorState) (subject : ArtifactId)
    (revision : ArtifactRevision) : countEvidence state subject revision =
      (state.evidence.filter fun _ => EvidenceRecord.about subject revision).size := by
  rw [← Std.ExtTreeMap.length_toList, Std.ExtTreeMap.toList_filter]
  rfl

structure EvidenceBounded (engine : Engine) : Prop where
  stored : engine.state.evidence.size ≤ engine.config.maxEvidenceRecords.toNat
  counted : ∀ subject revision, countEvidence engine.state subject revision ≤
    engine.config.maxEvidencePerArtifactRevision.toNat

structure Replaces (engine : Engine) (submission : EvidenceSubmission) : Prop where
  validated : submission.validate = .ok ()
  admitted : engine.admissionOpen = true
  found : ∃ subject, engine.state.findRevision submission.subject submission.subjectRevision =
    some subject ∧ subject.digest = submission.subjectDigest
  current : (currentEvidence engine.state submission).isSome = true

/-- A replacement is submitted while the store, or the part of it about the submission's revision,
is full. -/
def Overfills (engine : Engine) (op : Op) : Prop :=
  ∃ submission, op = .submitEvidence submission ∧ engine.Replaces submission ∧
    (engine.config.maxEvidenceRecords.toNat ≤ engine.state.evidence.size ∨
      engine.config.maxEvidencePerArtifactRevision.toNat ≤
        countEvidence engine.state submission.subject submission.subjectRevision)

theorem submitted_room {submission : EvidenceSubmission} {record : EvidenceRecord}
    (answered : engine.submitEvidence submission = (.ok record, next)) :
    engine.Replaces submission ∨
      (engine.state.evidence.size < engine.config.maxEvidenceRecords.toNat ∧
        countEvidence engine.state submission.subject submission.subjectRevision <
          engine.config.maxEvidencePerArtifactRevision.toNat) := by
  unfold submitEvidence at answered
  split at answered
  · cases answered
  rename_i validated
  split at answered
  · cases answered
  rename_i admitted
  split at answered
  · cases answered
  rename_i subject found
  split at answered
  · cases answered
  rename_i digest
  dsimp only at answered
  split at answered
  · cases answered
  rename_i stored
  split at answered
  · cases answered
  rename_i counted
  cases current : currentEvidence engine.state submission with
  | none =>
      simp only [current, Option.isNone_none, Bool.true_and, decide_eq_true_eq, ge_iff_le,
        not_le] at stored counted
      exact .inr ⟨stored, counted⟩
  | some previous =>
      exact .inl ⟨validated, by simpa using admitted, ⟨subject, found, not_not.mp digest⟩,
        by rw [current]; rfl⟩

theorem submitted_size (sound : engine.Sound) {submission : EvidenceSubmission}
    {added : EvidenceRecord} (named : added.id = engine.control.evidenceGenerator.next)
    (keep : EvidenceRecord → Bool)
    (unmarked : ∀ record : EvidenceRecord,
      keep { record with superseded := true, supersededBy := added.id } = keep record) :
    (((supersededEvidence engine.control.evidence (currentEvidence engine.state submission)
      added).insert added.id added).filter fun _ => keep).size =
        (engine.control.evidence.filter fun _ => keep).size + if keep added then 1 else 0 := by
  have fresh : engine.control.evidence[added.id]? = none := by
    rw [named]
    exact sound.coherent.evidence_fresh sound.roomy
  unfold supersededEvidence
  cases current : currentEvidence engine.state submission with
  | none => exact OrderedMaps.size_filter_insert_new _ _ fresh
  | some previous =>
      obtain ⟨held, _⟩ := currentEvidence_held current
      have distinct : added.id ≠ previous.1 := by
        intro same
        rw [same, held] at fresh
        cases fresh
      dsimp only
      rw [OrderedMaps.size_filter_insert_new,
        OrderedMaps.size_filter_insert_held _ held (unmarked previous.2)]
      rw [OrderedMaps.getElem?_insert_ne _ _ distinct]
      exact fresh

theorem Replaces.answered {submission : EvidenceSubmission} (replaces : engine.Replaces submission) :
    ∃ record, (engine.submitEvidence submission).1 = .ok record := by
  obtain ⟨subject, found, digest⟩ := replaces.found
  obtain ⟨previous, current⟩ := Option.isSome_iff_exists.mp replaces.current
  unfold submitEvidence
  simp only [replaces.validated, replaces.admitted, found, digest, current, Bool.not_true,
    Bool.false_eq_true, if_false, ne_eq, not_true_eq_false, Option.isNone_some, Bool.false_and]
  exact ⟨_, rfl⟩

theorem submitted_counts (sound : engine.Sound) {submission : EvidenceSubmission}
    {record : EvidenceRecord}
    (moved : engine.step (.submitEvidence submission) = some (.submitted (.ok record), next)) :
    next.state.evidence.size = engine.state.evidence.size + 1 ∧
      ∀ subject revision, countEvidence next.state subject revision =
        countEvidence engine.state subject revision +
          if submission.subject = subject ∧ submission.subjectRevision = revision then 1 else 0 := by
  cases step_effect moved with
  | idle quiet _ => simp [Reply.confirmsChange] at quiet
  | submitted _ _ _ made changed =>
      obtain ⟨generation, sequence, _, _, rfl⟩ := made
      have stored : next.state.evidence = _ := congrArg Control.evidence changed
      have counter := IdentityGenerator.advance_counter (sound.coherent.evidenceRoom sound.roomy)
      have generator := congrArg Control.evidenceGenerator changed
      constructor
      · have before := sound.coherent.evidenceCounted
        have after := (sound_step sound moved).coherent.evidenceCounted
        rw [generator, counter, ← before] at after
        exact after
      · intro subject revision
        have size := @submitted_size engine sound submission (submissionRecord submission
          engine.control.evidenceGenerator.next generation sequence) rfl
          (EvidenceRecord.about subject revision) fun _ => rfl
        rw [countEvidence_eq_size, countEvidence_eq_size, stored]
        refine size.trans (congrArg _ ?_)
        simp [EvidenceRecord.about, submissionRecord]

theorem restored_count {state after : CoordinatorState}
    (restored : after.evidence = state.evidence.map fun _ => EvidenceRecord.restored)
    (subject : ArtifactId) (revision : ArtifactRevision) :
    countEvidence after subject revision = countEvidence state subject revision := by
  unfold countEvidence
  rw [restored, Std.ExtTreeMap.toList_map, List.filter_map, List.length_map]
  rfl

theorem step_evidence_counts (sound : engine.Sound) {op : Op} {reply : Reply}
    (moved : engine.step op = some (reply, next)) :
    (∃ submission record, op = .submitEvidence submission ∧ reply = .submitted (.ok record)) ∨
      (next.state.evidence.size = engine.state.evidence.size ∧ ∀ subject revision,
        countEvidence next.state subject revision =
          countEvidence engine.state subject revision) := by
  have kept (same : next.control.evidence = engine.control.evidence) :
      next.state.evidence.size = engine.state.evidence.size ∧ ∀ subject revision,
        countEvidence next.state subject revision =
          countEvidence engine.state subject revision := by
    have same : next.state.evidence = engine.state.evidence := same
    unfold countEvidence
    rw [same]
    exact ⟨rfl, fun _ _ => rfl⟩
  cases step_effect moved with
  | submitted => exact .inl ⟨_, _, rfl, rfl⟩
  | @evidenceRevoked id _ _ record _ _ found _ changed =>
      right
      have stored : next.state.evidence = _ := congrArg Control.evidence changed
      constructor
      · rw [stored]
        apply OrderedMaps.size_insert_held
        exact OrderedMaps.contains_iff.mpr ⟨record, found⟩
      · intro subject revision
        rw [countEvidence_eq_size, countEvidence_eq_size, stored]
        exact OrderedMaps.size_filter_insert_held _ found rfl
  | reloaded decoded changed =>
      right
      have restored : next.state.evidence = _ := (image_reloaded sound decoded changed).evidence
      constructor
      · rw [restored, Std.ExtTreeMap.size_map]
        rfl
      · exact restored_count restored
  | closed released _ _ _ _ changed =>
      refine .inr (kept ?_)
      rw [changed]
      cases released with
      | false => rfl
      | true => rfl
  | idle _ changed | published _ _ changed | restarted _ changed | recovered changed
  | compatibilityMoved _ changed | registrationRefused _ _ changed
  | registered _ _ _ _ _ _ _ changed | undecided _ _ _ changed | decided _ _ _ _ _ _ changed
  | issued _ _ _ _ _ _ changed | committed _ _ _ _ _ changed | quarantined _ _ _ _ changed
  | releaseRefused _ _ changed | released _ _ _ _ _ _ _ _ changed | revoked _ _ _ _ _ _ changed
  | superseded _ _ _ _ _ _ changed | retired _ _ _ changed =>
      have same := congrArg Control.evidence changed
      exact .inr (kept same)

theorem step_evidence_bounded (sound : engine.Sound) (bounded : engine.EvidenceBounded) {op : Op}
    {reply : Reply} (moved : engine.step op = some (reply, next)) (fits : ¬engine.Overfills op) :
    next.EvidenceBounded := by
  have config := step_config moved
  rcases step_evidence_counts sound moved with ⟨submission, record, rfl, rfl⟩ | ⟨size, counts⟩
  · obtain ⟨size, counts⟩ := submitted_counts sound moved
    have performed := (step_eq_some moved).1
    simp only [perform, answerWith, Option.some.injEq, Prod.mk.injEq,
      Reply.submitted.injEq] at performed
    have room : engine.state.evidence.size < engine.config.maxEvidenceRecords.toNat ∧
        countEvidence engine.state submission.subject submission.subjectRevision <
          engine.config.maxEvidencePerArtifactRevision.toNat := by
      rcases submitted_room (Prod.ext performed.1 performed.2) with replaces | room
      · constructor
        · by_contra full
          exact fits ⟨submission, rfl, replaces, .inl (Nat.le_of_not_lt full)⟩
        · by_contra full
          exact fits ⟨submission, rfl, replaces, .inr (Nat.le_of_not_lt full)⟩
      · exact room
    constructor
    case stored =>
      rw [size, config]
      omega
    case counted =>
      intro subject revision
      have before := bounded.counted subject revision
      rw [counts, config]
      split
      · rename_i same
        obtain ⟨rfl, rfl⟩ := same
        omega
      · omega
  · constructor
    case stored =>
      rw [size, config]
      exact bounded.stored
    case counted =>
      intro subject revision
      rw [counts, config]
      exact bounded.counted subject revision

theorem overfilled_unbounded (sound : engine.Sound) {op : Op} {reply : Reply}
    (moved : engine.step op = some (reply, next)) (overfills : engine.Overfills op) :
    ¬next.EvidenceBounded := by
  obtain ⟨submission, rfl, replaces, full⟩ := overfills
  obtain ⟨record, answered⟩ := replaces.answered
  have config := step_config moved
  have performed := (step_eq_some moved).1
  simp only [perform, answerWith, Option.some.injEq, Prod.mk.injEq] at performed
  rw [answered] at performed
  rw [← performed.1] at moved
  obtain ⟨size, counts⟩ := submitted_counts sound moved
  intro bounded
  rcases full with stored | counted
  · have after := bounded.stored
    rw [size, config] at after
    omega
  · have after := bounded.counted submission.subject submission.subjectRevision
    rw [counts, config, if_pos ⟨rfl, rfl⟩] at after
    omega

theorem constructed_evidence_bounded (constructed : Constructed engine) :
    engine.EvidenceBounded := by
  obtain ⟨config, epoch, salting, naming, rfl⟩ := constructed
  constructor
  case stored =>
    change (∅ : OrderedMap EvidenceId EvidenceRecord).size ≤ _
    rw [Std.ExtTreeMap.size_empty]
    omega
  case counted =>
    intro subject revision
    rw [countEvidence_eq_size]
    have within : ((∅ : OrderedMap EvidenceId EvidenceRecord).filter fun _ =>
        EvidenceRecord.about subject revision).size ≤ 0 :=
      Std.ExtTreeMap.size_filter_le_size.trans (Nat.le_of_eq Std.ExtTreeMap.size_empty)
    exact within.trans (Nat.zero_le _)

/-- Both bounds of the evidence store hold in every state of a run exactly when no step of the run
replaces a record while the store, or the part about the record's revision, is full. -/
theorem run_evidence_bounded_iff {start final : Engine} {trace : List EngineStep}
    (constructed : Constructed start) (run : EngineRun start trace final) :
    (start.EvidenceBounded ∧ ∀ step ∈ trace, step.after.EvidenceBounded) ↔
      ∀ step ∈ trace, ¬step.before.Overfills step.input := by
  constructor
  · rintro ⟨_, bounded⟩ step executed overfills
    obtain ⟨past, future, rfl⟩ := List.append_of_mem executed
    obtain ⟨before, moved, _⟩ := run.cut
    have sound := EngineRun.sound before constructed.sound
    exact overfilled_unbounded sound moved overfills (bounded step executed)
  · intro fits
    have initially := constructed_evidence_bounded constructed
    have bounded := run.throughout (fun engine => engine.Sound ∧ engine.EvidenceBounded)
      (fun step => ¬step.before.Overfills step.input)
      (fun step held allowed moved => ⟨sound_step held.1 moved,
        step_evidence_bounded held.1 held.2 moved allowed⟩) ⟨constructed.sound, initially⟩ fits
    exact ⟨initially, fun step executed => (bounded step executed).2.2⟩

def resubmitTwice : List (Engine → Op) :=
  [fun _ => .registerArtifact (sampleRegistration 1) 0,
    fun engine => .submitEvidence engine.sampleEvidence,
    fun engine => .submitEvidence engine.sampleEvidence]

def submitsWithRoom (trace : List EngineStep) : Bool :=
  trace.all fun step =>
    match step.input with
    | .submitEvidence submission =>
        step.before.state.evidence.size < step.before.config.maxEvidenceRecords.toNat &&
          countEvidence step.before.state submission.subject submission.subjectRevision <
            step.before.config.maxEvidencePerArtifactRevision.toNat
    | _ => true

theorem run_evidence_bounded_iff_resubmitted :
    ∃ (trace : List EngineStep) (final : Engine), EngineRun sampleEngine trace final ∧
      final.state.evidence.size = 2 ∧ (∀ step ∈ trace, ¬step.before.Overfills step.input) ∧
      ∀ step ∈ trace, step.after.EvidenceBounded := by
  have evaluated : (play step sampleEngine resubmitTwice).any (fun played =>
      submitsWithRoom played.1 && played.2.state.evidence.size == 2) = true := by
    decide +kernel
  obtain ⟨trace, final, run, checked⟩ := run_of_checked evaluated
  simp only [submitsWithRoom, Bool.and_eq_true, List.all_eq_true, beq_iff_eq] at checked
  have fits : ∀ step ∈ trace, ¬step.before.Overfills step.input := by
    rintro step executed ⟨submission, input, _, full⟩
    have room := checked.1 step executed
    simp only [input, Bool.and_eq_true, decide_eq_true_eq] at room
    omega
  exact ⟨trace, final, run, checked.2, fits,
    ((run_evidence_bounded_iff sampleEngine_constructed run).mpr fits).2⟩

def crampedEngine : Engine :=
  create { maxEvidenceRecords := 1, maxEvidencePerArtifactRevision := 1 } ⟨1⟩ 1 2

/-- One producer submits the same evidence twice and leaves both bounds of a valid configuration
behind. -/
theorem resubmission_exceeds_bounds :
    ∃ (engine : Engine) (subject : ArtifactId) (revision : ArtifactRevision), Reachable engine ∧
      engine.config.valid = true ∧
      engine.config.maxEvidenceRecords.toNat < engine.state.evidence.size ∧
      engine.config.maxEvidencePerArtifactRevision.toNat <
        countEvidence engine.state subject revision := by
  have evaluated : ((play step crampedEngine resubmitTwice).any fun played =>
      decide (played.2.config.maxEvidenceRecords.toNat < played.2.state.evidence.size) &&
        decide (played.2.config.maxEvidencePerArtifactRevision.toNat <
          countEvidence played.2.state ⟨0, 5⟩ ((played.2.state.findCurrent ⟨0, 5⟩).getD {}).revision)) =
            true := by
    decide +kernel
  obtain ⟨engine, reachable, checked⟩ := Reachable.of_play (fun engine =>
    decide (engine.config.maxEvidenceRecords.toNat < engine.state.evidence.size) &&
      decide (engine.config.maxEvidencePerArtifactRevision.toNat < countEvidence engine.state ⟨0, 5⟩
        ((engine.state.findCurrent ⟨0, 5⟩).getD {}).revision)) ⟨_, _, _, _, rfl⟩ evaluated
  simp only [Bool.and_eq_true, decide_eq_true_eq] at checked
  exact ⟨engine, _, _, reachable, reachable.config_valid, checked.1, checked.2⟩

end Engine

end ArtifactPromotion
