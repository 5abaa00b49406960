import ArtifactPromotion.Engine.LiveEvidence
import ArtifactPromotion.Engine.RevisionChains
import ArtifactPromotion.Library.Versions
import ArtifactPromotion.Persist.Exactness

/-! The evidence store: what its records are bound to, which of them are current, and what later
operations may change of them. -/

namespace ArtifactPromotion

open Runs

namespace EvidenceRecord

structure Continues (later earlier : EvidenceRecord) : Prop where
  revocation : (later.revoked = earlier.revoked ∧
      later.revocationReason = earlier.revocationReason ∧
      later.revocationAuthority = earlier.revocationAuthority ∧
      later.revocationSequence = earlier.revocationSequence ∧
      later.integrityDigest = earlier.integrityDigest) ∨
    (earlier.revoked = false ∧ later.revoked = true)
  supersession : (later.superseded = earlier.superseded ∧
      later.supersededBy = earlier.supersededBy) ∨
    (earlier.superseded = false ∧ later.superseded = true)
  unaltered : later = { earlier with
    revoked := later.revoked, revocationReason := later.revocationReason,
    revocationAuthority := later.revocationAuthority,
    revocationSequence := later.revocationSequence, integrityDigest := later.integrityDigest,
    superseded := later.superseded, supersededBy := later.supersededBy }

namespace Continues

theorem refl (record : EvidenceRecord) : record.Continues record :=
  ⟨.inl ⟨rfl, rfl, rfl, rfl, rfl⟩, .inl ⟨rfl, rfl⟩, rfl⟩

theorem trans {first second third : EvidenceRecord} (later : third.Continues second)
    (earlier : second.Continues first) : third.Continues first := by
  obtain ⟨revoked, superseded, same⟩ := later
  obtain ⟨revokedBefore, supersededBefore, sameBefore⟩ := earlier
  refine ⟨?_, ?_, ?_⟩
  · rcases revoked with ⟨flag, reason, authority, sequence, digest⟩ | ⟨flag, moved⟩
    · rw [flag, reason, authority, sequence, digest]
      exact revokedBefore
    · rcases revokedBefore with ⟨flagBefore, _⟩ | ⟨_, movedBefore⟩
      · exact .inr ⟨flagBefore.symm.trans flag, moved⟩
      · rw [movedBefore] at flag
        cases flag
  · rcases superseded with ⟨flag, by_eq⟩ | ⟨flag, moved⟩
    · rw [flag, by_eq]
      exact supersededBefore
    · rcases supersededBefore with ⟨flagBefore, _⟩ | ⟨_, movedBefore⟩
      · exact .inr ⟨flagBefore.symm.trans flag, moved⟩
      · rw [movedBefore] at flag
        cases flag
  · rw [same, sameBefore]

end Continues

def version (record : EvidenceRecord) : Versions.Version EvidenceKey EvidenceId :=
  ⟨EvidenceKey.of record, record.generation.value.toNat,
    if record.superseded then some record.supersededBy else none⟩

end EvidenceRecord

namespace Engine

variable {engine next : Engine}

structure EvidenceStored (engine : Engine) : Prop where
  bound : ∀ (id : EvidenceId) (record : EvidenceRecord),
    engine.state.evidence[id]? = some record → ∃ artifact,
      engine.state.findRevision record.subject record.subjectRevision = some artifact ∧
        artifact.digest = record.subjectDigest
  integrity : ∀ (id : EvidenceId) (record : EvidenceRecord),
    engine.state.evidence[id]? = some record →
      computeEvidenceIntegrity record = record.integrityDigest
  current : ∀ (id other : EvidenceId) (record second : EvidenceRecord),
    engine.state.evidence[id]? = some record → engine.state.evidence[other]? = some second →
      EvidenceKey.of record = EvidenceKey.of second → record.superseded = false →
        second.superseded = false → id = other
  replaced : ∀ (id : EvidenceId) (record : EvidenceRecord),
    engine.state.evidence[id]? = some record → record.superseded = true → ∃ newer,
      engine.state.evidence[record.supersededBy]? = some newer ∧
        EvidenceKey.of newer = EvidenceKey.of record ∧
        newer.generation.value.toNat = record.generation.value.toNat + 1

def replacementGeneration (replaced : Option (EvidenceId × EvidenceRecord)) : EvidenceGeneration :=
  match replaced with
  | some previous => previous.2.generation.next
  | none => ⟨1⟩

theorem submitEvidence_record {submission : EvidenceSubmission} {record : EvidenceRecord}
    (accepted : (engine.submitEvidence submission).1 = .ok record) :
    record = submissionRecord submission engine.control.evidenceGenerator.next
      (replacementGeneration (currentEvidence engine.state submission))
      engine.state.commitSequence.next := by
  unfold submitEvidence at accepted
  cases validated : submission.validate with
  | error status =>
      rw [validated] at accepted
      cases accepted
  | ok done =>
      rw [validated] at accepted
      dsimp only at accepted
      split at accepted
      · cases accepted
      split at accepted
      · cases accepted
      split at accepted
      · cases accepted
      split at accepted
      · cases accepted
      split at accepted
      · cases accepted
      generalize currentEvidence engine.state submission = replaced at accepted ⊢
      cases replaced <;> exact (Except.ok.inj accepted).symm

inductive StoreChange (engine next : Engine) : Op → Prop
  | kept {op} (same : next.control.evidence = engine.control.evidence) : StoreChange engine next op
  | submitted {submission} {artifact : ArtifactRecord} {record : EvidenceRecord}
      (validated : submission.validate = .ok ())
      (found : engine.state.findRevision submission.subject submission.subjectRevision =
        some artifact)
      (digest : artifact.digest = submission.subjectDigest)
      (made : record = submissionRecord submission engine.control.evidenceGenerator.next
        (replacementGeneration (currentEvidence engine.state submission))
        engine.state.commitSequence.next)
      (changed : next.control.evidence = (supersededEvidence engine.control.evidence
        (currentEvidence engine.state submission) record).insert record.id record) :
      StoreChange engine next (.submitEvidence submission)
  | revoked {id reason authority} {record : EvidenceRecord}
      (found : engine.control.evidence[id]? = some record) (unrevoked : record.revoked = false)
      (changed : next.control.evidence = engine.control.evidence.insert id
        (revokedEvidence engine.state.advanceSequence record reason)) :
      StoreChange engine next (.revokeEvidence id reason authority)
  | reloaded {advance} (changed : next.control.evidence =
      engine.control.evidence.map fun _ => EvidenceRecord.restored) :
      StoreChange engine next (.reload advance)

theorem step_storeChange (sound : engine.Sound) {op : Op} {reply : Reply}
    (moved : engine.step op = some (reply, next)) : StoreChange engine next op := by
  cases step_effect moved with
  | idle _ same => exact .kept (by rw [same])
  | @submitted submission subject record _ validated found digest made changed =>
      have performed := (step_eq_some moved).1
      have accepted : (engine.submitEvidence submission).1 = .ok record := by
        change answerWith .submitted (engine.submitEvidence submission) = _ at performed
        simp only [answerWith, Option.some.injEq, Prod.mk.injEq, Reply.submitted.injEq] at performed
        exact performed.1
      exact .submitted validated found digest (submitEvidence_record accepted)
        (congrArg Control.evidence changed)
  | closed _ _ _ _ _ changed =>
      refine .kept ?_
      rw [changed]
      split <;> rfl
  | evidenceRevoked found unrevoked changed =>
      exact .revoked found unrevoked (congrArg Control.evidence changed)
  | reloaded decoded changed => exact .reloaded (image_reloaded sound decoded changed).evidence
  | published _ _ changed | restarted _ changed | recovered changed
  | compatibilityMoved _ changed | registrationRefused _ _ changed
  | registered _ _ _ _ _ _ _ changed | undecided _ _ _ changed
  | decided _ _ _ _ _ _ changed | issued _ _ _ _ _ _ changed
  | committed _ _ _ _ _ changed | quarantined _ _ _ _ changed | releaseRefused _ _ changed
  | released _ _ _ _ _ _ _ _ changed | revoked _ _ _ _ _ _ changed
  | superseded _ _ _ _ _ _ changed | retired _ _ _ changed =>
      have same := congrArg Control.evidence changed
      exact .kept same

structure Recorded (engine : Engine) (id : EvidenceId) (record : EvidenceRecord) : Prop where
  bound : ∃ artifact, engine.state.findRevision record.subject record.subjectRevision =
    some artifact ∧ artifact.digest = record.subjectDigest
  integrity : computeEvidenceIntegrity record = record.integrityDigest
  unabridged : record.Unabridged
  numbered : record.generation.value.toNat ≤ id.low.toNat

def AllRecorded (engine : Engine) : Prop :=
  ∀ (id : EvidenceId) (record : EvidenceRecord), engine.control.evidence[id]? = some record →
    engine.Recorded id record

theorem step_subject_found (sound : engine.Sound) {op : Op} {reply : Reply}
    (moved : engine.step op = some (reply, next)) {id : ArtifactId} {revision : ArtifactRevision}
    {digest : Digest}
    (bound : ∃ artifact, engine.state.findRevision id revision = some artifact ∧
      artifact.digest = digest) :
    ∃ artifact, next.state.findRevision id revision = some artifact ∧ artifact.digest = digest := by
  obtain ⟨artifact, found, same⟩ := bound
  obtain ⟨revised, still, _, _, change⟩ := step_findRevision sound moved found
  exact ⟨revised, still, (revised_content change).2.2.2.trans same⟩

theorem submission_unabridged {submission : EvidenceSubmission}
    (validated : submission.validate = .ok ()) (id : EvidenceId) (generation : EvidenceGeneration)
    (sequence : CommitSequence) :
    (submissionRecord submission id generation sequence).Unabridged := by
  simp only [EvidenceSubmission.validate, bind_eq_ok, rejectWhen_eq_ok, Bool.or_eq_false_iff,
    Bool.and_eq_false_imp, Bool.not_eq_false', isValidText, isValidName, Bool.and_eq_true,
    decide_eq_true_eq] at validated
  obtain ⟨_, _, _, _, _, _, _, _, _, custom, _, builtIn, _, _, _, _, _, _, _, _, _, texts, _⟩ :=
    validated
  obtain ⟨⟨⟨measurement, _⟩, detail, _⟩, environment, _⟩ := texts
  refine ⟨?_, measurement, detail, environment, Nat.zero_le _⟩
  change submission.customType.length ≤ kMaxNameLength
  by_cases named : submission.type = .custom
  · exact (custom (by rw [named]; rfl)).1.2
  · have unnamed := builtIn (by simpa using named)
    rw [List.isEmpty_iff.mp unnamed]
    exact Nat.zero_le _

theorem currentEvidence_held {submission : EvidenceSubmission}
    {previous : EvidenceId × EvidenceRecord}
    (current : currentEvidence engine.state submission = some previous) :
    engine.control.evidence[previous.1]? = some previous.2 ∧
      EvidenceKey.of previous.2 = ⟨submission.subject, submission.subjectRevision, submission.type,
        submission.customType, submission.producer⟩ ∧ previous.2.superseded = false := by
  have inside := List.mem_of_find?_eq_some current
  have keyed := List.find?_some current
  simp only [Bool.and_eq_true, beq_iff_eq, Bool.not_eq_true'] at keyed
  exact ⟨Std.ExtTreeMap.mem_toList_iff_getElem?_eq_some.mp inside, keyed⟩

theorem submitted_entry {submission : EvidenceSubmission} {added record : EvidenceRecord}
    {id : EvidenceId}
    (held : ((supersededEvidence engine.control.evidence (currentEvidence engine.state submission)
      added).insert added.id added)[id]? = some record) :
    (id = added.id ∧ record = added) ∨ engine.control.evidence[id]? = some record ∨
      ∃ old, engine.control.evidence[id]? = some old ∧
        record = { old with superseded := true, supersededBy := added.id } := by
  rcases OrderedMaps.insert_cases held with new | ⟨_, before⟩
  · exact .inl new
  · right
    unfold supersededEvidence at before
    cases current : currentEvidence engine.state submission with
    | none =>
        rw [current] at before
        exact .inl before
    | some previous =>
        rw [current] at before
        rcases OrderedMaps.insert_cases before with ⟨rfl, rfl⟩ | ⟨_, before⟩
        · exact .inr ⟨previous.2, (currentEvidence_held current).1, rfl⟩
        · exact .inl before

theorem replacement_numbered (sound : engine.Sound) (recorded : engine.AllRecorded)
    (submission : EvidenceSubmission) :
    (replacementGeneration (currentEvidence engine.state submission)).value.toNat ≤
      engine.control.evidenceGenerator.next.low.toNat := by
  have room := sound.coherent.evidenceRoom sound.roomy
  have low : engine.control.evidenceGenerator.next.low.toNat =
      engine.control.evidenceGenerator.counter.toNat + 1 := IdentityGenerator.advance_counter room
  cases current : currentEvidence engine.state submission with
  | none =>
      change (1 : UInt64).toNat ≤ _
      rw [low, UInt64.toNat_one]
      omega
  | some previous =>
      obtain ⟨held, _⟩ := currentEvidence_held current
      have numbered := (recorded previous.1 previous.2 held).numbered
      have issued := (sound.coherent.evidence previous.1 previous.2 held).2.2.2
      have moved := previous.2.generation.next_value
      change previous.2.generation.next.value.toNat ≤ _
      omega

theorem Recorded.admitted {id : EvidenceId} {record : EvidenceRecord}
    (recorded : engine.Recorded id record) : record.Admitted := by
  obtain ⟨customType, measurement, detail, environment, _⟩ := recorded.unabridged
  exact ⟨customType, measurement, detail, environment⟩

theorem Recorded.supersede {id : EvidenceId} {record : EvidenceRecord}
    (recorded : engine.Recorded id record) (newer : EvidenceId) :
    engine.Recorded id { record with superseded := true, supersededBy := newer } := by
  obtain ⟨customType, measurement, detail, environment, reason⟩ := recorded.unabridged
  exact ⟨recorded.bound, recorded.integrity, ⟨customType, measurement, detail, environment, reason⟩,
    recorded.numbered⟩

theorem Recorded.revoke {id : EvidenceId} {record : EvidenceRecord}
    (recorded : engine.Recorded id record) (state : CoordinatorState) (reason : Text) :
    engine.Recorded id (revokedEvidence state record reason) := by
  obtain ⟨customType, measurement, detail, environment, _⟩ := recorded.unabridged
  refine ⟨recorded.bound, rfl, ⟨customType, measurement, detail, environment, ?_⟩,
    recorded.numbered⟩
  exact List.length_take_le _ _

theorem restored_evidence (recorded : engine.AllRecorded) :
    (engine.control.evidence.map fun _ => EvidenceRecord.restored) = engine.control.evidence := by
  rw [OrderedMaps.map_eq_self_iff]
  intro entry inside
  rw [EvidenceRecord.restored_eq_iff]
  exact (recorded entry.1 entry.2
    (Std.ExtTreeMap.mem_toList_iff_getElem?_eq_some.mp inside)).unabridged

theorem step_recorded_evidence (sound : engine.Sound) (recorded : engine.AllRecorded) {op : Op}
    {reply : Reply} (moved : engine.step op = some (reply, next)) : next.AllRecorded := by
  have carry {id : EvidenceId} {record : EvidenceRecord} (before : engine.Recorded id record) :
      next.Recorded id record :=
    ⟨step_subject_found sound moved before.bound, before.integrity, before.unabridged,
      before.numbered⟩
  have unchanged (same : next.control.evidence = engine.control.evidence) : next.AllRecorded := by
    intro id record held
    rw [same] at held
    exact carry (recorded id record held)
  cases step_storeChange sound moved with
  | kept same => exact unchanged same
  | reloaded changed => exact unchanged (changed.trans (restored_evidence recorded))
  | revoked found unrevoked changed =>
      intro id record held
      rw [changed] at held
      rcases OrderedMaps.insert_cases held with ⟨rfl, rfl⟩ | ⟨_, before⟩
      · exact carry ((recorded _ _ found).revoke _ _)
      · exact carry (recorded id record before)
  | @submitted submission artifact record validated found digest made changed =>
      intro id other held
      rw [changed] at held
      rcases submitted_entry held with ⟨rfl, rfl⟩ | before | ⟨old, before, rfl⟩
      · subst made
        exact ⟨step_subject_found sound moved ⟨artifact, found, digest⟩, rfl,
          submission_unabridged validated _ _ _, replacement_numbered sound recorded submission⟩
      · exact carry (recorded id other before)
      · exact carry ((recorded _ _ before).supersede _)

def versionsOf (evidence : OrderedMap EvidenceId EvidenceRecord) :
    Versions.Store EvidenceKey EvidenceId :=
  fun id => evidence[id]?.map EvidenceRecord.version

theorem versionsOf_insert (evidence : OrderedMap EvidenceId EvidenceRecord) (id : EvidenceId)
    (record : EvidenceRecord) :
    versionsOf (evidence.insert id record) =
      Function.update (versionsOf evidence) id (some record.version) := by
  funext other
  unfold versionsOf
  by_cases same : other = id
  · subst same
    rw [Std.ExtTreeMap.getElem?_insert_self, Function.update_self]
    rfl
  · rw [OrderedMaps.getElem?_insert_ne _ _ same, Function.update_of_ne same]

theorem submission_adds (sound : engine.Sound) (recorded : engine.AllRecorded)
    (submission : EvidenceSubmission) {record : EvidenceRecord}
    (made : record = submissionRecord submission engine.control.evidenceGenerator.next
      (replacementGeneration (currentEvidence engine.state submission))
      engine.state.commitSequence.next) :
    Versions.Adds (versionsOf engine.control.evidence) record.id (EvidenceKey.of record)
      (versionsOf ((supersededEvidence engine.control.evidence
        (currentEvidence engine.state submission) record).insert record.id record)) := by
  have version : record.version = ⟨EvidenceKey.of record,
      (replacementGeneration (currentEvidence engine.state submission)).value.toNat, none⟩ := by
    rw [made]
    rfl
  have keyed : EvidenceKey.of record = ⟨submission.subject, submission.subjectRevision,
      submission.type, submission.customType, submission.producer⟩ := by
    rw [made]
    rfl
  rw [versionsOf_insert, version]
  cases current : currentEvidence engine.state submission with
  | none =>
      refine .first _ fun id version held same => ?_
      obtain ⟨found, present, rfl⟩ := Option.map_eq_some_iff.mp held
      have inside := Std.ExtTreeMap.mem_toList_iff_getElem?_eq_some.mpr present
      have passed := List.find?_eq_none.mp current _ inside
      have superseded : found.superseded = true := by
        by_contra live
        refine passed ?_
        rw [Bool.and_eq_true, beq_iff_eq, Bool.not_eq_true']
        exact ⟨same.trans keyed, by simpa using live⟩
      simp [EvidenceRecord.version, superseded]
  | some previous =>
      obtain ⟨held, same, live⟩ := currentEvidence_held current
      have numbered := (recorded previous.1 previous.2 held).numbered
      have issued := (sound.coherent.evidence previous.1 previous.2 held).2.2.2
      have room := sound.coherent.evidenceRoom sound.roomy
      have number : (replacementGeneration (some previous)).value.toNat =
          previous.2.version.number + 1 := by
        change previous.2.generation.next.value.toNat = previous.2.generation.value.toNat + 1
        rw [previous.2.generation.next_value]
        omega
      have replaced : ({ previous.2 with superseded := true, supersededBy := record.id } :
          EvidenceRecord).version = { previous.2.version with replacedBy := some record.id } := rfl
      unfold supersededEvidence
      dsimp only
      rw [versionsOf_insert, replaced, number]
      refine .replacing ?_ (same.trans keyed.symm) ?_
      · rw [versionsOf, held]
        rfl
      · simp [EvidenceRecord.version, live]

theorem step_linear (sound : engine.Sound) (recorded : engine.AllRecorded)
    (linear : Versions.Linear (versionsOf engine.control.evidence)) {op : Op} {reply : Reply}
    (moved : engine.step op = some (reply, next)) :
    Versions.Linear (versionsOf next.control.evidence) := by
  cases step_storeChange sound moved with
  | kept same => rwa [same]
  | reloaded changed => rwa [changed, restored_evidence recorded]
  | @revoked id reason _ record found unrevoked changed =>
      have version : (revokedEvidence engine.state.advanceSequence record reason).version =
          record.version := rfl
      rw [changed, versionsOf_insert, version, Function.update_eq_self_iff.mpr]
      · exact linear
      · rw [versionsOf, found]
        rfl
  | @submitted submission artifact record _ _ _ made changed =>
      rw [changed]
      refine (submission_adds sound recorded submission made).linear linear ?_
      have fresh : record.id = engine.control.evidenceGenerator.next := by
        rw [made]
        rfl
      rw [versionsOf, fresh, sound.coherent.evidence_fresh sound.roomy]
      rfl

theorem step_continues (sound : engine.Sound) (recorded : engine.AllRecorded) {op : Op}
    {reply : Reply} (moved : engine.step op = some (reply, next)) {id : EvidenceId}
    {record : EvidenceRecord} (held : engine.control.evidence[id]? = some record) :
    ∃ later, next.control.evidence[id]? = some later ∧ later.Continues record := by
  have unchanged (same : next.control.evidence = engine.control.evidence) :
      ∃ later, next.control.evidence[id]? = some later ∧ later.Continues record :=
    ⟨record, by rw [same, held], .refl record⟩
  cases step_storeChange sound moved with
  | kept same => exact unchanged same
  | reloaded changed => exact unchanged (changed.trans (restored_evidence recorded))
  | @revoked subject reason _ _ found unrevoked changed =>
      by_cases same : id = subject
      · subst same
        rw [held, Option.some.injEq] at found
        subst found
        refine ⟨revokedEvidence engine.state.advanceSequence record reason, ?_, ?_⟩
        · rw [changed, Std.ExtTreeMap.getElem?_insert_self]
        · exact ⟨.inr ⟨unrevoked, rfl⟩, .inl ⟨rfl, rfl⟩, rfl⟩
      · refine ⟨record, ?_, .refl record⟩
        rw [changed, OrderedMaps.getElem?_insert_ne _ _ same, held]
  | @submitted submission artifact newer _ _ _ made changed =>
      have fresh : newer.id = engine.control.evidenceGenerator.next := by
        rw [made]
        rfl
      have apart : id ≠ newer.id := by
        rintro rfl
        rw [fresh, sound.coherent.evidence_fresh sound.roomy] at held
        cases held
      rw [changed, OrderedMaps.getElem?_insert_ne _ _ apart]
      unfold supersededEvidence
      cases current : currentEvidence engine.state submission with
      | none => exact ⟨record, held, .refl record⟩
      | some previous =>
          dsimp only
          obtain ⟨present, _, live⟩ := currentEvidence_held current
          by_cases same : id = previous.1
          · subst same
            rw [held, Option.some.injEq] at present
            subst present
            exact ⟨_, Std.ExtTreeMap.getElem?_insert_self,
              .inl ⟨rfl, rfl, rfl, rfl, rfl⟩, .inr ⟨live, rfl⟩, rfl⟩
          · refine ⟨record, ?_, .refl record⟩
            rw [OrderedMaps.getElem?_insert_ne _ _ same, held]

structure StoreSound (engine : Engine) : Prop where
  sound : engine.Sound
  recorded : engine.AllRecorded
  linear : Versions.Linear (versionsOf engine.control.evidence)

theorem StoreSound.step (kept : engine.StoreSound) {op : Op} {reply : Reply}
    (moved : engine.step op = some (reply, next)) : next.StoreSound :=
  ⟨sound_step kept.sound moved, step_recorded_evidence kept.sound kept.recorded moved,
    step_linear kept.sound kept.recorded kept.linear moved⟩

theorem constructed_storeSound (constructed : Constructed engine) : engine.StoreSound := by
  have empty : engine.control.evidence = ∅ := by
    obtain ⟨config, epoch, salting, naming, rfl⟩ := constructed
    rfl
  have none (id : EvidenceId) : versionsOf engine.control.evidence id = none := by
    rw [versionsOf, empty]
    simp
  refine ⟨constructed.sound, ?_, ?_, ?_⟩
  · intro id record held
    rw [empty] at held
    simp at held
  · intro left _ _ _ held
    rw [none left] at held
    cases held
  · intro id _ _ held
    rw [none id] at held
    cases held

theorem run_storeSound {start final : Engine} {trace : List EngineStep}
    (kept : start.StoreSound) (run : EngineRun start trace final) : final.StoreSound :=
  run.invariant StoreSound (fun _ _ _ _ kept moved => kept.step moved) kept

theorem StoreSound.stored (kept : engine.StoreSound) : engine.EvidenceStored where
  bound id record held := (kept.recorded id record held).bound
  integrity id record held := (kept.recorded id record held).integrity
  current := by
    intro id other record second held too same live alive
    refine kept.linear.current id other record.version second.version ?_ ?_ same ?_ ?_
    · exact congrArg (Option.map EvidenceRecord.version) held
    · exact congrArg (Option.map EvidenceRecord.version) too
    · simp [EvidenceRecord.version, live]
    · simp [EvidenceRecord.version, alive]
  replaced := by
    intro id record held superseded
    obtain ⟨successor, found, keyed, number⟩ := kept.linear.replaced id record.version
      record.supersededBy (congrArg (Option.map EvidenceRecord.version) held)
      (by simp [EvidenceRecord.version, superseded])
    obtain ⟨newer, present, rfl⟩ := Option.map_eq_some_iff.mp found
    exact ⟨newer, present, keyed, number⟩

theorem run_continues {start final : Engine} {trace : List EngineStep} (kept : start.StoreSound)
    (run : EngineRun start trace final) {id : EvidenceId} {record : EvidenceRecord}
    (held : start.state.evidence[id]? = some record) :
    ∃ later, final.state.evidence[id]? = some later ∧ later.Continues record := by
  refine (run.invariant (fun engine => engine.StoreSound ∧
    ∃ later, engine.control.evidence[id]? = some later ∧ later.Continues record) ?_
    ⟨kept, record, held, .refl record⟩).2
  rintro before op reply after ⟨kept, later, present, continues⟩ moved
  obtain ⟨newest, still, change⟩ := step_continues kept.sound kept.recorded moved present
  exact ⟨kept.step moved, newest, still, change.trans continues⟩

/-- In every state of every run the evidence store is sound, and every record of every earlier state
is still there, unless revoked or superseded as it was. -/
theorem run_evidence_stored {start final : Engine} {trace : List EngineStep}
    (constructed : Constructed start) (run : EngineRun start trace final) :
    final.EvidenceStored ∧ ∀ step ∈ trace, ∀ (id : EvidenceId) (record : EvidenceRecord),
      step.before.state.evidence[id]? = some record →
        ∃ later, final.state.evidence[id]? = some later ∧ later.Continues record := by
  have initially := constructed_storeSound constructed
  refine ⟨(run_storeSound initially run).stored, ?_⟩
  intro step executed id record held
  obtain ⟨past, future, rfl⟩ := List.append_of_mem executed
  obtain ⟨before, moved, after⟩ := run.cut
  exact run_continues (run_storeSound initially before) (.cons moved after) held

def resubmitChoices : List (Engine → Op) :=
  [fun _ => .registerArtifact (sampleRegistration 1) 0,
    fun engine => .submitEvidence engine.sampleEvidence,
    fun engine => .revokeEvidence engine.sampleEvidenceId [] engine.state.authority,
    fun engine => .submitEvidence engine.sampleEvidence]

def replacesRevoked (engine : Engine) : Bool :=
  engine.state.evidence.toList.any fun entry => entry.2.revoked && entry.2.superseded

theorem run_evidence_stored_resubmitted :
    ∃ (trace : List EngineStep) (final : Engine), EngineRun sampleEngine trace final ∧
      replacesRevoked final = true ∧ final.EvidenceStored ∧
      ∀ step ∈ trace, ∀ (id : EvidenceId) (record : EvidenceRecord),
        step.before.state.evidence[id]? = some record →
          ∃ later, final.state.evidence[id]? = some later ∧ later.Continues record := by
  have evaluated : ((play step sampleEngine resubmitChoices).any fun played =>
      replacesRevoked played.2) = true := by
    decide +kernel
  obtain ⟨trace, final, run, checked⟩ := run_of_checked evaluated
  exact ⟨trace, final, run, checked, run_evidence_stored sampleEngine_constructed run⟩

end Engine

end ArtifactPromotion
