import ArtifactPromotion.Domain.GraphForms
import ArtifactPromotion.Engine.PlanDecisions
import ArtifactPromotion.Engine.StaleAuthority
import ArtifactPromotion.Persist.Exactness

/-! Which revisions can be written and read back as they are: every revision the engine holds, as far
as its provenance can. -/

namespace ArtifactPromotion

open Runs

namespace ArtifactRecord

/-- The texts of the revision are within the limits of the codec, its provenance aside. -/
structure Trimmed (record : ArtifactRecord) : Prop where
  name : record.name.length ≤ kMaxNameLength
  dependencies : ∀ name ∈ record.dependencies, name.length ≤ kMaxNameLength
  quarantine : record.quarantine.reasonClass.length ≤ kMaxNameLength ∧
    record.quarantine.detail.length ≤ kMaxTextLength
  revocation : record.revocation.reasonClass.length ≤ kMaxNameLength ∧
    record.revocation.detail.length ≤ kMaxTextLength
  supersession : record.supersession.reason.length ≤ kMaxTextLength

/-- The provenance of the revision can be written and read back. -/
def Portable (record : ArtifactRecord) : Prop :=
  ∀ entry ∈ record.provenance, entry.Readable ∧ entry.Unabridged

theorem Trimmed.restored {record : ArtifactRecord} (trimmed : record.Trimmed) :
    record.restored.Trimmed where
  name := Nat.le_trans (List.length_take_le' ..) trimmed.name
  dependencies := by
    intro name inside
    obtain ⟨whole, held, rfl⟩ := List.mem_map.mp inside
    exact Nat.le_trans (List.length_take_le' ..) (trimmed.dependencies whole held)
  quarantine := ⟨Nat.le_trans (List.length_take_le' ..) trimmed.quarantine.1,
    Nat.le_trans (List.length_take_le' ..) trimmed.quarantine.2⟩
  revocation := ⟨Nat.le_trans (List.length_take_le' ..) trimmed.revocation.1,
    Nat.le_trans (List.length_take_le' ..) trimmed.revocation.2⟩
  supersession := Nat.le_trans (List.length_take_le' ..) trimmed.supersession

theorem Trimmed.unabridged {record : ArtifactRecord} (trimmed : record.Trimmed)
    (portable : record.Portable) : record.Unabridged :=
  ⟨trimmed.name, fun entry inside => (portable entry inside).2, trimmed.dependencies,
    trimmed.quarantine, trimmed.revocation, trimmed.supersession⟩

structure Presented (record : ArtifactRecord) : Prop where
  known : record.Known
  valid : record.valid = true
  trimmed : record.Trimmed

theorem Presented.readable {record : ArtifactRecord} (presented : record.Presented)
    (portable : record.Portable) : record.Readable ∧ record.Unabridged := by
  obtain ⟨⟨kind, stage⟩, valid, trimmed⟩ := presented
  refine ⟨⟨kind, ?_, fun entry inside => (portable entry inside).1, valid⟩,
    trimmed.unabridged portable⟩
  cases placed : record.stage <;> simp_all [Stage.index, Stage.toByte]

end ArtifactRecord

theorem length_of_isValidName {name : Text} (valid : isValidName name = true) :
    name.length ≤ kMaxNameLength := by
  simp only [isValidName, Bool.and_eq_true, decide_eq_true_eq] at valid
  exact valid.1.2

namespace Engine

variable {engine next : Engine}

def ArtifactsTrimmed (engine : Engine) : Prop :=
  ∀ id, ∀ record ∈ engine.state.chain id, record.Trimmed

theorem registered_trimmed {registration : ArtifactRegistration} {now : UInt64}
    {added : ArtifactRecord}
    (moved : engine.step (.registerArtifact registration now) =
      some (.registered (.ok added), next)) : added.Trimmed := by
  obtain ⟨stamped, _, _, _, made, _⟩ := registered_chain moved
  have validated := (registered_enrolls moved).validated
  simp only [ArtifactRegistration.validate, bind_eq_ok, rejectWhen_eq_ok, checkEach_eq_ok,
    Bool.not_eq_false'] at validated
  obtain ⟨_, _, _, _, _, _, _, name, _, _, _, _, _, _, _, _, dependencies⟩ := validated
  rw [made]
  refine ⟨length_of_isValidName name, ?_, ⟨Nat.zero_le _, Nat.zero_le _⟩,
    ⟨Nat.zero_le _, Nat.zero_le _⟩, Nat.zero_le _⟩
  intro dependency inside
  have listed : dependency ∈ registration.dependencies :=
    (List.mem_insertionSort _).mp (mem_dropRepeats.mp inside)
  have checked := dependencies dependency listed
  exact length_of_isValidName (by simpa [ArtifactRegistration.checkDependency] using checked)

theorem step_artifacts_trimmed (sound : engine.Sound) (trimmed : engine.ArtifactsTrimmed) {op : Op}
    {reply : Reply} (moved : engine.step op = some (reply, next)) : next.ArtifactsTrimmed := by
  intro id record inside
  obtain ⟨index, held⟩ := List.mem_iff_getElem?.mp inside
  rcases step_position sound moved held with ⟨old, before, change⟩ |
    ⟨registration, now, rfl, rfl, rfl, _⟩
  · have earlier := trimmed id old (List.mem_of_getElem? before)
    have idle (same : next = engine) : record.Trimmed := by
      rw [same] at inside
      exact trimmed id record inside
    cases change with
    | kept => exact earlier
    | restored => exact earlier.restored
    | overtaken state revision named current fresh =>
        obtain ⟨_, _, same⟩ := supersedeByRegistration_eq state revision old _
        rw [same]
        exact { earlier with
          supersession := show (text ("newer revision of the same artifact identity " ++
            "was registered")).length ≤ kMaxTextLength by decide }
    | applied named first accepts =>
        obtain ⟨_, _, _, _, same⟩ := promotedArtifact_eq engine.state.advanceSequence _ old
        rw [same]
        exact { earlier with }
    | @quarantined reasonClass detail authority =>
        have performed := congrArg Prod.snd (Option.some.inj (step_eq_some moved).1)
        rcases quarantine_quarantines id reasonClass detail authority with same | ⟨_, quarantines⟩
        · exact idle (performed.symm.trans same)
        · exact { earlier with
            quarantine := ⟨length_of_isValidName quarantines.classNamed, List.length_take_le ..⟩ }
    | released => exact { earlier with }
    | @revoked decision reasonClass detail authority cause now =>
        have performed := congrArg Prod.snd (Option.some.inj (step_eq_some moved).1)
        rcases revoke_revokes id decision reasonClass detail authority cause now with
          same | ⟨_, revokes⟩
        · exact idle (performed.symm.trans same)
        · exact { earlier with
            revocation := ⟨length_of_isValidName revokes.classNamed, List.length_take_le ..⟩ }
    | superseded => exact { earlier with supersession := List.length_take_le .. }
    | retired => exact { earlier with }
  · exact registered_trimmed moved

structure Showable (engine : Engine) : Prop where
  vetted : engine.Vetted
  authority : engine.AuthorityValid
  valid : engine.ArtifactsValid
  trimmed : engine.ArtifactsTrimmed

theorem step_showable (showable : engine.Showable) {op : Op} {reply : Reply}
    (moved : engine.step op = some (reply, next)) : next.Showable := by
  obtain ⟨vetted, authority, valid, trimmed⟩ := showable
  exact ⟨step_vetted vetted moved, step_authority_valid vetted.sound authority moved,
    step_artifacts_valid vetted.sound vetted.policy authority.2 valid moved,
    step_artifacts_trimmed vetted.sound trimmed moved⟩

theorem reachable_showable (reachable : Reachable engine) : engine.Showable := by
  obtain ⟨start, trace, constructed, run⟩ := reachable
  refine run.invariant Showable (fun _ _ _ _ held moved => step_showable held moved) ?_
  have vetted := (reachable_decided ⟨start, [], constructed, .nil start⟩).1
  have wellFormed := constructed_wellFormed constructed
  refine ⟨vetted, wellFormed.authority, wellFormed.artifacts, ?_⟩
  obtain ⟨config, epoch, salting, naming, rfl⟩ := constructed
  intro id record inside
  rw [create_chain] at inside
  simp at inside

theorem Showable.held (showable : engine.Showable) {id : ArtifactId}
    {record : ArtifactRecord} (inside : record ∈ engine.state.chain id) : record.Presented :=
  ⟨showable.vetted.artifacts id record inside, showable.valid id record inside,
    showable.trimmed id record inside⟩

theorem Showable.stamps (showable : engine.Showable) :
    (engine.state.advanceSequence.stampAuthority.valid &&
      engine.state.advanceSequence.commitSequence.valid) = true := by
  have authority : engine.state.advanceSequence.stampAuthority.valid = true :=
    stampAuthority_valid showable.authority.2
  have sequence : engine.state.advanceSequence.commitSequence.valid = true :=
    Counter.next_valid engine.state.commitSequence
  rw [authority, sequence, Bool.and_self]

theorem quarantined_presented (showable : engine.Showable) {record : ArtifactRecord}
    (presented : record.Presented) {reasonClass : Text} (named : isValidName reasonClass = true)
    (detail : Text) :
    (quarantinedArtifact engine.state.advanceSequence record reasonClass detail).Presented := by
  obtain ⟨content, trust⟩ := (ArtifactRecord.valid_iff record).mp presented.valid
  refine ⟨⟨presented.known.kind, rfl⟩, (ArtifactRecord.valid_iff _).mpr ⟨content, ?_⟩, ?_⟩
  · exact { trust with
      stage := by simp [quarantinedArtifact]
      stageGeneration := Counter.next_valid _
      quarantine := showable.stamps }
  · exact { presented.trimmed with
      quarantine := ⟨length_of_isValidName named, List.length_take_le ..⟩ }

theorem revoked_presented (showable : engine.Showable) {record : ArtifactRecord}
    (presented : record.Presented) (decision : PromotionDecisionId) {reasonClass : Text}
    (named : isValidName reasonClass = true) (detail : Text) (cause : EvidenceId) :
    (revokedArtifact engine.state.advanceSequence record decision reasonClass detail
      cause).Presented := by
  obtain ⟨content, trust⟩ := (ArtifactRecord.valid_iff record).mp presented.valid
  refine ⟨⟨presented.known.kind, rfl⟩, (ArtifactRecord.valid_iff _).mpr ⟨content, ?_⟩, ?_⟩
  · exact { trust with
      stage := by simp [revokedArtifact]
      stageGeneration := Counter.next_valid _
      revocation := showable.stamps }
  · exact { presented.trimmed with
      revocation := ⟨length_of_isValidName named, List.length_take_le ..⟩ }

end Engine

end ArtifactPromotion
