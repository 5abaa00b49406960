import ArtifactPromotion.Engine.Accounting
import ArtifactPromotion.Engine.Bookkeeping
import ArtifactPromotion.Engine.Consistency
import ArtifactPromotion.Engine.TrustFlags

/-! The check the engine offers of its own state: which of its complaints can ever be heard, and in
which runs none of them is. -/

namespace ArtifactPromotion

open Runs

/-- One `if (bad) return Status(ErrorCode::InvariantViolation, message, subject);`. -/
def rejectViolation (bad : Bool) (message : String) (subject : Text := []) : Result Unit :=
  rejectWhen bad .invariantViolation message subject

@[simp] theorem rejectViolation_eq_ok (bad : Bool) (message : String) (subject : Text)
    (done : Unit) : rejectViolation bad message subject = .ok done ↔ bad = false :=
  rejectWhen_eq_ok ..

namespace CoordinatorState

def checkAuthorities (entry : ArtifactId × List ArtifactRecord) : Result Unit := do
  rejectViolation entry.2.isEmpty "artifact identity has an empty revision chain"
  checkEach (fun record =>
    rejectViolation (!record.valid) "artifact record is malformed" entry.1.toText) entry.2
  rejectViolation (decide (entry.2.countP ArtifactRecord.currentlyAuthoritative > 1))
    "artifact identity has more than one currently promoted revision" entry.1.toText

def checkReservation (state : CoordinatorState) (entry : ArtifactId × PendingTransition) :
    Result Unit :=
  match state.findRevision entry.2.artifact entry.2.artifactRevision with
  | none =>
      rejectViolation true "reservation references an unknown artifact revision" entry.1.toText
  | some record => do
      rejectViolation (record.stageGeneration != entry.2.stageGeneration)
        "reservation is bound to a stage generation that no longer exists" entry.1.toText
      rejectViolation (record.stage != entry.2.source)
        "reservation source stage does not match artifact state" entry.1.toText

def promotionRecorded (state : CoordinatorState) (record : ArtifactRecord) : Bool :=
  state.records.toList.any fun entry =>
    entry.2.artifactRevision == record.revision && entry.2.target == .promoted &&
      entry.2.artifact == record.id

def checkPromotions (state : CoordinatorState) (entry : ArtifactId × List ArtifactRecord) :
    Result Unit :=
  checkEach (fun record => rejectViolation (record.promoted && !state.promotionRecorded record)
    "promoted artifact has no committed promotion record" entry.1.toText) entry.2

def checkBinding (state : CoordinatorState) (entry : EvidenceId × EvidenceRecord) :
    Result Unit := do
  let subject := state.findRevision entry.2.subject entry.2.subjectRevision
  rejectViolation (subject.all fun record => record.digest != entry.2.subjectDigest)
    "evidence is not bound to its artifact revision" entry.1.toText
  rejectViolation (computeEvidenceIntegrity entry.2 != entry.2.integrityDigest)
    "evidence integrity digest does not match its content" entry.1.toText

/-- `revisions.back()` is defined here: an empty chain was reported before. -/
def checkCurrent (entry : ArtifactId × List ArtifactRecord) : Result Unit :=
  match entry.2.getLast? with
  | none => .ok ()
  | some current => do
      rejectViolation (current.quarantine.active && current.stage == .promoted)
        "artifact is simultaneously quarantined and promoted" entry.1.toText
      rejectViolation (current.revocation.active && current.currentlyAuthoritative)
        "artifact is simultaneously revoked and authoritative" entry.1.toText

def checkTransition (state : CoordinatorState) (entry : TransitionId × PromotionRecord) :
    Result Unit := do
  rejectViolation (state.findRevision entry.2.artifact entry.2.artifactRevision).isNone
    "promotion record references an unknown artifact revision" entry.1.toText
  rejectViolation (entry.2.target == .promoted && !state.decisions.contains entry.2.decision)
    "promotion record references an unknown decision" entry.1.toText

end CoordinatorState

def Engine.checkInvariants (engine : Engine) : Result Unit := do
  checkEach CoordinatorState.checkAuthorities engine.state.artifacts.toList
  checkEach engine.state.checkReservation engine.state.pending.toList
  checkEach engine.state.checkPromotions engine.state.artifacts.toList
  checkEach engine.state.checkBinding engine.state.evidence.toList
  checkEach CoordinatorState.checkCurrent engine.state.artifacts.toList
  checkEach engine.state.checkTransition engine.state.records.toList

theorem countP_le_one_iff {α : Type} (test : α → Bool) (items : List α) :
    items.countP test ≤ 1 ↔ ∀ (first second : Nat) (left right : α), items[first]? = some left →
      test left = true → items[second]? = some right → test right = true → first = second := by
  induction items with
  | nil => simp
  | cons head rest ih =>
      rw [List.countP_cons]
      by_cases passes : test head = true
      · rw [if_pos passes]
        constructor
        · intro single
          have none : rest.countP test = 0 := by omega
          have alone (position : Nat) (item : α) (held : (head :: rest)[position]? = some item)
              (passed : test item = true) : position = 0 := by
            cases position with
            | zero => rfl
            | succ position =>
                exact absurd passed (List.countP_eq_zero.mp none item (List.mem_of_getElem? held))
          intro first second left right held passed heldToo passedToo
          rw [alone first left held passed, alone second right heldToo passedToo]
        · intro same
          have none : rest.countP test = 0 := by
            rw [List.countP_eq_zero]
            intro item inside passed
            obtain ⟨position, held⟩ := List.mem_iff_getElem?.mp inside
            exact absurd (same 0 (position + 1) head item rfl passes held passed) (by omega)
          omega
      · rw [if_neg passes, Nat.add_zero, ih]
        constructor
        · intro same first second left right held passed heldToo passedToo
          cases first with
          | zero =>
              cases held
              exact absurd passed passes
          | succ first =>
              cases second with
              | zero =>
                  cases heldToo
                  exact absurd passedToo passes
              | succ second =>
                  rw [same first second left right held passed heldToo passedToo]
        · intro same first second left right held passed heldToo passedToo
          have shifted := same (first + 1) (second + 1) left right held passed heldToo passedToo
          omega

namespace Engine

variable {engine next : Engine}

def PromotionsRecorded (engine : Engine) : Prop :=
  ∀ id, ∀ record ∈ engine.state.chain id, record.promoted = true →
    ∃ (transition : TransitionId) (promotion : PromotionRecord),
      engine.state.records[transition]? = some promotion ∧ promotion.artifact = id ∧
        promotion.artifactRevision = record.revision ∧ promotion.target = .promoted

def QuarantinesHold (engine : Engine) : Prop :=
  ∀ id artifact, engine.state.findCurrent id = some artifact →
    artifact.quarantine.active = true → artifact.stage ≠ .promoted

/-- What `check_invariants` depends on in a reachable state. -/
structure ChecksOut (engine : Engine) : Prop where
  single : engine.SingleAuthority
  account : engine.ReservationsAccount
  recorded : engine.PromotionsRecorded
  held : engine.QuarantinesHold

def RecordsRefer (engine : Engine) : Prop :=
  ∀ (id : TransitionId) (record : PromotionRecord), engine.state.records[id]? = some record →
    ∃ artifact, engine.state.findRevision record.artifact record.artifactRevision = some artifact

theorem findRevision_of_mem {id : ArtifactId} {record : ArtifactRecord}
    (inside : record ∈ engine.state.chain id) :
    ∃ artifact, engine.state.findRevision id record.revision = some artifact := by
  refine Option.isSome_iff_exists.mp ?_
  rw [CoordinatorState.findRevision, List.find?_isSome]
  exact ⟨record, inside, by simp⟩

theorem step_records_refer (sound : engine.Sound) (refer : engine.RecordsRefer) {op : Op}
    {reply : Reply} (moved : engine.step op = some (reply, next)) : next.RecordsRefer := by
  have kept {id : ArtifactId} {revision : ArtifactRevision}
      (was : ∃ artifact, engine.state.findRevision id revision = some artifact) :
      ∃ artifact, next.state.findRevision id revision = some artifact := by
    obtain ⟨artifact, found⟩ := was
    obtain ⟨revised, later, _⟩ := step_findRevision sound moved found
    exact ⟨revised, later⟩
  have current {id : ArtifactId} {artifact : ArtifactRecord}
      (found : engine.state.findCurrent id = some artifact) :
      ∃ later, next.state.findRevision artifact.id artifact.revision = some later := by
    have inside := List.mem_of_getLast? found
    rw [sound.coherent.chain_named id artifact inside]
    exact kept (findRevision_of_mem inside)
  intro id record present
  cases step_logged sound moved present with
  | held old found same =>
      rcases same with rfl | rfl
      · exact kept (refer id _ found)
      · exact kept (refer id old found)
  | committed artifact accepts => exact kept ⟨artifact, accepts.found⟩
  | released artifact _ _ found _ =>
      obtain ⟨later, named⟩ := current found
      exact ⟨later, named⟩
  | revoked artifact _ found _ =>
      obtain ⟨later, named⟩ := current found
      exact ⟨later, named⟩
  | superseded artifact _ found =>
      obtain ⟨later, named⟩ := current found
      exact ⟨later, named⟩
  | retired artifact found =>
      obtain ⟨later, named⟩ := current found
      exact ⟨later, named⟩

def ReservationsRefer (engine : Engine) : Prop :=
  ∀ (id : ArtifactId) (reservation : PendingTransition),
    engine.state.pending[id]? = some reservation →
      ∃ artifact, engine.state.findRevision id reservation.artifactRevision = some artifact

theorem step_reservations_refer (sound : engine.Sound) (refer : engine.ReservationsRefer) {op : Op}
    {reply : Reply} (moved : engine.step op = some (reply, next)) : next.ReservationsRefer := by
  intro id reservation held
  rcases step_pending moved held with old | ⟨plan, rfl, _, _, issues⟩
  · obtain ⟨artifact, found⟩ := refer id reservation old
    obtain ⟨revised, later, _⟩ := step_findRevision sound moved found
    exact ⟨revised, later⟩
  · obtain ⟨revision, artifact, found, _⟩ := issues.inStage sound moved
    exact ⟨artifact, revision ▸ found⟩

structure Checkable (engine : Engine) : Prop where
  stored : engine.StoreSound
  authority : engine.AuthorityValid
  policy : engine.PolicyValid
  artifacts : engine.ArtifactsValid
  linked : engine.Linked
  refer : engine.RecordsRefer
  reserved : engine.ReservationsRefer

theorem step_checkable (checkable : engine.Checkable) {op : Op} {reply : Reply}
    (moved : engine.step op = some (reply, next)) : next.Checkable := by
  obtain ⟨stored, authority, policy, artifacts, linked, refer, reserved⟩ := checkable
  have sound := stored.sound
  exact ⟨stored.step moved, step_authority_valid sound authority moved,
    step_policy_valid moved policy, step_artifacts_valid sound policy authority.2 artifacts moved,
    step_linked sound linked moved, step_records_refer sound refer moved,
    step_reservations_refer sound reserved moved⟩

theorem constructed_checkable (constructed : Constructed engine) : engine.Checkable := by
  have wellFormed := constructed_wellFormed constructed
  refine ⟨wellFormed.stored, wellFormed.authority, wellFormed.policy, wellFormed.artifacts, ?_, ?_,
    ?_⟩
  · obtain ⟨config, epoch, salting, naming, rfl⟩ := constructed
    exact create_linked config epoch salting naming
  · obtain ⟨config, epoch, salting, naming, rfl⟩ := constructed
    intro id record present
    exact (no_entry rfl present).elim
  · obtain ⟨config, epoch, salting, naming, rfl⟩ := constructed
    intro id reservation held
    exact (no_entry rfl held).elim

theorem reachable_checkable (reachable : Reachable engine) : engine.Checkable := by
  obtain ⟨start, trace, constructed, run⟩ := reachable
  exact run.invariant Checkable (fun _ _ _ _ held moved => step_checkable held moved)
    (constructed_checkable constructed)

theorem entry_held {κ ν : Type} [Ord κ] [Std.TransOrd κ] [Std.LawfulEqOrd κ]
    {map : OrderedMap κ ν} {item : κ × ν} : item ∈ map.toList ↔ map[item.1]? = some item.2 :=
  Std.ExtTreeMap.mem_toList_iff_getElem?_eq_some

theorem chain_of_entry {item : ArtifactId × List ArtifactRecord}
    (inside : item ∈ engine.state.artifacts.toList) : engine.state.chain item.1 = item.2 := by
  rw [CoordinatorState.chain, Std.ExtTreeMap.getD_eq_getD_getElem?, entry_held.mp inside]
  rfl

theorem entry_of_chain {id : ArtifactId} {record : ArtifactRecord}
    (inside : record ∈ engine.state.chain id) :
    (id, engine.state.chain id) ∈ engine.state.artifacts.toList := by
  rw [entry_held]
  rw [CoordinatorState.chain, Std.ExtTreeMap.getD_eq_getD_getElem?] at inside ⊢
  cases found : engine.state.artifacts[id]? with
  | none =>
      rw [found] at inside
      cases inside
  | some chain => rfl

theorem checkAuthorities_iff (checkable : engine.Checkable) :
    checkEach CoordinatorState.checkAuthorities engine.state.artifacts.toList = .ok () ↔
      engine.SingleAuthority := by
  simp only [checkEach_eq_ok, CoordinatorState.checkAuthorities, bind_eq_ok, rejectViolation_eq_ok,
    List.isEmpty_eq_false_iff, Bool.not_eq_false', decide_eq_false_iff_not, Nat.not_lt,
    countP_le_one_iff]
  constructor
  · rintro checked id first second ⟨left, held, passed⟩ ⟨right, heldToo, passedToo⟩
    obtain ⟨_, _, _, _, single⟩ := checked _ (entry_of_chain (List.mem_of_getElem? held))
    exact single first second left right held passed heldToo passedToo
  · intro single item inside
    have chain := chain_of_entry inside
    refine ⟨(), (checkable.stored.sound.coherent.chains _ _ (entry_held.mp inside)).1, (), ?_, ?_⟩
    · intro record member
      exact checkable.artifacts item.1 record (by rwa [chain])
    · intro first second left right held passed heldToo passedToo
      rw [← chain] at held heldToo
      exact single item.1 first second ⟨left, held, passed⟩ ⟨right, heldToo, passedToo⟩

theorem checkReservation_iff {entry : ArtifactId × PendingTransition} :
    engine.state.checkReservation entry = .ok () ↔
      engine.InStage entry.2.artifact entry.2.artifactRevision entry.2.source
        entry.2.stageGeneration := by
  unfold CoordinatorState.checkReservation InStage
  cases engine.state.findRevision entry.2.artifact entry.2.artifactRevision with
  | none => simp
  | some record => simp [bind_eq_ok, and_comm]

theorem checkReservations_iff (sound : engine.Sound) :
    checkEach engine.state.checkReservation engine.state.pending.toList = .ok () ↔
      engine.ReservationsAccount := by
  simp only [checkEach_eq_ok, checkReservation_iff, entry_held, Prod.forall]
  refine forall_congr' fun id => forall_congr' fun reservation => forall_congr' fun held => ?_
  rw [(sound.coherent.reservations id reservation held).1]

theorem checkPromotions_iff (sound : engine.Sound) :
    checkEach engine.state.checkPromotions engine.state.artifacts.toList = .ok () ↔
      engine.PromotionsRecorded := by
  have recorded {id : ArtifactId} {record : ArtifactRecord} (named : record.id = id) :
      engine.state.promotionRecorded record = true ↔
        ∃ (transition : TransitionId) (promotion : PromotionRecord),
          engine.state.records[transition]? = some promotion ∧ promotion.artifact = id ∧
            promotion.artifactRevision = record.revision ∧ promotion.target = .promoted := by
    simp only [CoordinatorState.promotionRecorded, List.any_eq_true, entry_held, Bool.and_eq_true,
      beq_iff_eq, Prod.exists, named]
    refine exists_congr fun transition => exists_congr fun promotion => ?_
    constructor
    · rintro ⟨held, ⟨revision, target⟩, artifact⟩
      exact ⟨held, artifact, revision, target⟩
    · rintro ⟨held, artifact, revision, target⟩
      exact ⟨held, ⟨revision, target⟩, artifact⟩
  simp only [checkEach_eq_ok, CoordinatorState.checkPromotions, rejectViolation_eq_ok,
    Bool.and_eq_false_imp, Bool.not_eq_false']
  constructor
  · intro checked id record inside promoted
    have named := sound.coherent.chain_named id record inside
    exact (recorded named).mp (checked _ (entry_of_chain inside) record inside promoted)
  · intro all item inside record member promoted
    rw [← chain_of_entry inside] at member
    exact (recorded (sound.coherent.chain_named item.1 record member)).mpr
      (all item.1 record member promoted)

theorem checkCurrent_iff (engine : Engine) :
    checkEach CoordinatorState.checkCurrent engine.state.artifacts.toList = .ok () ↔
      engine.QuarantinesHold := by
  have one {entry : ArtifactId × List ArtifactRecord} :
      CoordinatorState.checkCurrent entry = .ok () ↔ ∀ current, entry.2.getLast? = some current →
        current.quarantine.active = true → current.stage ≠ .promoted := by
    unfold CoordinatorState.checkCurrent
    cases entry.2.getLast? with
    | none => simp
    | some current =>
        -- Authority excludes an active revocation.
        have apart : (current.revocation.active && current.currentlyAuthoritative) = false := by
          unfold ArtifactRecord.currentlyAuthoritative
          cases current.revocation.active <;> simp
        simp [bind_eq_ok, apart]
  simp only [checkEach_eq_ok, one]
  constructor
  · intro checked id artifact found
    exact checked _ (entry_of_chain (List.mem_of_getLast? found)) artifact found
  · intro all item inside current last
    rw [← chain_of_entry inside] at last
    exact all item.1 current last

theorem checkBindings_ok (checkable : engine.Checkable) :
    checkEach engine.state.checkBinding engine.state.evidence.toList = .ok () := by
  rw [checkEach_eq_ok]
  intro entry inside
  obtain ⟨⟨artifact, found, digest⟩, integrity, _⟩ :=
    checkable.stored.recorded _ _ (entry_held.mp inside)
  simp [CoordinatorState.checkBinding, bind_eq_ok, found, digest, integrity]

theorem checkTransitions_ok (checkable : engine.Checkable) :
    checkEach engine.state.checkTransition engine.state.records.toList = .ok () := by
  rw [checkEach_eq_ok]
  intro entry inside
  have held := entry_held.mp inside
  obtain ⟨artifact, found⟩ := checkable.refer _ _ held
  have cited := checkable.linked.records _ _ held
  simp only [CoordinatorState.checkTransition, bind_eq_ok, rejectViolation_eq_ok, found,
    Option.isNone_some, Bool.and_eq_false_imp, beq_iff_eq, Bool.not_eq_false']
  exact ⟨(), trivial, fun target => cited (.inr target)⟩

theorem checksOut_iff (checkable : engine.Checkable) :
    engine.checkInvariants = .ok () ↔ engine.ChecksOut := by
  have sound := checkable.stored.sound
  have evidence := checkBindings_ok checkable
  have transitions := checkTransitions_ok checkable
  simp only [checkInvariants, bind_eq_ok, evidence, transitions, checkAuthorities_iff checkable,
    checkReservations_iff sound, checkPromotions_iff sound, checkCurrent_iff engine]
  constructor
  · rintro ⟨_, single, _, account, _, recorded, _, _, _, held, _⟩
    exact ⟨single, account, recorded, held⟩
  · rintro ⟨single, account, recorded, held⟩
    exact ⟨(), single, (), account, (), recorded, (), trivial, (), held, trivial⟩

/-- The complaints that can be heard in a reachable state, and what each one says of it. -/
inductive Complains (engine : Engine) : String → Prop
  | authority (shared : ¬engine.SingleAuthority) :
      Complains engine "artifact identity has more than one currently promoted revision"
  | generation (stale : ¬engine.ReservationsAccount) :
      Complains engine "reservation is bound to a stage generation that no longer exists"
  | stage (stale : ¬engine.ReservationsAccount) :
      Complains engine "reservation source stage does not match artifact state"
  | promotion (lost : ¬engine.PromotionsRecorded) :
      Complains engine "promoted artifact has no committed promotion record"
  | quarantine (promoted : ¬engine.QuarantinesHold) :
      Complains engine "artifact is simultaneously quarantined and promoted"

def Heard (engine : Engine) (status : Status) : Prop :=
  ∃ message subject, status = .of .invariantViolation (text message) subject ∧
    engine.Complains message

theorem rejectViolation_heard {bad : Bool} {message : String} {subject : Text}
    (complains : bad = true → engine.Complains message) :
    FailsOnly engine.Heard (rejectViolation bad message subject) := by
  intro status failed
  unfold rejectViolation rejectWhen at failed
  split at failed
  · rename_i fails
    cases failed
    exact ⟨message, subject, rfl, complains fails⟩
  · cases failed

theorem checkAuthorities_heard (checkable : engine.Checkable)
    {entry : ArtifactId × List ArtifactRecord} (inside : entry ∈ engine.state.artifacts.toList) :
    FailsOnly engine.Heard (CoordinatorState.checkAuthorities entry) := by
  refine .bind (rejectViolation_heard fun empty => ?_) fun _ => .bind (.each fun record member =>
    rejectViolation_heard fun malformed => ?_) fun _ => rejectViolation_heard fun shared => ?_
  · have present := (checkable.stored.sound.coherent.chains _ _ (entry_held.mp inside)).1
    exact absurd (List.isEmpty_iff.mp empty) present
  · have valid := checkable.artifacts entry.1 record (by rwa [chain_of_entry inside])
    rw [valid] at malformed
    cases malformed
  · refine .authority fun single => ?_
    have passes := (checkEach_eq_ok _ _ _).mp ((checkAuthorities_iff checkable).mpr single) _ inside
    simp only [CoordinatorState.checkAuthorities, bind_eq_ok, rejectViolation_eq_ok] at passes
    obtain ⟨_, _, _, _, alone⟩ := passes
    rw [shared] at alone
    cases alone

theorem checkReservation_heard (checkable : engine.Checkable)
    {entry : ArtifactId × PendingTransition} (inside : entry ∈ engine.state.pending.toList) :
    FailsOnly engine.Heard (engine.state.checkReservation entry) := by
  have sound := checkable.stored.sound
  have held := entry_held.mp inside
  have passes (account : engine.ReservationsAccount) : engine.state.checkReservation entry = .ok () :=
    (checkEach_eq_ok _ _ _).mp ((checkReservations_iff sound).mpr account) _ inside
  obtain ⟨record, found⟩ := checkable.reserved _ _ held
  rw [← (sound.coherent.reservations _ _ held).1] at found
  unfold CoordinatorState.checkReservation at passes ⊢
  simp only [found, bind_eq_ok, rejectViolation_eq_ok] at passes ⊢
  refine .bind (rejectViolation_heard fun stale => .generation fun account => ?_) fun _ =>
    rejectViolation_heard fun stale => .stage fun account => ?_
  · obtain ⟨_, same, _⟩ := passes account
    rw [stale] at same
    cases same
  · obtain ⟨_, _, same⟩ := passes account
    rw [stale] at same
    cases same

theorem checkPromotions_heard (checkable : engine.Checkable)
    {entry : ArtifactId × List ArtifactRecord} (inside : entry ∈ engine.state.artifacts.toList) :
    FailsOnly engine.Heard (engine.state.checkPromotions entry) := by
  refine .each fun record member => rejectViolation_heard fun lost => .promotion fun recorded => ?_
  have passes := (checkEach_eq_ok _ _ _).mp
    ((checkPromotions_iff checkable.stored.sound).mpr recorded) _ inside
  have kept := (checkEach_eq_ok _ _ _).mp passes _ member
  rw [rejectViolation_eq_ok, lost] at kept
  cases kept

theorem checkCurrent_heard {entry : ArtifactId × List ArtifactRecord}
    (inside : entry ∈ engine.state.artifacts.toList) :
    FailsOnly engine.Heard (CoordinatorState.checkCurrent entry) := by
  have passes (hold : engine.QuarantinesHold) : CoordinatorState.checkCurrent entry = .ok () :=
    (checkEach_eq_ok _ _ _).mp ((checkCurrent_iff engine).mpr hold) _ inside
  unfold CoordinatorState.checkCurrent at passes ⊢
  cases last : entry.2.getLast? with
  | none => exact .success ()
  | some current =>
      simp only [last, bind_eq_ok, rejectViolation_eq_ok] at passes
      refine .bind (rejectViolation_heard fun promoted => .quarantine fun hold => ?_) fun _ =>
        rejectViolation_heard fun revoked => ?_
      · obtain ⟨_, apart, _⟩ := passes hold
        rw [promoted] at apart
        cases apart
      · unfold ArtifactRecord.currentlyAuthoritative at revoked
        simp only [Bool.and_eq_true, Bool.not_eq_true'] at revoked
        obtain ⟨active, _, inactive⟩ := revoked
        rw [active] at inactive
        cases inactive

theorem checkInvariants_heard (checkable : engine.Checkable) :
    FailsOnly engine.Heard engine.checkInvariants := by
  unfold checkInvariants
  rw [checkBindings_ok checkable, checkTransitions_ok checkable]
  exact .bind (.each fun _ inside => checkAuthorities_heard checkable inside) fun _ =>
    .bind (.each fun _ inside => checkReservation_heard checkable inside) fun _ =>
    .bind (.each fun _ inside => checkPromotions_heard checkable inside) fun _ =>
    .bind (.success ()) fun _ => .bind (.each fun _ inside => checkCurrent_heard inside) fun _ =>
    .success ()

/-- In every reachable state, the check of the engine succeeds exactly if no identity has two
authoritative revisions, every reservation fits the stage of its revision, the promotion of every
promoted revision is still on record, and no current revision is promoted under quarantine; and
whatever it complains of is that one of these fails. -/
theorem checkInvariants_iff (reachable : Reachable engine) :
    (engine.checkInvariants = .ok () ↔ engine.ChecksOut) ∧
      FailsOnly engine.Heard engine.checkInvariants :=
  have checkable := reachable_checkable reachable
  ⟨checksOut_iff checkable, checkInvariants_heard checkable⟩

def promotedSoundly (engine : Engine) : Bool :=
  engine.state.records.size == 1 && engine.checkInvariants.isOk

theorem checkInvariants_iff_promoted : ∃ engine, Reachable engine ∧ engine.state.records.size = 1 ∧
    engine.checkInvariants = .ok () ∧ engine.ChecksOut := by
  have evaluated : ((play step sampleEngine promoteChoices).any fun played =>
      promotedSoundly played.2) = true := by
    rw [promote_played]
    decide +kernel
  obtain ⟨engine, reachable, checked⟩ :=
    Reachable.of_play promotedSoundly sampleEngine_constructed evaluated
  simp only [promotedSoundly, Bool.and_eq_true, beq_iff_eq] at checked
  obtain ⟨recorded, passes⟩ := checked
  have silent : engine.checkInvariants = .ok () := by
    cases outcome : engine.checkInvariants with
    | ok done => rfl
    | error status =>
        rw [outcome] at passes
        cases passes
  exact ⟨engine, reachable, recorded, silent, (checkInvariants_iff reachable).1.mp silent⟩

def PromotesQuarantined (engine : Engine) (op : Op) : Prop :=
  ∃ plan now artifact, op = .commit plan now ∧ engine.Accepts plan now artifact ∧
    engine.state.findCurrent plan.artifact = some artifact ∧ plan.target = .promoted ∧
    artifact.quarantine.active = true

/-- The operation stores a record where this drops every record of the promotion of a revision that
is marked as promoted. -/
def ForgetsPromotion (engine : Engine) (op : Op) : Prop :=
  engine.Stores op ∧ ∃ id, ∃ record ∈ engine.state.chain id, record.promoted = true ∧
    ∀ (transition : TransitionId) (promotion : PromotionRecord),
      engine.state.records[transition]? = some promotion → promotion.artifact = id →
        promotion.artifactRevision = record.revision → promotion.target = .promoted →
          engine.Displaces transition

theorem revised_held_back {id : ArtifactId} {index : Nat} {op : Op} {reply : Reply}
    {record revised : ArtifactRecord} (change : Revised engine id index op reply record revised)
    (found : engine.state.findCurrent id = some record)
    (held : record.quarantine.active = true → record.stage ≠ .promoted)
    (apart : ¬engine.PromotesQuarantined op) :
    revised.quarantine.active = true → revised.stage ≠ .promoted := by
  cases change with
  | kept => exact held
  | restored => exact held
  | overtaken state revision named current fresh =>
      unfold supersedeByRegistration
      dsimp only
      split
      · exact fun _ => by simp
      · exact held
  | @applied plan now _ _ named first accepts =>
      subst named
      intro active promoted
      have same : (promotedArtifact engine.state.advanceSequence plan record).stage =
            plan.target ∧
          (promotedArtifact engine.state.advanceSequence plan record).quarantine =
            record.quarantine := by
        unfold promotedArtifact
        dsimp only
        split <;> exact ⟨rfl, rfl⟩
      rw [same.1] at promoted
      rw [same.2] at active
      exact apart ⟨plan, now, record, rfl, accepts, found, promoted, active⟩
  | quarantined current unquarantined open_ => exact fun _ => by simp [quarantinedArtifact]
  | released current active granted => exact fun _ => by simp [releasedArtifact]
  | revoked target current unrevoked => exact fun _ => by simp [revokedArtifact]
  | superseded successorRecord current unsuperseded open_ =>
      exact fun _ => by simp [supersededArtifact]
  | retired current unretired => exact fun _ => by simp [retiredArtifact]

theorem step_quarantines_hold (sound : engine.Sound) {op : Op} {reply : Reply}
    (moved : engine.step op = some (reply, next)) (hold : engine.QuarantinesHold)
    (apart : ¬engine.PromotesQuarantined op) : next.QuarantinesHold := by
  intro id artifact found
  rcases step_newest sound moved found with ⟨index, record, held, change⟩ | registered
  · exact revised_held_back change held (hold id record held) apart
  · obtain ⟨registration, now, stamped, _, _, _, rfl⟩ := registered
    exact nofun

/-- A revision is marked as promoted by the commit that promotes it and by nothing else. -/
theorem revised_promoted {id : ArtifactId} {index : Nat} {op : Op} {reply : Reply}
    {record revised : ArtifactRecord} (change : Revised engine id index op reply record revised)
    (promoted : revised.promoted = true) : record.promoted = true ∨
      ∃ plan now, op = .commit plan now ∧ plan.artifact = id ∧
        engine.Accepts plan now record ∧ plan.target = .promoted := by
  cases change with
  | kept => exact .inl promoted
  | restored => exact .inl promoted
  | overtaken state revision named current fresh =>
      unfold supersedeByRegistration at promoted
      dsimp only at promoted
      split at promoted <;> exact .inl promoted
  | @applied plan now _ _ named first accepts =>
      unfold promotedArtifact at promoted
      dsimp only at promoted
      split at promoted
      · rename_i target
        exact .inr ⟨plan, now, rfl, named, accepts, target⟩
      · exact .inl promoted
  | quarantined current unquarantined open_ => exact .inl promoted
  | released current active granted => exact .inl promoted
  | revoked target current unrevoked => simp [revokedArtifact] at promoted
  | superseded successorRecord current unsuperseded open_ =>
      simp [supersededArtifact] at promoted
  | retired current unretired => simp [retiredArtifact] at promoted

theorem accepted_record {plan : PromotionPlan} {now : UInt64} {artifact : ArtifactRecord}
    (accepts : engine.Accepts plan now artifact) {reply : Reply}
    (moved : engine.step (.commit plan now) = some (reply, next)) :
    next.state.records[engine.state.transitionGenerator.next]? =
      some (commitRecord engine.state.advanceSequence plan artifact.stage now) := by
  have performed := congrArg Prod.snd (Option.some.inj (step_eq_some moved).1)
  have committed : (engine.commit plan now).2 = next := performed
  rw [commit_of_accepts accepts] at committed
  have records := congrArg Control.records (applyCommit_control engine plan artifact
    (evaluateGates engine.config engine.state (requestOfPlan plan) now
      (engine.state.decisions.getD plan.decision {})).decision now)
  rw [committed] at records
  change next.control.records[_]? = _
  rw [records]
  exact Std.ExtTreeMap.getElem?_insert_self

theorem step_promotions_recorded (sound : engine.Sound) {op : Op} {reply : Reply}
    (moved : engine.step op = some (reply, next)) (recorded : engine.PromotionsRecorded)
    (remembers : ¬engine.ForgetsPromotion op) : next.PromotionsRecorded := by
  intro id revised inside promoted
  obtain ⟨index, held⟩ := List.mem_iff_getElem?.mp inside
  rcases step_position sound moved held with ⟨old, before, change⟩ |
    ⟨registration, now, rfl, rfl, rfl, _⟩
  · have member := List.mem_of_getElem? before
    rw [revised_revision change]
    rcases revised_promoted change promoted with earlier | ⟨plan, now, rfl, rfl, accepts, target⟩
    · -- The record is still there, unless this step drops it.
      obtain ⟨transition, promotion, present, about⟩ := recorded id old member earlier
      by_cases online : op.online = true
      · by_cases same : next.state.records = engine.state.records
        · exact ⟨transition, promotion, by rw [same]; exact present, about⟩
        · have kept : ∃ (transition : TransitionId) (promotion : PromotionRecord),
              engine.state.records[transition]? = some promotion ∧ (promotion.artifact = id ∧
                promotion.artifactRevision = old.revision ∧ promotion.target = .promoted) ∧
              ¬engine.Displaces transition := by
            by_contra forgotten
            push Not at forgotten
            exact remembers ⟨⟨reply, next, moved, same⟩, id, old, member, earlier,
              fun transition promotion present artifact revision target =>
                forgotten transition promotion present ⟨artifact, revision, target⟩⟩
          obtain ⟨transition, promotion, present, about, stays⟩ := kept
          exact ⟨transition, promotion, step_record_kept moved online present fun _ => stays, about⟩
      · cases op with
        | reload advance =>
            cases step_effect moved with
            | idle _ changed =>
                have same : next.state.records = engine.state.records :=
                  congrArg Control.records changed
                exact ⟨transition, promotion, by rw [same]; exact present, about⟩
            | reloaded decoded changed =>
                have records := (image_reloaded sound decoded changed).records
                refine ⟨transition, promotion.restored, ?_, about⟩
                change next.control.records[transition]? = _
                rw [records, Std.ExtTreeMap.getElem?_map]
                exact congrArg (Option.map PromotionRecord.restored) present
        | _ => exact absurd rfl online
    · refine ⟨_, _, accepted_record accepts moved, rfl, ?_, target⟩
      exact (findRevision_mem accepts.found).2.symm
  · obtain ⟨stamped, _, _, _, made, _⟩ := registered_chain moved
    rw [made] at promoted
    cases promoted

/-- The step breaks what `check_invariants` looks at: it promotes a revision beside an authoritative
one or under quarantine, moves a revision under its reservation, or drops the last record of a
promotion that still stands. -/
def Unsettles (step : EngineStep) : Prop :=
  step.before.PromotesBeside step.input ∨ MovesReserved step ∨
    step.before.ForgetsPromotion step.input ∨ step.before.PromotesQuarantined step.input

theorem step_checks_out (sound : engine.Sound) {op : Op} {reply : Reply}
    (moved : engine.step op = some (reply, next)) (checks : engine.ChecksOut)
    (settled : ¬Unsettles ⟨engine, op, reply, next⟩) : next.ChecksOut := by
  simp only [Unsettles, not_or] at settled
  obtain ⟨beside, reserved, remembers, held⟩ := settled
  exact ⟨step_single_authority sound moved checks.single beside,
    step_reservations_account sound moved reserved checks.account,
    step_promotions_recorded sound moved checks.recorded remembers,
    step_quarantines_hold sound moved checks.held held⟩

/-- In every run none of whose steps unsettles it, the check succeeds in every state reached. -/
theorem run_checks_out {start final : Engine} {trace : List EngineStep}
    (constructed : Constructed start) (run : EngineRun start trace final)
    (settled : ∀ step ∈ trace, ¬Unsettles step) :
    final.checkInvariants = .ok () ∧ ∀ step ∈ trace, step.after.checkInvariants = .ok () := by
  have initially : start.Sound ∧ start.ChecksOut := by
    refine ⟨constructed.sound, ?_⟩
    obtain ⟨config, epoch, salting, naming, rfl⟩ := constructed
    constructor
    · rintro id left right ⟨record, held, _⟩
      rw [create_chain] at held
      simp at held
    · intro id reservation held
      exact (no_entry rfl held).elim
    · intro id record inside
      rw [create_chain] at inside
      simp at inside
    · intro id artifact found
      rw [CoordinatorState.findCurrent, create_chain] at found
      simp at found
  have kept (step : EngineStep) (holds : step.before.Sound ∧ step.before.ChecksOut)
      (settles : ¬Unsettles step)
      (moved : step.before.step step.input = some (step.output, step.after)) :
      step.after.Sound ∧ step.after.ChecksOut :=
    ⟨sound_step holds.1 moved, step_checks_out holds.1 moved holds.2 settles⟩
  constructor
  · have checks := run.guarded (fun engine => engine.Sound ∧ engine.ChecksOut)
      (fun step => ¬Unsettles step) kept initially settled
    exact (checksOut_iff (reachable_checkable ⟨start, trace, constructed, run⟩)).mpr checks.2
  · intro step executed
    have checks := run.throughout (fun engine => engine.Sound ∧ engine.ChecksOut)
      (fun step => ¬Unsettles step) kept initially settled step executed
    obtain ⟨past, future, rfl⟩ := List.append_of_mem executed
    have reached : EngineRun start (past ++ [step]) step.after :=
      run.cut.1.append (.cons run.cut.2.1 (.nil _))
    exact (checksOut_iff (reachable_checkable ⟨start, _, constructed, reached⟩)).mpr checks.2.2

def reservesFirst (played : List EngineStep × Engine) : Bool :=
  (played.1.all fun step =>
    (match step.input with
      | .commit _ _ => false
      | _ => true) &&
    step.before.state.pending.isEmpty &&
    step.before.state.artifacts.toList.all fun entry =>
      entry.2.all fun record => !record.promoted) &&
  played.2.state.pending.size == 1

theorem run_checks_out_reserved :
    ∃ (trace : List EngineStep) (final : Engine), EngineRun sampleEngine trace final ∧
      (∀ step ∈ trace, ¬Unsettles step) ∧ final.state.pending.size = 1 ∧
      final.checkInvariants = .ok () := by
  have evaluated : (play step sampleEngine (promoteChoices.take 3)).any reservesFirst = true := by
    decide +kernel
  obtain ⟨trace, final, run, checked⟩ := run_of_checked evaluated
  simp only [reservesFirst, Bool.and_eq_true, List.all_eq_true, beq_iff_eq] at checked
  obtain ⟨quiet, reserved⟩ := checked
  have settled : ∀ step ∈ trace, ¬Unsettles step := by
    intro step executed
    obtain ⟨⟨uncommitted, unreserved⟩, unpromoted⟩ := quiet step executed
    have commits {plan : PromotionPlan} {now : UInt64} (op_eq : step.input = .commit plan now) :
        False := by
      rw [op_eq] at uncommitted
      cases uncommitted
    rintro (⟨plan, now, _, op_eq, _⟩ | ⟨id, reservation, _, held, _⟩ |
      ⟨_, id, record, inside, promoted, _⟩ | ⟨plan, now, _, op_eq, _⟩)
    · exact commits op_eq
    · rw [Std.ExtTreeMap.isEmpty_iff.mp unreserved] at held
      simp at held
    · have plain := unpromoted _ (entry_of_chain inside) record inside
      rw [promoted] at plain
      cases plain
    · exact commits op_eq
  exact ⟨trace, final, run, settled, reserved,
    (run_checks_out sampleEngine_constructed run settled).1⟩

end Engine

end ArtifactPromotion
