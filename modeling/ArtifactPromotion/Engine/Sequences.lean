import ArtifactPromotion.Engine.Chronicles
import ArtifactPromotion.Engine.EvidenceStore
import ArtifactPromotion.Engine.Windows

/-! Sequence discipline: what the state carries was taken from the two clocks, and the history is
written once under new sequences. -/

namespace ArtifactPromotion

open Runs

namespace Counter

variable {tag : CounterTag} {counter clock later : Counter tag}

/-- The value was handed out by the time the clock stands at `clock`. -/
def Within (counter clock : Counter tag) : Prop := counter.value.toNat ≤ clock.value.toNat

theorem Within.trans (first : counter.Within clock) (second : clock.Within later) :
    counter.Within later := Nat.le_trans first second

theorem Within.refl (counter : Counter tag) : counter.Within counter := Nat.le_refl _

theorem within_next (counter : Counter tag) : counter.Within counter.next := by
  have moved := next_value counter
  have bound := counter.value.toNat_lt
  unfold Within
  omega

/-- The value at which `next` stays put. -/
def Saturated (counter : Counter tag) : Prop := counter.value = 0xFFFFFFFFFFFFFFFF

theorem below_of_unsaturated (unsaturated : ¬clock.Saturated) : clock.value.toNat < 2 ^ 64 - 1 := by
  have bound := clock.value.toNat_lt
  have apart : clock.value.toNat ≠ 2 ^ 64 - 1 := by
    intro top
    exact unsaturated (UInt64.toNat_inj.mp top)
  omega

theorem next_above (reached : counter.next.Within clock) (unsaturated : ¬clock.Saturated) :
    counter.next.value.toNat = counter.value.toNat + 1 := by
  have moved := next_value counter
  have below := below_of_unsaturated unsaturated
  unfold Within at reached
  omega

theorem two_above {first second : Counter tag} (sequenced : first = counter.next)
    (following : second = first.next) (unsaturated : ¬second.Saturated) :
    first.value.toNat = counter.value.toNat + 1 ∧
      second.value.toNat = first.value.toNat + 1 := by
  subst sequenced following
  have last := next_above (.refl _) unsaturated
  exact ⟨next_above (within_next _) unsaturated, last⟩

section

variable {κ ν : Type} [Ord κ] [Std.TransOrd κ]

def Apart (entries : OrderedMap κ ν) (number : ν → Counter tag) : Prop :=
  ∀ (id other : κ) (value second : ν), entries[id]? = some value → entries[other]? = some second →
    number value = number second → id = other

/-- Entries stay apart when all of them keep their number but one, which takes the next. -/
theorem Apart.extend {entries changed : OrderedMap κ ν} {number : ν → Counter tag}
    (clock : Counter tag) (fresh : κ) (apart : Apart entries number)
    (within : ∀ (id : κ) (value : ν), entries[id]? = some value → (number value).Within clock)
    (change : ∀ (id : κ) (value : ν), changed[id]? = some value →
      (∃ old, entries[id]? = some old ∧ number value = number old) ∨
        (id = fresh ∧ number value = clock.next ∧
          clock.next.value.toNat = clock.value.toNat + 1)) :
    Apart changed number := by
  have unused {key : κ} {old : ν} (before : entries[key]? = some old)
      (above : clock.next.value.toNat = clock.value.toNat + 1) : number old ≠ clock.next := by
    intro equal
    have reached := within key old before
    rw [equal] at reached
    unfold Within at reached
    omega
  intro id other value second held too same
  rcases change id value held with ⟨old, before, kept⟩ | ⟨named, taken, above⟩
  · rcases change other second too with ⟨older, prior, keeps⟩ | ⟨_, takes, above⟩
    · refine apart id other old older before prior ?_
      rw [← kept, ← keeps]
      exact same
    · exact absurd (kept.symm.trans (same.trans takes)) (unused before above)
  · rcases change other second too with ⟨older, prior, keeps⟩ | ⟨names, _, _⟩
    · exact absurd (keeps.symm.trans (same.symm.trans taken)) (unused prior above)
    · exact named.trans names.symm

end

theorem compare_lt (less : counter.value.toNat < clock.value.toNat) :
    compare counter clock = .lt := by
  change compareOfLessAndEq counter.value clock.value = .lt
  rw [compareOfLessAndEq, if_pos (UInt64.lt_iff_toNat_lt.mpr less)]

theorem compare_not_lt (within : counter.Within clock) : compare clock counter ≠ .lt := by
  intro before
  have less : clock.value < counter.value := compareOfLessAndEq_eq_lt.mp before
  rw [UInt64.lt_iff_toNat_lt] at less
  unfold Within at within
  omega

end Counter

def History.Covered (log : History) (clock : CommitSequence) : Prop :=
  ∀ (key : CommitSequence) (event : HistoryEvent), log[key]? = some event →
    event.sequence = key ∧ key.Within clock

namespace History

variable {log : History} {clock floor : CommitSequence} {bound : UInt64} {event : HistoryEvent}

theorem Covered.fresh (covered : Covered log clock) {key : CommitSequence}
    (above : clock.value.toNat < key.value.toNat) : log[key]? = none := by
  refine Option.eq_none_iff_forall_ne_some.mpr fun found present => ?_
  have within := (covered key found present).2
  unfold Counter.Within at within
  omega

theorem Covered.insert (covered : Covered log clock) (later : clock.Within event.sequence) :
    Covered (log.insert event.sequence event) event.sequence := by
  intro key found present
  rcases OrderedMaps.insert_cases present with ⟨rfl, rfl⟩ | ⟨_, old⟩
  · exact ⟨rfl, .refl _⟩
  · obtain ⟨same, within⟩ := covered key found old
    exact ⟨same, within.trans later⟩

theorem Covered.putBounded {last : CommitSequence} (covered : Covered log clock)
    (later : clock.Within last) (reached : event.sequence.Within last) :
    Covered (putBounded bound log event.sequence event) last := by
  intro key found present
  rcases putBounded_entry present with ⟨rfl, rfl⟩ | ⟨_, old⟩
  · exact ⟨rfl, reached⟩
  · obtain ⟨same, within⟩ := covered key found old
    exact ⟨same, within.trans later⟩

theorem insert_moves (above : floor.value.toNat < event.sequence.value.toNat)
    (fresh : log[event.sequence]? = none) :
    BoundedLogs.Moves bound.toNat floor log (log.insert event.sequence event) :=
  .single (.write (Counter.compare_lt above) fresh)

theorem putBounded_moves (above : floor.value.toNat < event.sequence.value.toNat)
    (fresh : log[event.sequence]? = none) :
    BoundedLogs.Moves bound.toNat floor log (putBounded bound log event.sequence event) := by
  unfold putBounded
  split
  · rename_i full
    unfold eraseFirst
    split
    · exact insert_moves above fresh
    · rename_i smallest first
      have absent : (log.erase smallest)[event.sequence]? = none := by
        refine Option.eq_none_iff_forall_ne_some.mpr fun found present => ?_
        have old := (OrderedMaps.erase_cases present).2
        simp [fresh] at old
      exact .trans (.single (.drop full first)) (insert_moves above absent)
  · exact insert_moves above fresh

end History

namespace Noted

variable {clock last floor : CommitSequence} {log final : History}

theorem within (notes : Noted clock log last final) : clock.Within last := by
  induction notes with
  | nil => exact .refl _
  | @cons clock _ _ _ event sequenced rest ih =>
      rw [sequenced] at ih
      exact (Counter.within_next clock).trans ih

theorem moves {bound : Nat} (notes : Noted clock log last final) (unsaturated : ¬last.Saturated)
    (covered : History.Covered log clock) (reached : floor.Within clock) :
    BoundedLogs.Moves bound floor log final ∧ History.Covered final last := by
  induction notes with
  | nil => exact ⟨.refl, covered⟩
  | @cons clock log last final event sequenced rest ih =>
      have step : event.sequence.value.toNat = clock.value.toNat + 1 := by
        have within := rest.within
        rw [sequenced] at within ⊢
        exact Counter.next_above within unsaturated
      have later : clock.Within event.sequence := by
        unfold Counter.Within
        omega
      have above : floor.value.toNat < event.sequence.value.toNat := by
        unfold Counter.Within at reached
        omega
      have fresh : log[event.sequence]? = none := covered.fresh (by omega)
      obtain ⟨moves, finished⟩ := ih unsaturated (covered.insert later) (reached.trans later)
      exact ⟨.trans (.single (.write (Counter.compare_lt above) fresh)) moves, finished⟩

end Noted

namespace Chronicle

variable {bound : UInt64} {before after : CoordinatorState} {op : Op}

theorem advanced (chronicle : Chronicle bound before after op) :
    before.commitSequence.Within after.commitSequence ∧
      (before.SameSequences after ∨
        before.commitSequence.next.Within after.commitSequence) := by
  have next := Counter.within_next before.commitSequence
  have moved (reached : before.commitSequence.next.Within after.commitSequence) :
      before.commitSequence.Within after.commitSequence ∧
        (before.SameSequences after ∨
          before.commitSequence.next.Within after.commitSequence) :=
    ⟨next.trans reached, .inr reached⟩
  cases chronicle with
  | quiet clock log stores =>
      rw [clock]
      exact ⟨.refl _, .inl stores⟩
  | single event sequenced clock log =>
      apply moved
      rw [clock]
      rcases sequenced with same | same
      · rw [same]
        exact .refl _
      · rw [same]
        exact Counter.within_next _
  | succeeded first second sequenced following clock log =>
      apply moved
      rw [clock, following, sequenced]
      exact Counter.within_next _
  | replaced first second sequenced following clock log =>
      apply moved
      rw [clock, following, sequenced]
      exact Counter.within_next _
  | noted stores notes => exact ⟨notes.within, .inl stores⟩
  | reloaded clock log stores =>
      rw [clock]
      exact ⟨.refl _, .inl stores⟩

theorem moves (chronicle : Chronicle bound before after op)
    (unsaturated : ¬after.commitSequence.Saturated)
    (covered : History.Covered before.history before.commitSequence) :
    History.Covered after.history after.commitSequence ∧
      (BoundedLogs.Moves bound.toNat before.commitSequence before.history after.history ∨
        ((∃ advance, op = .reload advance) ∧
          after.history = before.history.map fun _ => HistoryEvent.restored)) := by
  cases chronicle with
  | quiet clock log stores =>
      rw [clock, log]
      exact ⟨covered, .inl .refl⟩
  | single event sequenced clock log =>
      rw [clock] at unsaturated
      rw [clock, log]
      have above : before.commitSequence.value.toNat < event.sequence.value.toNat := by
        rcases sequenced with same | same
        · have step := Counter.next_above (.refl _) (same ▸ unsaturated)
          rw [same]
          omega
        · have last := Counter.next_above (.refl _) (same ▸ unsaturated)
          have reached := Counter.within_next before.commitSequence
          unfold Counter.Within at reached
          rw [same]
          omega
      have later : before.commitSequence.Within event.sequence := Nat.le_of_lt above
      exact ⟨covered.putBounded later (.refl _),
        .inl (History.putBounded_moves above (covered.fresh above))⟩
  | succeeded first second sequenced following clock log =>
      rw [clock] at unsaturated
      rw [clock, log]
      obtain ⟨step, last⟩ := Counter.two_above sequenced following unsaturated
      have written : History.Covered (before.history.insert first.sequence first)
          first.sequence := covered.insert (Nat.le_of_lt (by omega))
      have superseded : BoundedLogs.Moves bound.toNat before.commitSequence before.history
          (before.history.insert first.sequence first) :=
        History.insert_moves (by omega) (covered.fresh (by omega))
      have unused : (before.history.insert first.sequence first)[second.sequence]? = none :=
        written.fresh (by omega)
      exact ⟨written.putBounded (Nat.le_of_lt (by omega)) (.refl _),
        .inl (superseded.trans (History.putBounded_moves (by omega) unused))⟩
  | replaced first second sequenced following clock log =>
      rw [clock] at unsaturated
      rw [clock, log]
      obtain ⟨step, last⟩ := Counter.two_above sequenced following unsaturated
      have written : History.Covered (putBounded bound before.history first.sequence first)
          first.sequence := covered.putBounded (Nat.le_of_lt (by omega)) (.refl _)
      -- the second event takes the smaller key, which the first did not use
      have unused : before.history[second.sequence]? = none := covered.fresh (by omega)
      have fresh :
          (putBounded bound before.history first.sequence first)[second.sequence]? = none := by
        refine Option.eq_none_iff_forall_ne_some.mpr fun found present => ?_
        rcases putBounded_entry present with ⟨same, _⟩ | ⟨_, old⟩
        · rw [same] at last
          omega
        · simp [unused] at old
      have superseded : BoundedLogs.Moves bound.toNat before.commitSequence before.history
          (putBounded bound before.history first.sequence first) :=
        History.putBounded_moves (by omega) (covered.fresh (by omega))
      exact ⟨written.putBounded (.refl _) (Nat.le_of_lt (by omega)),
        .inl (superseded.trans (History.putBounded_moves (by omega) fresh))⟩
  | noted stores notes =>
      have taken : BoundedLogs.Moves bound.toNat before.commitSequence before.history
          after.history ∧ History.Covered after.history after.commitSequence :=
        notes.moves unsaturated covered (.refl _)
      exact ⟨taken.2, .inl taken.1⟩
  | @reloaded advance clock log _ =>
      refine ⟨?_, .inr ⟨⟨advance, rfl⟩, log⟩⟩
      rw [clock, log]
      intro key event present
      rw [Std.ExtTreeMap.getElem?_map] at present
      obtain ⟨old, found, rfl⟩ := Option.map_eq_some_iff.mp present
      exact covered key old found

end Chronicle

theorem ArtifactRecord.mem_sequences {artifact : ArtifactRecord} {sequence : CommitSequence} :
    sequence ∈ artifact.sequences ↔ sequence = artifact.createdSequence ∨
      sequence = artifact.promotionSequence ∨ sequence = artifact.lastSequence ∨
      sequence = artifact.quarantine.sequence ∨ sequence = artifact.revocation.sequence ∨
      sequence = artifact.supersession.sequence := by
  simp [sequences]

def ArtifactRecord.Restamps (old changed : ArtifactRecord) (stamp : CommitSequence) : Prop :=
  ∀ sequence ∈ changed.sequences, sequence ∈ old.sequences ∨ sequence = stamp

namespace Engine

variable {engine next : Engine}

structure Unsaturated (engine : Engine) : Prop where
  commits : ¬engine.state.commitSequence.Saturated
  decisions : ¬engine.state.decisionSequence.Saturated

structure StoresSequenced (engine : Engine) : Prop where
  artifacts : ∀ id, ∀ artifact ∈ engine.state.chain id, ∀ sequence ∈ artifact.sequences,
    sequence.Within engine.state.commitSequence
  evidence : ∀ (id : EvidenceId) (record : EvidenceRecord),
    engine.state.evidence[id]? = some record → ∀ sequence ∈ record.sequences,
      sequence.Within engine.state.commitSequence
  plans : ∀ (id : PromotionPlanId) (plan : PromotionPlan),
    engine.state.plans[id]? = some plan → ∀ sequence ∈ plan.sequences,
      sequence.Within engine.state.commitSequence
  records : ∀ (id : TransitionId) (record : PromotionRecord),
    engine.state.records[id]? = some record → record.sequence.Within engine.state.commitSequence

/-- Every commit sequence in the state was taken from the commit clock, every decision sequence from
the decision clock, and no two decisions and no two evidence records share one. -/
structure Sequenced (engine : Engine) : Prop extends StoresSequenced engine where
  reservations : ∀ (id : ArtifactId) (reservation : PendingTransition),
    engine.state.pending[id]? = some reservation →
      reservation.createdSequence.Within engine.state.commitSequence
  history : History.Covered engine.state.history engine.state.commitSequence
  decisions : ∀ (id : PromotionDecisionId) (decision : PromotionDecision),
    engine.state.decisions[id]? = some decision →
      decision.sequence.Within engine.state.decisionSequence
  decisionsApart : Counter.Apart engine.state.decisions PromotionDecision.sequence
  evidenceApart : Counter.Apart engine.state.evidence EvidenceRecord.createdSequence

theorem promotedArtifact_restamps (state : CoordinatorState) (plan : PromotionPlan)
    (artifact : ArtifactRecord) :
    artifact.Restamps (promotedArtifact state plan artifact) state.commitSequence := by
  intro sequence carried
  unfold promotedArtifact at carried
  dsimp only at carried
  split at carried
  all_goals
    simp only [ArtifactRecord.mem_sequences] at carried ⊢
    tauto

theorem supersedeByRegistration_restamps (state : CoordinatorState) (revision : ArtifactRevision)
    (previous : ArtifactRecord) (id : ArtifactId) :
    previous.Restamps (supersedeByRegistration state revision previous id)
      state.commitSequence := by
  intro sequence carried
  unfold supersedeByRegistration at carried
  dsimp only at carried
  split at carried
  all_goals
    simp only [ArtifactRecord.mem_sequences] at carried ⊢
    tauto

theorem trust_restamps (state : CoordinatorState) (artifact successor : ArtifactRecord)
    (id : ArtifactId) (decision : PromotionDecisionId) (reasonClass detail : Text)
    (cause : EvidenceId) :
    artifact.Restamps (quarantinedArtifact state artifact reasonClass detail)
        state.commitSequence ∧
      artifact.Restamps (releasedArtifact state artifact) state.commitSequence ∧
      artifact.Restamps (revokedArtifact state artifact decision reasonClass detail cause)
        state.commitSequence ∧
      artifact.Restamps (supersededArtifact state artifact successor id detail)
        state.commitSequence ∧
      artifact.Restamps (retiredArtifact state artifact) state.commitSequence := by
  refine ⟨?_, ?_, ?_, ?_, ?_⟩
  all_goals
    intro sequence carried
    simp only [ArtifactRecord.mem_sequences, quarantinedArtifact, releasedArtifact,
      revokedArtifact, supersededArtifact, retiredArtifact] at carried ⊢
    tauto

theorem registered_stamp {registration : ArtifactRegistration} {now : UInt64}
    {added : ArtifactRecord}
    (moved : engine.step (.registerArtifact registration now) =
      some (.registered (.ok added), next)) :
    added.createdSequence = next.state.commitSequence := by
  have performed := (step_eq_some moved).1
  simp only [perform, answerWith, Option.some.injEq, Prod.mk.injEq, Reply.registered.injEq]
    at performed
  obtain ⟨accepted, rfl⟩ := performed
  revert accepted
  unfold registerArtifact
  dsimp only
  repeat' split
  all_goals intro accepted
  all_goals cases accepted
  rfl

theorem registered_sequences {registration : ArtifactRegistration} {now : UInt64}
    {added : ArtifactRecord}
    (moved : engine.step (.registerArtifact registration now) =
      some (.registered (.ok added), next)) {id : ArtifactId} {artifact : ArtifactRecord}
    (inside : artifact ∈ next.state.chain id) {sequence : CommitSequence}
    (carried : sequence ∈ artifact.sequences) :
    (∃ old ∈ engine.state.chain id, sequence ∈ old.sequences) ∨
      sequence = engine.state.commitSequence.next ∨ sequence = next.state.commitSequence ∨
      sequence = {} := by
  obtain ⟨stamped, _, _, _, made, chains⟩ := registered_chain moved
  have created := registered_stamp moved
  rw [chains] at inside
  split at inside
  · rename_i same
    subst same
    rw [List.mem_append, List.mem_singleton, supersededChain] at inside
    rcases inside with earlier | rfl
    · split at earlier
      · simp at earlier
      rename_i previous last
      rw [List.mem_append, List.mem_singleton] at earlier
      rcases earlier with untouched | rfl
      · exact .inl ⟨artifact, List.dropLast_subset _ untouched, carried⟩
      · have member := List.mem_of_getLast? last
        rcases supersedeByRegistration_restamps _ _ previous _ sequence carried with old | fresh
        · exact .inl ⟨previous, member, old⟩
        · exact .inr (.inl fresh)
    · rw [made] at created carried
      have stamps : sequence = stamped.commitSequence ∨ sequence = {} := by
        simp only [ArtifactRecord.mem_sequences, registrationRecord] at carried
        tauto
      rcases stamps with fresh | unset
      · exact .inr (.inr (.inl (fresh.trans created)))
      · exact .inr (.inr (.inr unset))
  · exact .inl ⟨artifact, inside, carried⟩

theorem step_artifact_sequences (sound : engine.Sound) {op : Op} {reply : Reply}
    (moved : engine.step op = some (reply, next)) {id : ArtifactId} {artifact : ArtifactRecord}
    (inside : artifact ∈ next.state.chain id) {sequence : CommitSequence}
    (carried : sequence ∈ artifact.sequences) :
    (∃ old ∈ engine.state.chain id, sequence ∈ old.sequences) ∨
      sequence = engine.state.commitSequence.next ∨ sequence = next.state.commitSequence ∨
      sequence = {} := by
  obtain ⟨index, held⟩ := List.mem_iff_getElem?.mp inside
  rcases step_position sound moved held with
    ⟨old, before, revised⟩ | ⟨registration, now, rfl, rfl, _, _⟩
  · have member := List.mem_of_getElem? before
    have stamped (restamps : old.Restamps artifact engine.state.advanceSequence.commitSequence) :
        (∃ old ∈ engine.state.chain id, sequence ∈ old.sequences) ∨
          sequence = engine.state.commitSequence.next ∨ sequence = next.state.commitSequence ∨
          sequence = {} := by
      rcases restamps sequence carried with kept | fresh
      · exact .inl ⟨old, member, kept⟩
      · exact .inr (.inl fresh)
    cases revised with
    | kept => exact .inl ⟨artifact, member, carried⟩
    | restored => exact .inl ⟨old, member, carried⟩
    | overtaken => exact registered_sequences moved inside carried
    | applied => exact stamped (promotedArtifact_restamps _ _ _)
    | @quarantined reasonClass detail _ _ _ =>
        exact stamped (trust_restamps _ old old id {} reasonClass detail {}).1
    | released => exact stamped (trust_restamps _ old old id {} [] [] {}).2.1
    | @revoked _ reasonClass detail _ cause _ _ _ target =>
        exact stamped (trust_restamps _ old old id target reasonClass detail cause).2.2.1
    | @superseded successor reason _ _ _ _ record =>
        exact stamped (trust_restamps _ old record successor {} [] reason {}).2.2.2.1
    | retired => exact stamped (trust_restamps _ old old id {} [] [] {}).2.2.2.2
  · exact registered_sequences moved inside carried

theorem step_evidence_sequences (sound : engine.Sound) {op : Op} {reply : Reply}
    (moved : engine.step op = some (reply, next)) {id : EvidenceId} {record : EvidenceRecord}
    (held : next.state.evidence[id]? = some record) :
    (∃ old, engine.state.evidence[id]? = some old ∧
        record.createdSequence = old.createdSequence ∧
        (record.revocationSequence = old.revocationSequence ∨
          record.revocationSequence = engine.state.commitSequence.next)) ∨
      (id = engine.control.evidenceGenerator.next ∧
        record.createdSequence = engine.state.commitSequence.next ∧
        record.revocationSequence = {}) := by
  have held : next.control.evidence[id]? = some record := held
  cases step_storeChange sound moved with
  | kept same =>
      rw [same] at held
      exact .inl ⟨record, held, rfl, .inl rfl⟩
  | submitted validated found digest made changed =>
      rw [changed] at held
      rcases submitted_entry held with ⟨named, rfl⟩ | old | ⟨old, before, rfl⟩
      · subst made
        exact .inr ⟨named, rfl, rfl⟩
      · exact .inl ⟨record, old, rfl, .inl rfl⟩
      · exact .inl ⟨old, before, rfl, .inl rfl⟩
  | revoked found unrevoked changed =>
      rw [changed] at held
      rcases OrderedMaps.insert_cases held with ⟨rfl, rfl⟩ | ⟨_, old⟩
      · exact .inl ⟨_, found, rfl, .inr rfl⟩
      · exact .inl ⟨record, old, rfl, .inl rfl⟩
  | reloaded changed =>
      rw [changed, Std.ExtTreeMap.getElem?_map] at held
      obtain ⟨old, before, rfl⟩ := Option.map_eq_some_iff.mp held
      exact .inl ⟨old, before, rfl, .inl rfl⟩

theorem step_plan_sequences (sound : engine.Sound) {op : Op} {reply : Reply}
    (moved : engine.step op = some (reply, next)) {id : PromotionPlanId} {plan : PromotionPlan}
    (held : next.state.plans[id]? = some plan) :
    (∃ old, engine.state.plans[id]? = some old ∧ plan.sequences = old.sequences) ∨
      ((∃ artifact ∈ engine.state.chain plan.artifact,
        plan.artifactSequence ∈ artifact.sequences) ∧
        plan.createdSequence = engine.state.commitSequence.next) := by
  rcases step_plan_stored sound moved held with
    ⟨old, before, same⟩ | ⟨request, now, artifact, rfl, issues, rfl, _⟩
  · refine .inl ⟨old, before, ?_⟩
    rcases same with rfl | rfl <;> rfl
  · right
    have inside := List.mem_of_find?_eq_some issues.found
    have named := sound.coherent.chain_named request.artifact artifact inside
    refine ⟨⟨artifact, ?_, ?_⟩, rfl⟩
    · change artifact ∈ engine.state.chain artifact.id
      rw [named]
      exact inside
    · exact ArtifactRecord.mem_sequences.mpr (.inr (.inr (.inl rfl)))

theorem step_record_sequence (sound : engine.Sound) {op : Op} {reply : Reply}
    (moved : engine.step op = some (reply, next)) {id : TransitionId} {record : PromotionRecord}
    (held : next.state.records[id]? = some record) :
    (∃ old, engine.state.records[id]? = some old ∧ record.sequence = old.sequence) ∨
      record.sequence = engine.state.commitSequence.next := by
  cases step_logged sound moved held with
  | held old found same =>
      refine .inl ⟨old, found, ?_⟩
      rcases same with rfl | rfl <;> rfl
  | committed | released | revoked | superseded | retired => exact .inr rfl

theorem stores_sequenced_of_same (stores : engine.StoresSequenced)
    (later : engine.state.commitSequence.Within next.state.commitSequence)
    (same : engine.state.SameSequences next.state) : next.StoresSequenced where
  artifacts id artifact inside sequence carried := by
    have listed := List.mem_map_of_mem (f := ArtifactRecord.sequences) inside
    rw [same.chains id] at listed
    obtain ⟨old, before, equal⟩ := List.mem_map.mp listed
    rw [← equal] at carried
    exact (stores.artifacts id old before sequence carried).trans later
  evidence id record held sequence carried := by
    have kept := same.evidence id
    rw [held] at kept
    obtain ⟨old, before, equal⟩ := Option.map_eq_some_iff.mp kept.symm
    rw [← equal] at carried
    exact (stores.evidence id old before sequence carried).trans later
  plans id plan held sequence carried := by
    have kept := same.plans id
    rw [held] at kept
    obtain ⟨old, before, equal⟩ := Option.map_eq_some_iff.mp kept.symm
    rw [← equal] at carried
    exact (stores.plans id old before sequence carried).trans later
  records id record held := by
    have kept := same.records id
    rw [held] at kept
    obtain ⟨old, before, equal⟩ := Option.map_eq_some_iff.mp kept.symm
    rw [← equal]
    exact (stores.records id old before).trans later

theorem step_stores_sequenced (sound : engine.Sound) {op : Op} {reply : Reply}
    (moved : engine.step op = some (reply, next)) (stores : engine.StoresSequenced) :
    next.StoresSequenced := by
  obtain ⟨later, same | advanced⟩ := (step_chronicled sound moved).commits.advanced
  · exact stores_sequenced_of_same stores later same
  constructor
  case artifacts =>
    intro id artifact inside sequence carried
    rcases step_artifact_sequences sound moved inside carried with
      ⟨old, before, kept⟩ | rfl | rfl | rfl
    · exact (stores.artifacts id old before sequence kept).trans later
    · exact advanced
    · exact .refl _
    · exact Nat.zero_le _
  case evidence =>
    intro id record held sequence carried
    rw [EvidenceRecord.sequences, List.mem_pair] at carried
    rcases step_evidence_sequences sound moved held with
      ⟨old, before, created, revoked⟩ | ⟨_, created, revoked⟩
    · have kept := stores.evidence id old before
      rcases carried with rfl | rfl
      · rw [created]
        exact (kept _ List.mem_cons_self).trans later
      rcases revoked with same | stamped
      · rw [same]
        exact (kept _ (List.mem_pair.mpr (.inr rfl))).trans later
      · rw [stamped]
        exact advanced
    · rcases carried with rfl | rfl
      · rw [created]
        exact advanced
      · rw [revoked]
        exact Nat.zero_le _
  case plans =>
    intro id plan held sequence carried
    rcases step_plan_sequences sound moved held with
      ⟨old, before, same⟩ | ⟨⟨artifact, inside, read⟩, created⟩
    · rw [same] at carried
      exact (stores.plans id old before sequence carried).trans later
    · rw [PromotionPlan.sequences, List.mem_pair] at carried
      rcases carried with rfl | rfl
      · exact (stores.artifacts plan.artifact artifact inside _ read).trans later
      · rw [created]
        exact advanced
  case records =>
    intro id record held
    rcases step_record_sequence sound moved held with ⟨old, before, same⟩ | stamped
    · rw [same]
      exact (stores.records id old before).trans later
    · rw [stamped]
      exact advanced

theorem step_decision_sequence (sound : engine.Sound) {op : Op} {reply : Reply}
    (moved : engine.step op = some (reply, next)) {id : PromotionDecisionId}
    {decision : PromotionDecision} (held : next.state.decisions[id]? = some decision) :
    (∃ old, engine.state.decisions[id]? = some old ∧ decision.sequence = old.sequence) ∨
      (id = engine.control.decisionGenerator.next ∧
        decision.sequence = engine.state.decisionSequence.next ∧
        next.state.decisionSequence = engine.state.decisionSequence.next) := by
  have opened (fresh : id = engine.control.decisionGenerator.next) :
      next.state.decisionSequence = engine.state.decisionSequence.next := by
    rcases (step_chronicled sound moved).decisions with ⟨_, generator⟩ | advanced
    · have issued := ((sound_step sound moved).coherent.decisions id decision held).2
      have same : next.control.decisionGenerator = engine.control.decisionGenerator := generator
      rw [same, fresh] at issued
      have room := sound.coherent.decisionRoom sound.roomy
      exact absurd issued (IdentityGenerator.next_not_issued room)
    · exact advanced
  cases step_stems sound moved held with
  | held old found same => exact .inl ⟨old, found, same.2.2.1⟩
  | rebound old stored found follows => exact .inl ⟨old, found, follows.sequence⟩
  | requested _ _ sequenced _ _ => exact .inr ⟨rfl, sequenced, opened rfl⟩
  | released sequenced => exact .inr ⟨rfl, sequenced, opened rfl⟩

theorem step_reservation_sequence {op : Op} {reply : Reply}
    (moved : engine.step op = some (reply, next)) {id : ArtifactId}
    {reservation : PendingTransition} (held : next.state.pending[id]? = some reservation) :
    engine.state.pending[id]? = some reservation ∨
      ∃ (planId : PromotionPlanId) (plan : PromotionPlan), next.state.plans[planId]? = some plan ∧
        reservation.createdSequence = plan.createdSequence := by
  rcases step_pending moved held with old | ⟨plan, _, _, _, issues⟩
  · exact .inl old
  · obtain ⟨_, _, _, _, _, _, _, _, _, _, rfl⟩ := issues.evaluated
    exact .inr ⟨plan.id, plan, issues.stored, rfl⟩

theorem step_decisions_sequenced (sound : engine.Sound) {op : Op} {reply : Reply}
    (moved : engine.step op = some (reply, next)) (sequenced : engine.Sequenced)
    {id : PromotionDecisionId} {decision : PromotionDecision}
    (held : next.state.decisions[id]? = some decision) :
    decision.sequence.Within next.state.decisionSequence := by
  rcases step_decision_sequence sound moved held with ⟨old, before, same⟩ | ⟨_, same, clock⟩
  · rw [same]
    refine (sequenced.decisions id old before).trans ?_
    rcases (step_chronicled sound moved).decisions with ⟨clock, _⟩ | clock
    · rw [clock]
      exact .refl _
    · rw [clock]
      exact Counter.within_next _
  · rw [same, clock]
    exact .refl _

theorem step_decisions_apart (sound : engine.Sound) {op : Op} {reply : Reply}
    (moved : engine.step op = some (reply, next)) (unsaturated : next.Unsaturated)
    (sequenced : engine.Sequenced) :
    Counter.Apart next.state.decisions PromotionDecision.sequence := by
  refine Counter.Apart.extend engine.state.decisionSequence engine.control.decisionGenerator.next
    sequenced.decisionsApart sequenced.decisions ?_
  intro id decision held
  rcases step_decision_sequence sound moved held with kept | ⟨named, taken, clock⟩
  · exact .inl kept
  · exact .inr ⟨named, taken, Counter.next_above (.refl _) (clock ▸ unsaturated.decisions)⟩

theorem step_evidence_apart (sound : engine.Sound) {op : Op} {reply : Reply}
    (moved : engine.step op = some (reply, next)) (unsaturated : next.Unsaturated)
    (sequenced : engine.Sequenced) :
    Counter.Apart next.state.evidence EvidenceRecord.createdSequence := by
  refine Counter.Apart.extend engine.state.commitSequence engine.control.evidenceGenerator.next
    sequenced.evidenceApart
    (fun id record held => sequenced.evidence id record held _ List.mem_cons_self) ?_
  intro id record held
  obtain ⟨_, same | advanced⟩ := (step_chronicled sound moved).commits.advanced
  · have kept := same.evidence id
    rw [held] at kept
    obtain ⟨old, before, equal⟩ := Option.map_eq_some_iff.mp kept.symm
    exact .inl ⟨old, before, (List.cons.inj equal).1.symm⟩
  · rcases step_evidence_sequences sound moved held with
      ⟨old, before, created, _⟩ | ⟨named, created, _⟩
    · exact .inl ⟨old, before, created⟩
    · exact .inr ⟨named, created, Counter.next_above advanced unsaturated.commits⟩

theorem step_sequenced (sound : engine.Sound) {op : Op} {reply : Reply}
    (moved : engine.step op = some (reply, next)) (unsaturated : next.Unsaturated)
    (sequenced : engine.Sequenced) : next.Sequenced := by
  have chronicle := (step_chronicled sound moved).commits
  have stores := step_stores_sequenced sound moved sequenced.toStoresSequenced
  refine ⟨stores, ?_, (chronicle.moves unsaturated.commits sequenced.history).1,
    fun _ _ held => step_decisions_sequenced sound moved sequenced held,
    step_decisions_apart sound moved unsaturated sequenced,
    step_evidence_apart sound moved unsaturated sequenced⟩
  intro id reservation held
  rcases step_reservation_sequence moved held with old | ⟨planId, plan, stored, same⟩
  · exact (sequenced.reservations id reservation old).trans chronicle.advanced.1
  · rw [same]
    exact stores.plans planId plan stored _ (List.mem_pair.mpr (.inr rfl))

/-- From one state to the next the history lost its smallest event only when it was full, and got
events only under keys that were free and above every sequence taken before. -/
def HistoryMoves (before after : Engine) : Prop :=
  BoundedLogs.Moves before.config.maxHistoryEvents.toNat before.state.commitSequence
    before.state.history after.state.history

/-- The operation is a reload that is carried out while a note of the history is longer than a text
of the snapshot may be. -/
def Abridges (engine : Engine) (op : Op) : Prop :=
  ∃ advance image, op = .reload advance ∧
    StatePersistence.decode (StatePersistence.encode engine.snapshot) = .ok image ∧
    CoordinatorState.verifyConsistency { image with
      epoch := if advance then image.epoch.next else image.epoch, pending := ∅ } = some (.ok ()) ∧
    ∃ (key : CommitSequence) (event : HistoryEvent), engine.state.history[key]? = some event ∧
      kMaxTextLength < event.note.length

theorem reload_history (sound : engine.Sound) {advance : Bool} {reply : Reply}
    (moved : engine.step (.reload advance) = some (reply, next)) :
    (next = engine ∧ reply ≠ .reloaded (.ok ())) ∨
      (reply = .reloaded (.ok ()) ∧
        next.state.history = engine.state.history.map fun _ => HistoryEvent.restored) := by
  rcases reload_cases moved with same | ⟨accepted, image, decoded, installed⟩
  · exact .inl same
  · have image_eq := decoded_image sound decoded
    rw [StatePersistence.restoredState_eq] at image_eq
    subst image_eq
    refine .inr ⟨accepted, ?_⟩
    rw [installed]
    rfl

theorem reload_carried_iff {advance : Bool} {reply : Reply}
    (moved : engine.step (.reload advance) = some (reply, next)) :
    reply = .reloaded (.ok ()) ↔ ∃ image,
      StatePersistence.decode (StatePersistence.encode engine.snapshot) = .ok image ∧
      CoordinatorState.verifyConsistency { image with
        epoch := if advance then image.epoch.next else image.epoch, pending := ∅ } =
          some (.ok ()) := by
  constructor
  · rintro rfl
    rcases reload_cases moved with ⟨_, refused⟩ | ⟨_, image, decoded, installed⟩
    · exact absurd rfl refused
    · refine ⟨image, decoded, ?_⟩
      rw [← installed]
      exact reload_consistent moved
  · rintro ⟨image, decoded, consistent⟩
    have performed := (step_eq_some moved).1
    rw [perform] at performed
    obtain ⟨outcome, installed, answered⟩ := Option.bind_eq_some_iff.mp performed
    simp only [answerWith, Option.some.injEq, Prod.mk.injEq] at answered
    rw [← answered.1]
    unfold reload installState at installed
    rw [decoded] at installed
    have checked : CoordinatorState.verifyConsistency
        { (if advance then { image with epoch := image.epoch.next } else image) with
          pending := ∅ } = some (.ok ()) := by
      cases advance <;> exact consistent
    simp only [checked, Option.map_some, Option.some.injEq] at installed
    rw [← installed]

theorem step_moves_iff (sound : engine.Sound) {op : Op} {reply : Reply}
    (moved : engine.step op = some (reply, next)) (unsaturated : next.Unsaturated)
    (sequenced : engine.Sequenced) : HistoryMoves engine next ↔ ¬engine.Abridges op := by
  constructor
  · rintro moves ⟨advance, image, rfl, decoded, consistent, key, event, held, long⟩
    have carried := (reload_carried_iff moved).mpr ⟨image, decoded, consistent⟩
    rcases reload_history sound moved with ⟨_, refused⟩ | ⟨_, restored⟩
    · exact absurd carried refused
    have shortened : next.state.history[key]? = some event.restored := by
      rw [restored, Std.ExtTreeMap.getElem?_map, held, Option.map_some]
    have below := Counter.compare_not_lt (sequenced.history key event held).2
    have kept := BoundedLogs.Moves.unmodified moves below shortened
    rw [held, Option.some.injEq] at kept
    have short := (HistoryEvent.restored_eq_iff event).mp kept.symm
    omega
  · intro spared
    obtain ⟨_, moves | ⟨⟨advance, rfl⟩, restored⟩⟩ :=
      (step_chronicled sound moved).commits.moves unsaturated.commits sequenced.history
    · exact moves
    rcases reload_history sound moved with ⟨rfl, _⟩ | ⟨rfl, _⟩
    · exact .refl
    obtain ⟨image, decoded, consistent⟩ := (reload_carried_iff moved).mp rfl
    have same : next.state.history = engine.state.history := by
      rw [restored]
      refine OrderedMaps.map_eq_self_iff.mpr fun entry inside => ?_
      rw [HistoryEvent.restored_eq_iff]
      by_contra long
      exact spared ⟨advance, image, rfl, decoded, consistent, entry.1, entry.2,
        Std.ExtTreeMap.mem_toList_iff_getElem?_eq_some.mp inside, by omega⟩
    unfold HistoryMoves
    rw [same]

theorem constructed_sequenced (constructed : Constructed engine) : engine.Sequenced := by
  obtain ⟨config, epoch, salting, naming, rfl⟩ := constructed
  refine ⟨⟨?_, ?_, ?_, ?_⟩, ?_, ?_, ?_, ?_, ?_⟩
  · intro id artifact inside
    rw [create_chain] at inside
    simp at inside
  all_goals
    intro id
    intros
    exact (no_entry rfl ‹_ = some _›).elim

theorem run_sequenced {start final : Engine} {trace : List EngineStep}
    (constructed : Constructed start) (run : EngineRun start trace final)
    (unsaturated : ∀ step ∈ trace, step.after.Unsaturated) : final.Sound ∧ final.Sequenced := by
  refine run.guarded (fun engine => engine.Sound ∧ engine.Sequenced)
    (fun step => step.after.Unsaturated) ?_
    ⟨constructed.sound, constructed_sequenced constructed⟩ unsaturated
  rintro step ⟨sound, sequenced⟩ below moved
  exact ⟨sound_step sound moved, step_sequenced sound moved below sequenced⟩

/-- In every run that saturates neither clock, the sequences are kept in order in every state, and
the history moves as a bounded log does in every step, if and only if no step abridges an event. -/
theorem run_sequences_iff {start final : Engine} {trace : List EngineStep}
    (constructed : Constructed start) (run : EngineRun start trace final)
    (unsaturated : ∀ step ∈ trace, step.after.Unsaturated) :
    (final.Sequenced ∧ ∀ step ∈ trace, step.before.Sequenced ∧
      HistoryMoves step.before step.after) ↔
      ∀ step ∈ trace, ¬step.before.Abridges step.input := by
  have earlier (step : EngineStep) (executed : step ∈ trace) :
      step.before.Sequenced ∧
        (HistoryMoves step.before step.after ↔ ¬step.before.Abridges step.input) := by
    obtain ⟨past, future, rfl⟩ := List.append_of_mem executed
    obtain ⟨before, moved, _⟩ := run.cut
    obtain ⟨sound, sequenced⟩ := run_sequenced constructed before fun other inside =>
      unsaturated other (by simp [inside])
    exact ⟨sequenced, step_moves_iff sound moved (unsaturated step executed) sequenced⟩
  constructor
  · rintro ⟨_, moves⟩ step executed
    exact (earlier step executed).2.mp (moves step executed).2
  · intro spared
    refine ⟨(run_sequenced constructed run unsaturated).2, fun step executed => ?_⟩
    obtain ⟨sequenced, moves⟩ := earlier step executed
    exact ⟨sequenced, moves.mpr (spared step executed)⟩

def clocksRun (trace : List EngineStep) : Bool :=
  trace.all fun step => step.after.state.commitSequence.value != 0xFFFFFFFFFFFFFFFF &&
    step.after.state.decisionSequence.value != 0xFFFFFFFFFFFFFFFF

theorem unsaturated_of_clocksRun {trace : List EngineStep} (checked : clocksRun trace = true) :
    ∀ step ∈ trace, step.after.Unsaturated := by
  intro step executed
  have values := List.all_eq_true.mp checked step executed
  simp only [Bool.and_eq_true, bne_iff_ne, ne_eq] at values
  exact ⟨values.1, values.2⟩

def writesOnly (played : List EngineStep × Engine) : Bool :=
  clocksRun played.1 && played.2.state.history.size == 5 && played.1.all fun step =>
    match step.input with
    | .reload _ => false
    | _ => true

theorem run_sequences_iff_resubmitted :
    ∃ (trace : List EngineStep) (final : Engine), EngineRun sampleEngine trace final ∧
      final.state.history.size = 5 ∧ (∀ step ∈ trace, step.after.Unsaturated) ∧
      final.Sequenced ∧ ∀ step ∈ trace, step.before.Sequenced ∧
        HistoryMoves step.before step.after := by
  have evaluated : (play step sampleEngine resubmitChoices).any writesOnly = true := by
    decide +kernel
  obtain ⟨trace, final, run, checked⟩ := run_of_checked evaluated
  simp only [writesOnly, Bool.and_eq_true, beq_iff_eq, List.all_eq_true] at checked
  obtain ⟨⟨clocks, events⟩, quiet⟩ := checked
  have unsaturated := unsaturated_of_clocksRun clocks
  refine ⟨trace, final, run, events, unsaturated,
    (run_sequences_iff sampleEngine_constructed run unsaturated).mpr ?_⟩
  rintro step executed ⟨advance, _, reloads, _⟩
  have other := quiet step executed
  simp [reloads] at other

def longReasonChoices : List (Engine → Op) :=
  [fun _ => .publishPolicy directPolicy,
    fun _ => .registerArtifact (sampleRegistration 1) 0,
    fun engine => .submitEvidence engine.sampleEvidence,
    fun engine => .revokeEvidence engine.sampleEvidenceId (List.replicate 512 97)
      engine.state.authority]

theorem consistent_of_evidence {state : CoordinatorState}
    (bare : CoordinatorState.verifyConsistency { state with evidence := ∅ } = some (.ok ()))
    (evidence : ∀ entry ∈ state.evidence.toList, state.checkEvidence entry = .ok ()) :
    state.verifyConsistency = some (.ok ()) := by
  have checked : checkEach state.checkEvidence state.evidence.toList = .ok () :=
    (checkEach_eq_ok _ _ _).mpr evidence
  unfold CoordinatorState.verifyConsistency at bare ⊢
  dsimp only at bare ⊢
  split at bare
  · simp at bare
  · obtain ⟨policyStatus, validated, rest⟩ := Option.map_eq_some_iff.mp bare
    simp only [bind_eq_ok] at rest
    obtain ⟨_, policy, _, chains, _, _, others⟩ := rest
    rw [validated, Option.map_some, Option.some.injEq]
    simp only [bind_eq_ok]
    exact ⟨_, policy, _, chains, _, checked, others⟩

def evidenceReloadable (engine : Engine) : Bool :=
  (StatePersistence.encodePayload engine.snapshot).length ≤ kMaxSnapshotBytes &&
    StatePersistence.accepts { engine.snapshot with evidence := ∅ } &&
    engine.state.evidence.size ≤ 10000000 &&
    (engine.state.evidence.toList.all fun entry => entry.1.valid && entry.2.valid &&
      (engine.reloadedState.findRevision entry.2.subject entry.2.subjectRevision).any
        fun artifact => artifact.digest == entry.2.subjectDigest) &&
    CoordinatorState.verifyConsistency { engine.reloadedState with evidence := ∅ } ==
      some (.ok ()) &&
    (engine.dirty engine.reloadedState).representable

theorem reloadable_of_evidence (stored : engine.StoreSound)
    (checked : engine.evidenceReloadable = true) : engine.reloadable = true := by
  simp only [evidenceReloadable, Bool.and_eq_true, decide_eq_true_eq, beq_iff_eq,
    List.all_eq_true] at checked
  obtain ⟨⟨⟨⟨⟨short, bare⟩, few⟩, entries⟩, consistent⟩, representable⟩ := checked
  have integrity {entry : EvidenceId × EvidenceRecord}
      (inside : entry ∈ engine.state.evidence.toList) : entry.2.id = entry.1 ∧
      computeEvidenceIntegrity entry.2 = entry.2.integrityDigest := by
    have held := Std.ExtTreeMap.mem_toList_iff_getElem?_eq_some.mp inside
    exact ⟨(stored.sound.coherent.evidence entry.1 entry.2 held).1,
      (stored.recorded entry.1 entry.2 held).integrity⟩
  have accepted : StatePersistence.accepts engine.snapshot = true := by
    simp only [StatePersistence.accepts, Bool.and_eq_true, decide_eq_true_eq,
      List.all_eq_true] at bare ⊢
    refine ⟨short, fun part listed => ?_⟩
    cases part with
    | evidence =>
        refine ⟨few, fun entry inside => ?_⟩
        exact ⟨(entries entry inside).1.2, (integrity inside).2⟩
    | _ => exact bare.2 _ listed
  have same : engine.reloadedState.evidence = engine.state.evidence :=
    restored_evidence stored.recorded
  have whole : engine.reloadedState.verifyConsistency = some (.ok ()) := by
    refine consistent_of_evidence consistent ?_
    rw [same]
    intro entry inside
    obtain ⟨⟨named, valid⟩, subject⟩ := entries entry inside
    obtain ⟨identity, hashed⟩ := integrity inside
    rw [Option.any_eq_true] at subject
    obtain ⟨artifact, found, digest⟩ := subject
    simp only [CoordinatorState.checkEvidence, CoordinatorState.rejectCorrupt, bind_eq_ok,
      rejectWhen_eq_ok, Bool.or_eq_false_iff, Identity.invalid, Bool.not_eq_false',
      bne_eq_false_iff_eq, found, Option.isNone_some, Option.any_some]
    exact ⟨(), ⟨⟨named, identity⟩, valid⟩, (), trivial, (), beq_iff_eq.mp digest, hashed⟩
  simp only [reloadable, Bool.and_eq_true, beq_iff_eq]
  exact ⟨⟨accepted, whole⟩, representable⟩

def abridgesNext (played : List EngineStep × Engine) : Bool :=
  clocksRun played.1 && played.2.evidenceReloadable &&
    played.2.state.commitSequence.value != 0xFFFFFFFFFFFFFFFF &&
    played.2.state.decisionSequence.value != 0xFFFFFFFFFFFFFFFF &&
    played.2.state.history.toList.any fun entry => decide (kMaxTextLength < entry.2.note.length)

/-- A reload shortens the note of an event of the history. -/
theorem reload_abridges_history :
    ∃ (trace : List EngineStep) (final : Engine), EngineRun sampleEngine trace final ∧
      (∀ step ∈ trace, step.after.Unsaturated) ∧
      ∃ step ∈ trace, ∃ (key : CommitSequence) (event later : HistoryEvent),
        step.before.state.history[key]? = some event ∧
        step.after.state.history[key]? = some later ∧ later ≠ event ∧
        ¬HistoryMoves step.before step.after := by
  have evaluated : (play step sampleEngine longReasonChoices).any abridgesNext = true := by
    decide +kernel
  obtain ⟨trace, middle, run, checked⟩ := run_of_checked evaluated
  simp only [abridgesNext, Bool.and_eq_true, bne_iff_ne, ne_eq, List.any_eq_true,
    decide_eq_true_eq] at checked
  obtain ⟨⟨⟨⟨clocks, reloads⟩, commits⟩, decisions⟩, entry, inside, long⟩ := checked
  have unsaturated := unsaturated_of_clocksRun clocks
  obtain ⟨sound, sequenced⟩ := run_sequenced sampleEngine_constructed run unsaturated
  have stored := run_storeSound (constructed_storeSound sampleEngine_constructed) run
  have moved := reload_reloadable sound (reloadable_of_evidence stored reloads)
  have later : (middle.dirty middle.reloadedState).Unsaturated := ⟨commits, decisions⟩
  have held := Std.ExtTreeMap.mem_toList_iff_getElem?_eq_some.mp inside
  rcases reload_history sound moved with ⟨_, refused⟩ | ⟨_, restored⟩
  · exact absurd rfl refused
  have shortened : (middle.dirty middle.reloadedState).state.history[entry.1]? =
      some entry.2.restored := by
    rw [restored, Std.ExtTreeMap.getElem?_map, held, Option.map_some]
  have changed : entry.2.restored ≠ entry.2 := by
    rw [ne_eq, HistoryEvent.restored_eq_iff]
    omega
  obtain ⟨image, decoded, consistent⟩ := (reload_carried_iff moved).mp rfl
  have abridges : middle.Abridges (.reload false) :=
    ⟨false, image, rfl, decoded, consistent, entry.1, entry.2, held, long⟩
  refine ⟨_, _, run.append (.cons moved (.nil _)), ?_, _,
    List.mem_append_right _ List.mem_cons_self, entry.1, entry.2, _, held, shortened, changed, ?_⟩
  · intro step executed
    rw [List.mem_append, List.mem_singleton] at executed
    rcases executed with earlier | rfl
    · exact unsaturated step earlier
    · exact later
  · intro moves
    exact (step_moves_iff sound moved later sequenced).mp moves abridges

end Engine

end ArtifactPromotion
