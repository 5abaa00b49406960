import ArtifactPromotion.Engine.TrustFlags
import ArtifactPromotion.Engine.Withdrawals

/-! The shape of the revision chains, and for how many registrations the revision identities stay
distinct. -/

namespace ArtifactPromotion

open Runs

open IdentityGenerator

def Op.registers : Op → Bool
  | .registerArtifact _ _ => true
  | _ => false

namespace Engine

variable {engine next : Engine}

/-- Every revision identity was handed out by the generator since it started from the base salt, and
no two revisions share one. -/
structure RevisionsApart (base : UInt64) (engine : Engine) : Prop where
  salted : engine.control.revisionGenerator.salt ≠ 0
  placed : ∀ (id : ArtifactId), ∀ record ∈ engine.control.chain id,
    record.revision.high ≠ 0 ∧ record.revision.low ≠ 0 ∧
      place base record.revision ≤ place base engine.control.revisionGenerator.last
  apart : ∀ (id other : ArtifactId) (index position : Nat) (record second : ArtifactRecord),
    (engine.control.chain id)[index]? = some record →
      (engine.control.chain other)[position]? = some second →
        record.revision = second.revision → id = other ∧ index = position

theorem step_revisionGenerator {base : UInt64} (sound : engine.Sound)
    (apart : engine.RevisionsApart base) {op : Op} {reply : Reply}
    (moved : engine.step op = some (reply, next)) :
    next.control.revisionGenerator = engine.control.revisionGenerator ∨
      (op.registers = true ∧
        next.control.revisionGenerator = engine.control.revisionGenerator.advance) := by
  cases step_effect moved with
  | registrationRefused _ _ changed | registered _ _ _ _ _ _ _ changed =>
      have allocated := congrArg Control.revisionGenerator changed
      exact .inr ⟨rfl, allocated⟩
  | closed released _ _ _ _ changed =>
      left
      rw [changed]
      cases released <;> rfl
  | reloaded decoded changed =>
      left
      rw [changed]
      refine image_revisionGenerator sound apart.salted ?_ decoded
      intro id record inside same
      have placed := (apart.placed id record inside).2.2
      unfold place last at placed
      rw [same] at placed
      exact Nat.le_of_add_le_add_left placed
  | idle _ changed | published _ _ changed | restarted _ changed | recovered changed
  | compatibilityMoved _ changed | submitted _ _ _ _ changed | undecided _ _ _ changed
  | decided _ _ _ _ _ _ changed | issued _ _ _ _ _ _ changed | committed _ _ _ _ _ changed
  | quarantined _ _ _ _ changed | releaseRefused _ _ changed
  | released _ _ _ _ _ _ _ _ changed | revoked _ _ _ _ _ _ changed
  | superseded _ _ _ _ _ _ changed | retired _ _ _ changed | evidenceRevoked _ _ changed =>
      have same := congrArg Control.revisionGenerator changed
      exact .inl same

theorem step_revisions_apart {base : UInt64} (based : base ≠ 0) (sound : engine.Sound)
    (apart : engine.RevisionsApart base) {op : Op} {reply : Reply}
    (moved : engine.step op = some (reply, next))
    (room : op.registers = true →
      place base engine.control.revisionGenerator.last < kSpan * kSpan) :
    next.RevisionsApart base := by
  have generator := step_revisionGenerator sound apart moved
  have forward : place base engine.control.revisionGenerator.last ≤
      place base next.control.revisionGenerator.last := by
    rcases generator with same | ⟨registers, advanced⟩
    · rw [same]
    · rw [advanced, advance_place based apart.salted (room registers)]
      omega
  have origin {id : ArtifactId} {index : Nat} {record : ArtifactRecord}
      (held : (next.control.chain id)[index]? = some record) :
      (∃ old, (engine.control.chain id)[index]? = some old ∧ record.revision = old.revision) ∨
        ((∃ registration now, op = .registerArtifact registration now ∧ registration.id = id) ∧
          index = (engine.control.chain id).length ∧
          next.control.revisionGenerator = engine.control.revisionGenerator.advance ∧
          record.revision = next.control.revisionGenerator.last) := by
    cases before : (engine.control.chain id)[index]? with
    | none =>
        obtain ⟨registration, now, stamped, op_eq, named, position, _, allocated, made⟩ :=
          (step_chains sound moved).2 id index record before held
        refine .inr ⟨⟨registration, now, op_eq, named⟩, position, allocated, ?_⟩
        rw [made, allocated]
        rfl
    | some old =>
        exact .inl ⟨old, rfl, revised_revision (step_revised sound moved before held)⟩
  have fresh {id : ArtifactId} {index : Nat} {old : ArtifactRecord}
      (held : (engine.control.chain id)[index]? = some old) (registers : op.registers = true)
      (allocated : next.control.revisionGenerator = engine.control.revisionGenerator.advance) :
      old.revision ≠ next.control.revisionGenerator.last := by
    intro same
    have placed := (apart.placed id old (List.mem_of_getElem? held)).2.2
    rw [same, allocated, advance_place based apart.salted (room registers)] at placed
    omega
  constructor
  case salted =>
    rcases generator with same | ⟨_, advanced⟩
    · rw [same]
      exact apart.salted
    · rw [advanced]
      exact advance_salted apart.salted
  case placed =>
    intro id record inside
    obtain ⟨index, held⟩ := List.getElem?_of_mem inside
    rcases origin held with ⟨old, before, same⟩ | ⟨_, _, allocated, new⟩
    · obtain ⟨high, low, placed⟩ := apart.placed id old (List.mem_of_getElem? before)
      rw [same]
      exact ⟨high, low, placed.trans forward⟩
    · rw [new, allocated]
      exact ⟨advance_salted apart.salted, advance_counter_ne_zero _, le_refl _⟩
  case apart =>
    intro id other index position record second first_ second_ same
    rcases origin first_ with ⟨old, before, kept⟩ | ⟨⟨registration, now, op_eq, named⟩, place_,
      allocated, new⟩
    · rcases origin second_ with ⟨older, earlier, keptToo⟩ | ⟨⟨_, _, op_eq, _⟩, _, allocated, new⟩
      · exact apart.apart id other index position old older before earlier
          (kept.symm.trans (same.trans keptToo))
      · exact absurd (kept.symm.trans (same.trans new))
          (fresh before (by rw [op_eq]; rfl) allocated)
    · rcases origin second_ with ⟨older, earlier, keptToo⟩ | ⟨⟨_, _, otherOp, otherNamed⟩,
        otherPlace, _, _⟩
      · exact absurd (keptToo.symm.trans (same.symm.trans new))
          (fresh earlier (by rw [op_eq]; rfl) allocated)
      · rw [op_eq] at otherOp
        cases otherOp
        have same : id = other := named.symm.trans otherNamed
        subst same
        exact ⟨rfl, place_.trans otherPlace.symm⟩

/-- In every run with at most as many registrations as there are identities, no two revisions share
an identity. -/
theorem run_revisions_apart {start final : Engine} {trace : List EngineStep}
    (constructed : Constructed start) (run : EngineRun start trace final)
    (few : trace.countP (fun step => step.input.registers) ≤ kSpan * kSpan) :
    final.RevisionsApart start.control.revisionGenerator.salt := by
  have salted : start.control.revisionGenerator.salt ≠ 0 := by
    obtain ⟨config, epoch, salting, naming, rfl⟩ := constructed
    exact seeded_salt _ _
  have kept := run.byHistory (fun past engine =>
    past.countP (fun step => step.input.registers) ≤ kSpan * kSpan →
      engine.Sound ∧ engine.RevisionsApart start.control.revisionGenerator.salt ∧
        place start.control.revisionGenerator.salt engine.control.revisionGenerator.last ≤
          past.countP (fun step => step.input.registers)) ?_ ?_ few
  · exact kept.2.1
  · intro _
    have empty (id : ArtifactId) : start.control.chain id = [] := by
      obtain ⟨config, epoch, salting, naming, rfl⟩ := constructed
      exact create_chain config epoch salting naming id
    refine ⟨constructed.sound, ⟨salted, ?_, ?_⟩, ?_⟩
    · intro id record inside
      simp [empty] at inside
    · intro id other index position record second held
      simp [empty] at held
    · obtain ⟨config, epoch, salting, naming, rfl⟩ := constructed
      unfold place laps last
      simp only [Nat.add_sub_cancel_left, Nat.mod_self, Nat.zero_mul, Nat.zero_add]
      exact Nat.zero_le _
  · intro past before input output after _ earlier moved few
    rw [List.countP_append, List.countP_singleton] at few ⊢
    obtain ⟨sound, apart, placed⟩ := earlier (by omega)
    have room (registers : input.registers = true) :
        place start.control.revisionGenerator.salt before.control.revisionGenerator.last <
          kSpan * kSpan := by
      rw [registers, if_pos rfl] at few
      omega
    refine ⟨sound_step sound moved, step_revisions_apart salted sound apart moved room, ?_⟩
    rcases step_revisionGenerator sound apart moved with same | ⟨registers, advanced⟩
    · rw [same]
      omega
    · rw [advanced, advance_place salted apart.salted (room registers), registers, if_pos rfl]
      omega

theorem grown_registered (sound : engine.Sound) {op : Op} {reply : Reply}
    (moved : engine.step op = some (reply, next)) {id : ArtifactId} {index : Nat}
    {record : ArtifactRecord} (absent : (engine.state.chain id)[index]? = none)
    (held : (next.state.chain id)[index]? = some record) :
    ∃ registration now, op = .registerArtifact registration now ∧
      reply = .registered (.ok record) ∧ registration.id = id ∧
      index = (engine.state.chain id).length := by
  obtain ⟨registration, now, _, rfl, rfl, position, _⟩ :=
    (step_chains sound moved).2 id index record absent held
  have grown (same : next.control.chain registration.id = engine.control.chain registration.id) :
      False := by
    change (next.control.chain registration.id)[index]? = some record at held
    rw [same] at held
    exact nomatch absent.symm.trans held
  have position : index = (engine.state.chain registration.id).length := position
  refine ⟨registration, now, rfl, ?_, rfl, position⟩
  generalize moved_eq : reply = answered at moved
  cases step_effect moved with
  | idle _ same => exact (grown (by rw [same])).elim
  | registrationRefused _ _ changed =>
      have chain := Control.chain_setChain engine.control registration.id registration.id
        (engine.control.chain registration.id)
      rw [if_pos rfl] at chain
      refine (grown ?_).elim
      rw [changed]
      exact chain
  | @registered _ _ added _ _ _ _ _ _ _ _ _ =>
      obtain ⟨_, _, _, _, _, chains⟩ := registered_chain moved
      rw [chains, if_pos rfl, position] at held
      have length := supersededChain_length engine.state.advanceSequence
        engine.control.revisionGenerator.next registration.id (engine.state.chain registration.id)
      rw [List.getElem?_append_right (by rw [length]), length] at held
      rw [Nat.sub_self] at held
      rw [Option.some.inj held]

theorem revised_content {id : ArtifactId} {index : Nat} {op : Op} {reply : Reply}
    {record revised : ArtifactRecord} (change : Revised engine id index op reply record revised) :
    revised.id = record.id ∧ revised.generation = record.generation ∧
      revised.kind = record.kind ∧ revised.digest = record.digest := by
  cases change with
  | overtaken state revision named current fresh =>
      obtain ⟨_, _, same⟩ := supersedeByRegistration_eq state revision record _
      rw [same]
      exact ⟨rfl, rfl, rfl, rfl⟩
  | applied named first accepts =>
      obtain ⟨_, _, _, _, same⟩ := promotedArtifact_eq engine.state.advanceSequence _ record
      rw [same]
      exact ⟨rfl, rfl, rfl, rfl⟩
  | _ => exact ⟨rfl, rfl, rfl, rfl⟩

theorem revised_link {id : ArtifactId} {index : Nat} {op : Op} {reply : Reply}
    {record revised : ArtifactRecord} (change : Revised engine id index op reply record revised)
    (older : ¬engine.Current id index) :
    revised.supersession.active = record.supersession.active ∧
      revised.supersession.successor = record.supersession.successor ∧
      revised.supersession.successorRevision = record.supersession.successorRevision := by
  cases change with
  | kept | restored => exact ⟨rfl, rfl, rfl⟩
  | applied named first accepts =>
      obtain ⟨_, _, _, _, same⟩ := promotedArtifact_eq engine.state.advanceSequence _ record
      rw [same]
      exact ⟨rfl, rfl, rfl⟩
  | overtaken _ _ _ current | quarantined current | released current | revoked _ current
  | superseded _ current | retired current => exact absurd current older

/-- The shape of every chain, apart from the distinctness of its identities. -/
structure Structured (engine : Engine) : Prop where
  nonempty : ∀ (id : ArtifactId) (chain : List ArtifactRecord),
    engine.state.artifacts[id]? = some chain → chain ≠ []
  positions : ∀ (id : ArtifactId) (index : Nat) (record : ArtifactRecord),
    (engine.state.chain id)[index]? = some record →
      record.id = id ∧ record.generation.value.toNat = index + 1
  linked : ∀ (id : ArtifactId) (index : Nat) (record successor : ArtifactRecord),
    (engine.state.chain id)[index]? = some record →
      (engine.state.chain id)[index + 1]? = some successor →
        record.supersession.active = true ∧ record.supersession.successor = id ∧
          record.supersession.successorRevision = successor.revision
  renewed : ∀ (id : ArtifactId) (index : Nat) (record successor : ArtifactRecord),
    (engine.state.chain id)[index]? = some record →
      (engine.state.chain id)[index + 1]? = some successor → successor.digest ≠ record.digest
  classed : ∀ (id other : ArtifactId) (record second : ArtifactRecord),
    record ∈ engine.state.chain id → second ∈ engine.state.chain other →
      record.digest = second.digest → record.kind = second.kind

theorem unconflicted_kind {registration : ArtifactRegistration}
    (classed : classConflict engine.state registration = none) {id : ArtifactId}
    {record : ArtifactRecord} (inside : record ∈ engine.state.chain id)
    (same : record.digest = registration.digest) : record.kind = registration.kind := by
  rw [classConflict, Option.map_eq_none_iff, List.find?_eq_none] at classed
  cases held : engine.state.artifacts[id]? with
  | none =>
      rw [CoordinatorState.chain, Std.ExtTreeMap.getD_eq_getD_getElem?, held] at inside
      simp at inside
  | some chain =>
      rw [CoordinatorState.chain, Std.ExtTreeMap.getD_eq_getD_getElem?, held,
        Option.getD_some] at inside
      have alone := classed (id, chain)
        (Std.ExtTreeMap.mem_toList_iff_getElem?_eq_some.mpr held)
      simp only [List.any_eq_true, Bool.and_eq_true, beq_iff_eq, bne_iff_ne, not_exists,
        not_and, not_not] at alone
      exact alone record inside same

theorem registered_link {registration : ArtifactRegistration} {now : UInt64}
    {added : ArtifactRecord}
    (moved : engine.step (.registerArtifact registration now) =
      some (.registered (.ok added), next)) {index : Nat} {old record : ArtifactRecord}
    (before : (engine.state.chain registration.id)[index]? = some old)
    (current : index + 1 = (engine.state.chain registration.id).length)
    (after : (next.state.chain registration.id)[index]? = some record) :
    record.supersession.active = true ∧ record.supersession.successor = registration.id ∧
      record.supersession.successorRevision = added.revision ∧ record.digest = old.digest := by
  obtain ⟨stamped, _, _, _, made, chains⟩ := registered_chain moved
  have length := supersededChain_length engine.state.advanceSequence
    engine.control.revisionGenerator.next registration.id (engine.state.chain registration.id)
  rw [chains, if_pos rfl, List.getElem?_append_left (by omega),
    supersededChain_positions _ _ _ before, if_pos current, Option.some.injEq] at after
  obtain ⟨_, _, same⟩ := supersedeByRegistration_eq engine.state.advanceSequence
    engine.control.revisionGenerator.next old registration.id
  rw [← after, same, made]
  exact ⟨rfl, rfl, rfl, rfl⟩

theorem step_position (sound : engine.Sound) {op : Op} {reply : Reply}
    (moved : engine.step op = some (reply, next)) {id : ArtifactId} {index : Nat}
    {record : ArtifactRecord} (held : (next.state.chain id)[index]? = some record) :
    (∃ old, (engine.state.chain id)[index]? = some old ∧
        Revised engine id index op reply old record) ∨
      ∃ registration now, op = .registerArtifact registration now ∧
        reply = .registered (.ok record) ∧ registration.id = id ∧
        index = (engine.state.chain id).length := by
  cases before : (engine.state.chain id)[index]? with
  | none => exact .inr (grown_registered sound moved before held)
  | some old => exact .inl ⟨old, rfl, step_revised sound moved before held⟩

theorem enrolled_generation {registration : ArtifactRegistration} {now : UInt64}
    {added : ArtifactRecord}
    (moved : engine.step (.registerArtifact registration now) =
      some (.registered (.ok added), next)) :
    added.generation.value.toNat = (engine.state.chain registration.id).length + 1 := by
  have bounded := (registered_enrolls moved).bounded
  obtain ⟨stamped, _, length, _, made, _⟩ := registered_chain moved
  have limit := engine.config.maxArtifactRevisionsPerId.toNat_lt
  rw [made]
  change ((stamped.chain registration.id).length.toUInt64 + 1).toNat = _
  rw [length, UInt64.toNat_add, Nat.toUInt64, UInt64.toNat_ofNat']
  simp only [UInt64.reduceToNat]
  omega

theorem step_structured (sound : engine.Sound) (structured : engine.Structured) {op : Op}
    {reply : Reply} (moved : engine.step op = some (reply, next)) : next.Structured := by
  have nextSound := sound_step sound moved
  constructor
  case nonempty =>
    intro id chain present
    exact (nextSound.coherent.chains id chain present).1
  case positions =>
    intro id index record held
    refine ⟨nextSound.coherent.chain_named id record (List.mem_of_getElem? held), ?_⟩
    rcases step_position sound moved held with ⟨old, before, change⟩ |
      ⟨registration, now, rfl, rfl, rfl, rfl⟩
    · rw [(revised_content change).2.1]
      exact (structured.positions id index old before).2
    · exact enrolled_generation moved
  case linked =>
    intro id index record successor held after
    rcases step_position sound moved after with ⟨oldSuccessor, before, change⟩ |
      ⟨registration, now, rfl, rfl, rfl, position⟩
    · have inside := (List.getElem?_eq_some_iff.mp before).1
      rcases step_position sound moved held with ⟨old, earlier, changed⟩ |
        ⟨_, _, _, _, _, position⟩
      · have older : ¬engine.Current id index := by
          intro current
          have length : index + 1 = (engine.state.chain id).length := current
          omega
        obtain ⟨active, successor_eq, revision⟩ := revised_link changed older
        obtain ⟨wasActive, wasSuccessor, wasRevision⟩ :=
          structured.linked id index old oldSuccessor earlier before
        rw [active, successor_eq, revision, revised_revision change]
        exact ⟨wasActive, wasSuccessor, wasRevision⟩
      · omega
    · rcases step_position sound moved held with ⟨old, earlier, _⟩ | ⟨_, _, _, _, _, place_⟩
      · obtain ⟨active, named, revision, _⟩ := registered_link moved earlier position held
        exact ⟨active, named, revision⟩
      · omega
  case renewed =>
    intro id index record successor held after
    rcases step_position sound moved after with ⟨oldSuccessor, before, change⟩ |
      ⟨registration, now, rfl, rfl, rfl, position⟩
    · have inside := (List.getElem?_eq_some_iff.mp before).1
      rcases step_position sound moved held with ⟨old, earlier, changed⟩ |
        ⟨_, _, _, _, _, position⟩
      · rw [(revised_content change).2.2.2, (revised_content changed).2.2.2]
        exact structured.renewed id index old oldSuccessor earlier before
      · omega
    · rcases step_position sound moved held with ⟨old, earlier, _⟩ | ⟨_, _, _, _, _, place_⟩
      · obtain ⟨_, _, _, same⟩ := registered_link moved earlier position held
        obtain ⟨stamped, _, _, _, made, _⟩ := registered_chain moved
        have last : (engine.state.chain registration.id).getLast? = some old := by
          rw [List.getLast?_eq_getElem?, ← position]
          exact earlier
        have different := (registered_enrolls moved).renewed old last
        rw [same, made]
        exact different.symm
      · omega
  case classed =>
    intro id other record second inside otherInside same
    obtain ⟨index, held⟩ := List.getElem?_of_mem inside
    obtain ⟨position, otherHeld⟩ := List.getElem?_of_mem otherInside
    rcases step_position sound moved held with ⟨old, before, change⟩ |
      ⟨registration, now, rfl, rfl, rfl, _⟩
    · obtain ⟨_, _, kind, digest⟩ := revised_content change
      rw [digest] at same
      rw [kind]
      rcases step_position sound moved otherHeld with ⟨older, earlier, changed⟩ |
        ⟨registration, now, rfl, rfl, rfl, _⟩
      · obtain ⟨_, _, otherKind, otherDigest⟩ := revised_content changed
        rw [otherDigest] at same
        rw [otherKind]
        exact structured.classed id other old older (List.mem_of_getElem? before)
          (List.mem_of_getElem? earlier) same
      · obtain ⟨stamped, _, _, _, made, _⟩ := registered_chain moved
        rw [made] at same ⊢
        exact unconflicted_kind (registered_enrolls moved).classed
          (List.mem_of_getElem? before) same
    · obtain ⟨stamped, _, _, _, made, _⟩ := registered_chain moved
      rcases step_position sound moved otherHeld with ⟨older, earlier, changed⟩ |
        ⟨_, _, _, again, _⟩
      · obtain ⟨_, _, otherKind, otherDigest⟩ := revised_content changed
        rw [otherDigest, made] at same
        rw [otherKind, made]
        exact (unconflicted_kind (registered_enrolls moved).classed
          (List.mem_of_getElem? earlier) same.symm).symm
      · cases again
        rfl

theorem create_structured (config : EngineConfig) (epoch : CoordinatorEpoch)
    (salting naming : UInt64) : (create config epoch salting naming).Structured := by
  have empty := create_chain config epoch salting naming
  constructor
  case nonempty =>
    intro id chain present
    exact (no_entry rfl present).elim
  case classed =>
    intro id other record second inside
    rw [empty] at inside
    simp at inside
  all_goals
    intro id index record
    rw [empty]
    simp

theorem reachable_structured (reachable : Reachable engine) : engine.Structured := by
  obtain ⟨start, trace, ⟨config, epoch, salting, naming, rfl⟩, run⟩ := reachable
  have kept := run.invariant (fun engine => engine.Sound ∧ engine.Structured)
    (fun _ _ _ _ held moved => ⟨sound_step held.1 moved, step_structured held.1 held.2 moved⟩)
    ⟨create_sound config epoch salting naming, create_structured config epoch salting naming⟩
  exact kept.2

theorem RevisionsApart.nodup {base : UInt64} (apart : engine.RevisionsApart base)
    (id : ArtifactId) : ((engine.state.chain id).map ArtifactRecord.revision).Nodup := by
  rw [List.nodup_iff_getElem?_ne_getElem?]
  intro index position before inside same
  rw [List.length_map] at inside
  have first : (engine.state.chain id)[index]? = some (engine.state.chain id)[index] :=
    List.getElem?_eq_getElem (by omega)
  have second : (engine.state.chain id)[position]? = some (engine.state.chain id)[position] :=
    List.getElem?_eq_getElem inside
  rw [List.getElem?_map, List.getElem?_map, first, second, Option.map_some, Option.map_some,
    Option.some.injEq] at same
  have equal := apart.apart id id index position _ _ first second same
  omega

/-- In every run with at most as many registrations as there are revision identities, every chain
has its shape and the identities of its revisions are distinct. -/
theorem run_chains_structured {start final : Engine} {trace : List EngineStep}
    (constructed : Constructed start) (run : EngineRun start trace final)
    (few : trace.countP (fun step => step.input.registers) ≤ kSpan * kSpan) :
    final.Structured ∧ ∀ id, ((final.state.chain id).map ArtifactRecord.revision).Nodup := by
  have apart := run_revisions_apart constructed run few
  exact ⟨reachable_structured ⟨start, trace, constructed, run⟩, apart.nodup⟩

def registerTwiceChoices : List (Engine → Op) :=
  [fun _ => .registerArtifact (sampleRegistration 1) 0,
    fun _ => .registerArtifact (sampleRegistration 2) 0]

theorem run_chains_structured_twice :
    ∃ (trace : List EngineStep) (final : Engine), EngineRun sampleEngine trace final ∧
      (final.state.chain ⟨0, 5⟩).length = 2 ∧ final.Structured ∧
      ∀ id, ((final.state.chain id).map ArtifactRecord.revision).Nodup := by
  have evaluated : ((play step sampleEngine registerTwiceChoices).any fun played =>
      played.1.length == 2 && (played.2.state.chain ⟨0, 5⟩).length == 2) = true := by
    decide +kernel
  obtain ⟨trace, final, run, checked⟩ := run_of_checked evaluated
  simp only [Bool.and_eq_true, beq_iff_eq] at checked
  refine ⟨trace, final, run, checked.2, run_chains_structured sampleEngine_constructed run ?_⟩
  calc
    trace.countP (fun step => step.input.registers) ≤ trace.length := List.countP_le_length
    _ = 2 := checked.1
    _ ≤ kSpan * kSpan := by decide

def atGenerator (engine : Engine) (generator : IdentityGenerator .artifactRevision) : Engine :=
  { engine with state := { engine.state with revisionGenerator := generator } }

/-- Registering the current digest again is refused, and takes an identity all the same. -/
theorem repeated_registration {registration : ArtifactRegistration} {chain : List ArtifactRecord}
    (validated : registration.validate = .ok ()) (admitted : engine.admissionOpen = true)
    (held : engine.state.artifacts[registration.id]? = some chain)
    (classed : classConflict engine.state registration = none)
    (bounded : chain.length < engine.config.maxArtifactRevisionsPerId.toNat)
    (repeated : (chain.getLast?.any fun last => last.digest == registration.digest) = true)
    (fits : engine.representable = true) (now : UInt64)
    (generator : IdentityGenerator .artifactRevision) :
    ∃ reply, (engine.atGenerator generator).step (.registerArtifact registration now) =
      some (reply, engine.atGenerator generator.advance) := by
  have known : engine.state.artifacts.contains registration.id = true :=
    OrderedMaps.contains_iff.mpr ⟨chain, held⟩
  have chain_eq : engine.state.chain registration.id = chain := by
    rw [CoordinatorState.chain, Std.ExtTreeMap.getD_eq_getD_getElem?, held, Option.getD_some]
  have chainAt : (engine.atGenerator generator).state.chain registration.id = chain := chain_eq
  have classedAt : classConflict (engine.atGenerator generator).state registration = none := classed
  have small : ¬((engine.atGenerator generator).state.chain registration.id).length ≥
      (engine.atGenerator generator).config.maxArtifactRevisionsPerId.toNat := by
    rw [chainAt]
    exact Nat.not_le.mpr bounded
  have stepped : ∃ status, (engine.atGenerator generator).registerArtifact registration now =
      (.error status, engine.atGenerator generator.advance) := by
    unfold registerArtifact
    rw [validated]
    dsimp only
    rw [if_neg (by simp [atGenerator, admitted]), if_neg (by simp [atGenerator, known]), classedAt]
    dsimp only
    rw [if_neg small, if_pos (by rw [chainAt]; exact repeated)]
    refine ⟨_, Prod.ext rfl ?_⟩
    have unchanged : (engine.atGenerator generator).state.artifacts.insert registration.id
        ((engine.atGenerator generator).state.chain registration.id) = engine.state.artifacts := by
      rw [chainAt]
      exact OrderedMaps.insert_same held
    unfold refuse
    dsimp only
    rw [unchanged]
    rfl
  obtain ⟨status, answered⟩ := stepped
  refine ⟨.registered (.error status), ?_⟩
  rw [step, perform, answered]
  exact Option.filter_some_pos fits

theorem repeated_run {registration : ArtifactRegistration} {now : UInt64}
    (refused : ∀ generator, ∃ reply, (engine.atGenerator generator).step
      (.registerArtifact registration now) = some (reply, engine.atGenerator generator.advance))
    (count : Nat) (generator : IdentityGenerator .artifactRevision) :
    ∃ trace, EngineRun (engine.atGenerator generator) trace
      (engine.atGenerator (advance^[count] generator)) := by
  induction count generalizing generator with
  | zero => exact ⟨[], .nil _⟩
  | succ count ih =>
      obtain ⟨reply, moved⟩ := refused generator
      obtain ⟨rest, run⟩ := ih generator.advance
      exact ⟨_, .cons moved run⟩

/-- The sample artifact has two revisions, its generator stands right behind the first identity of
its salt, and a registration one cycle later repeats the identity of the second revision. -/
def repeatsIdentity (engine : Engine) : Bool :=
  let first : IdentityGenerator .artifactRevision := ⟨engine.state.revisionGenerator.salt, 1⟩
  engine.admissionOpen && engine.representable &&
    first.salt != 0 && engine.state.revisionGenerator == first.advance &&
    (classConflict engine.state (sampleRegistration 2)).isNone &&
    (engine.state.artifacts[(⟨0, 5⟩ : ArtifactId)]?.any fun chain =>
      chain.length < engine.config.maxArtifactRevisionsPerId.toNat &&
      chain.getLast?.any fun last => last.digest == (sampleRegistration 2).digest) &&
    (((engine.atGenerator first).step (.registerArtifact (sampleRegistration 3) 0)).any fun moved =>
      ((moved.2.state.chain ⟨0, 5⟩)[1]?.map ArtifactRecord.revision) ==
        ((moved.2.state.chain ⟨0, 5⟩)[2]?.map ArtifactRecord.revision) &&
      (moved.2.state.chain ⟨0, 5⟩).length == 3)

/-- After enough refused registrations the generator starts over. -/
theorem revision_identity_repeated :
    ∃ engine, Reachable engine ∧
      ¬∀ id, ((engine.state.chain id).map ArtifactRecord.revision).Nodup := by
  have evaluated : ((play step sampleEngine registerTwiceChoices).any fun played =>
      repeatsIdentity played.2) = true := by
    decide +kernel
  obtain ⟨engine, reachable, checked⟩ :=
    Reachable.of_play repeatsIdentity sampleEngine_constructed evaluated
  simp only [repeatsIdentity, Bool.and_eq_true, bne_iff_ne, beq_iff_eq, Option.isNone_iff_eq_none,
    Option.any_eq_true, decide_eq_true_eq] at checked
  obtain ⟨⟨⟨⟨⟨⟨admitted, fits⟩, salted⟩, stands⟩, classed⟩, chain, held, bounded, last⟩, ⟨reply, next⟩,
    moved, same, three⟩ := checked
  have validated : (sampleRegistration 2).validate = .ok () := by decide
  have repeated : (chain.getLast?.any fun last => last.digest == (sampleRegistration 2).digest) =
      true := by simpa [Option.any_eq_true] using last
  have refused := repeated_registration validated admitted held classed bounded repeated fits 0
  generalize first_eq : (⟨engine.state.revisionGenerator.salt, 1⟩ :
    IdentityGenerator .artifactRevision) = first at stands moved
  have firstSalted : first.salt ≠ 0 := by
    rw [← first_eq]
    exact salted
  have firstCounted : first.counter = 1 := by rw [← first_eq]
  obtain ⟨count, returns⟩ := advance_returns firstSalted firstCounted
  obtain ⟨trace, run⟩ := repeated_run refused count engine.state.revisionGenerator
  rw [stands, returns] at run
  have standing : engine.atGenerator first.advance = engine := by
    rw [← stands]
    rfl
  rw [standing] at run
  obtain ⟨start, past, constructed, reached⟩ := reachable
  refine ⟨next, ⟨start, _, constructed, (reached.append run).append (.cons moved (.nil _))⟩, ?_⟩
  intro distinct
  have apart := distinct ⟨0, 5⟩
  rw [List.nodup_iff_getElem?_ne_getElem?] at apart
  refine apart 1 2 (by decide) (by rw [List.length_map, three]; decide) ?_
  rw [List.getElem?_map, List.getElem?_map]
  exact same

end Engine

end ArtifactPromotion
