import ArtifactPromotion.Engine.Histories
import ArtifactPromotion.Persist.RoundTrip

/-! Coherence of the control state: what is stored lies under its own key, was allocated by the
generator that still counts it, and every reservation agrees with the plan it names. -/

namespace ArtifactPromotion

open Runs

namespace IdentityGenerator

variable {tag : IdentityTag} {generator : IdentityGenerator tag} {id : Identity tag}

def Issued (generator : IdentityGenerator tag) (id : Identity tag) : Prop :=
  id.high = generator.salt ∧ 0 < id.low.toNat ∧ id.low.toNat ≤ generator.counter.toNat

theorem advance_eq (room : generator.counter.toNat < 2 ^ 64 - 1) :
    generator.advance = ⟨generator.salt, generator.counter + 1⟩ := by
  unfold advance
  rw [if_neg]
  intro zero
  have value := congrArg UInt64.toNat zero
  rw [UInt64.toNat_add] at value
  simp only [UInt64.reduceToNat] at value
  omega

theorem advance_counter (room : generator.counter.toNat < 2 ^ 64 - 1) :
    generator.advance.counter.toNat = generator.counter.toNat + 1 := by
  rw [advance_eq room, UInt64.toNat_add]
  simp only [UInt64.reduceToNat]
  omega

theorem advance_salt (room : generator.counter.toNat < 2 ^ 64 - 1) :
    generator.advance.salt = generator.salt := by
  rw [advance_eq room]

theorem Issued.advance (issued : generator.Issued id) (room : generator.counter.toNat < 2 ^ 64 - 1) :
    generator.advance.Issued id := by
  obtain ⟨high, positive, low⟩ := issued
  refine ⟨?_, positive, ?_⟩
  · rw [high, advance_salt room]
  · rw [advance_counter room]
    omega

theorem issued_next (room : generator.counter.toNat < 2 ^ 64 - 1) :
    generator.advance.Issued generator.next := by
  refine ⟨rfl, ?_, le_refl _⟩
  change 0 < generator.advance.counter.toNat
  rw [advance_counter room]
  omega

theorem next_not_issued (room : generator.counter.toNat < 2 ^ 64 - 1) :
    ¬generator.Issued generator.next := by
  rintro ⟨_, _, low⟩
  have value : generator.next.low.toNat = generator.counter.toNat + 1 := advance_counter room
  omega

theorem Issued.ne_next (issued : generator.Issued id)
    (room : generator.counter.toNat < 2 ^ 64 - 1) : id ≠ generator.next := by
  rintro rfl
  exact next_not_issued room issued

theorem observeExisting_issued (issued : generator.Issued id) :
    generator.observeExisting id = generator := by
  obtain ⟨high, _, low⟩ := issued
  unfold observeExisting
  rw [if_neg (not_not.mpr high), if_neg]
  intro above
  have above := UInt64.lt_iff_toNat_lt.mp above
  omega

theorem observeAll_issued {ids : List (Identity tag)} (issued : ∀ id ∈ ids, generator.Issued id) :
    StatePersistence.observeAll generator ids = generator := by
  unfold StatePersistence.observeAll
  induction ids with
  | nil => rfl
  | cons id rest ih =>
      rw [List.forall_mem_cons] at issued
      rw [List.foldl_cons, observeExisting_issued issued.1]
      exact ih issued.2

theorem resumed_eq (salted : generator.salt ≠ 0) :
    StatePersistence.resumed generator = generator := by
  unfold StatePersistence.resumed resumeAfter
  rw [if_neg salted]

end IdentityGenerator

/-- A plan and the reservation made for it, under the authority that made them. -/
structure Reserves (authority : CoordinatorAuthority) (compatibility : CompatibilityGeneration)
    (plan : PromotionPlan) (reservation : PendingTransition) : Prop where
  artifact : plan.artifact = reservation.artifact
  revision : plan.artifactRevision = reservation.artifactRevision
  request : plan.request = reservation.request
  authority : plan.authority = authority
  compatibility : plan.compatibilityGeneration = compatibility

/-- The invariant of the control state. -/
structure Coherent (control : Control) : Prop where
  policyId : control.activePolicy = control.policy.id
  policyGeneration : control.policyGeneration = control.policy.generation
  policyDigest : control.policyDigest = control.policy.policyDigest
  chains : ∀ (id : ArtifactId) (chain : List ArtifactRecord), control.artifacts[id]? = some chain →
    chain ≠ [] ∧ ∀ record ∈ chain, record.id = id
  evidence : ∀ (id : EvidenceId) (record : EvidenceRecord), control.evidence[id]? = some record →
    record.id = id ∧ control.evidenceGenerator.Issued id
  evidenceCounted : control.evidence.size = control.evidenceGenerator.counter.toNat
  plans : ∀ (id : PromotionPlanId) (plan : PromotionPlan), control.plans[id]? = some plan →
    plan.id = id ∧ control.planGenerator.Issued id ∧ plan.hasExpiry = true ∧
      control.decisions.contains plan.decision = true
  plansCounted : control.planGenerator.counter.toNat ≤ control.decisionGenerator.counter.toNat
  decisions : ∀ (id : PromotionDecisionId) (decision : PromotionDecision),
    control.decisions[id]? = some decision →
      decision.id = id ∧ control.decisionGenerator.Issued id
  decisionsCounted : control.decisions.size = control.decisionGenerator.counter.toNat
  records : ∀ (id : TransitionId) (record : PromotionRecord), control.records[id]? = some record →
    record.transition = id
  idempotency : ∀ (id : PromotionRequestId) (record : IdempotencyRecord),
    control.idempotency[id]? = some record →
      record.request = id ∧ control.decisions.contains record.decision = true
  reservations : ∀ (id : ArtifactId) (reservation : PendingTransition),
    control.pending[id]? = some reservation →
      reservation.artifact = id ∧ control.planGenerator.Issued reservation.plan ∧
        control.idempotency.contains reservation.request = true ∧
        ∀ plan, control.plans[reservation.plan]? = some plan →
          Reserves control.authority control.compatibility plan reservation
  salted : control.evidenceGenerator.salt ≠ 0 ∧ control.planGenerator.salt ≠ 0 ∧
    control.decisionGenerator.salt ≠ 0

def Control.Roomy (control : Control) : Prop :=
  control.evidence.size ≤ Engine.kMaxNodes ∧ control.decisions.size ≤ Engine.kMaxNodes

namespace Coherent

variable {control : Control}

theorem decisionRoom (coherent : Coherent control) (roomy : control.Roomy) :
    control.decisionGenerator.counter.toNat < 2 ^ 64 - 1 := by
  have counted := coherent.decisionsCounted
  have bounded := roomy.2
  unfold Engine.kMaxNodes at bounded
  omega

theorem planRoom (coherent : Coherent control) (roomy : control.Roomy) :
    control.planGenerator.counter.toNat < 2 ^ 64 - 1 :=
  lt_of_le_of_lt coherent.plansCounted (coherent.decisionRoom roomy)

theorem evidenceRoom (coherent : Coherent control) (roomy : control.Roomy) :
    control.evidenceGenerator.counter.toNat < 2 ^ 64 - 1 := by
  have counted := coherent.evidenceCounted
  have bounded := roomy.1
  unfold Engine.kMaxNodes at bounded
  omega

theorem decision_fresh (coherent : Coherent control) (roomy : control.Roomy) :
    control.decisions[control.decisionGenerator.next]? = none := by
  cases found : control.decisions[control.decisionGenerator.next]? with
  | none => rfl
  | some decision =>
      have issued := (coherent.decisions _ _ found).2
      exact absurd issued (IdentityGenerator.next_not_issued (coherent.decisionRoom roomy))

theorem evidence_fresh (coherent : Coherent control) (roomy : control.Roomy) :
    control.evidence[control.evidenceGenerator.next]? = none := by
  cases found : control.evidence[control.evidenceGenerator.next]? with
  | none => rfl
  | some record =>
      have issued := (coherent.evidence _ _ found).2
      exact absurd issued (IdentityGenerator.next_not_issued (coherent.evidenceRoom roomy))

theorem openDecision (coherent : Coherent control) (roomy : control.Roomy)
    {decision : PromotionDecision} (named : decision.id = control.decisionGenerator.next) :
    Coherent (control.openDecision decision) := by
  have room := coherent.decisionRoom roomy
  have absent : control.decisions[decision.id]? = none := by
    rw [named]
    exact coherent.decision_fresh roomy
  have counter : (control.openDecision decision).decisionGenerator.counter.toNat =
      control.decisionGenerator.counter.toNat + 1 := IdentityGenerator.advance_counter room
  have kept (id : PromotionDecisionId) (held : control.decisions.contains id = true) :
      (control.openDecision decision).decisions.contains id = true :=
    OrderedMaps.contains_insert_of_held decision held
  refine { coherent with
    plans := ?_, plansCounted := ?_, decisions := ?_, decisionsCounted := ?_, idempotency := ?_,
    salted := ?_ }
  · intro id plan present
    obtain ⟨same, issued, expires, held⟩ := coherent.plans id plan present
    exact ⟨same, issued, expires, kept _ held⟩
  · rw [counter]
    exact le_trans coherent.plansCounted (Nat.le_succ _)
  · intro id found present
    rcases OrderedMaps.insert_cases present with ⟨rfl, rfl⟩ | ⟨_, old⟩
    · refine ⟨rfl, ?_⟩
      rw [named]
      exact IdentityGenerator.issued_next room
    · obtain ⟨same, issued⟩ := coherent.decisions id found old
      exact ⟨same, issued.advance room⟩
  · rw [counter, ← coherent.decisionsCounted]
    exact OrderedMaps.size_insert_new decision absent
  · intro id record present
    obtain ⟨same, held⟩ := coherent.idempotency id record present
    exact ⟨same, kept _ held⟩
  · obtain ⟨evidence, plans, decisions⟩ := coherent.salted
    exact ⟨evidence, plans, by rwa [← IdentityGenerator.advance_salt room] at decisions⟩

theorem setDecision (coherent : Coherent control) {id : PromotionDecisionId}
    {decision : PromotionDecision} (held : control.decisions.contains id = true)
    (named : decision.id = id) : Coherent (control.setDecision id decision) := by
  have kept (other : PromotionDecisionId) (held : control.decisions.contains other = true) :
      (control.setDecision id decision).decisions.contains other = true :=
    OrderedMaps.contains_insert_of_held decision held
  refine { coherent with
    plans := ?_, decisions := ?_, decisionsCounted := ?_, idempotency := ?_ }
  · intro id plan present
    obtain ⟨same, issued, expires, held⟩ := coherent.plans id plan present
    exact ⟨same, issued, expires, kept _ held⟩
  · intro other found present
    rcases OrderedMaps.insert_cases present with ⟨rfl, rfl⟩ | ⟨_, old⟩
    · obtain ⟨stored, present⟩ := OrderedMaps.contains_iff.mp held
      exact ⟨named, (coherent.decisions _ stored present).2⟩
    · exact coherent.decisions other found old
  · exact (OrderedMaps.size_insert_held decision held).trans coherent.decisionsCounted
  · intro id record present
    obtain ⟨same, held⟩ := coherent.idempotency id record present
    exact ⟨same, kept _ held⟩

theorem dropPending (coherent : Coherent control)
    {pending : OrderedMap ArtifactId PendingTransition}
    (fewer : ∀ (id : ArtifactId) (reservation : PendingTransition),
      pending[id]? = some reservation → control.pending[id]? = some reservation) :
    Coherent { control with pending } :=
  { coherent with
    reservations := fun id reservation held =>
      coherent.reservations id reservation (fewer id reservation held) }

theorem releasePending (coherent : Coherent control) (id : ArtifactId) :
    Coherent (control.releasePending id) :=
  coherent.dropPending fun _ _ held => (OrderedMaps.erase_cases held).2

theorem reauthorize (coherent : Coherent control) (authority : CoordinatorAuthority)
    (compatibility : CompatibilityGeneration) :
    Coherent { control with authority, compatibility, pending := ∅ } :=
  { coherent with reservations := fun id reservation held => by simp at held }

theorem setPolicy (coherent : Coherent control) (policy : PromotionPolicy) :
    Coherent (control.setPolicy policy) :=
  { coherent with policyId := rfl, policyGeneration := rfl, policyDigest := rfl }

theorem setChain (coherent : Coherent control) {id : ArtifactId} {chain : List ArtifactRecord}
    (nonempty : chain ≠ []) (named : ∀ record ∈ chain, record.id = id) :
    Coherent (control.setChain id chain) := by
  refine { coherent with chains := ?_ }
  intro other found present
  rcases OrderedMaps.insert_cases present with ⟨rfl, rfl⟩ | ⟨_, old⟩
  · exact ⟨nonempty, named⟩
  · exact coherent.chains other found old

theorem chain_named (coherent : Coherent control) (id : ArtifactId) :
    ∀ record ∈ control.chain id, record.id = id := by
  intro record inside
  rw [Control.chain, Std.ExtTreeMap.getD_eq_getD_getElem?] at inside
  cases found : control.artifacts[id]? with
  | none => simp [found] at inside
  | some chain =>
      rw [found] at inside
      exact (coherent.chains id chain found).2 record inside

theorem replaceCurrent (coherent : Coherent control) {id : ArtifactId} {record : ArtifactRecord}
    (named : record.id = id) : Coherent (control.replaceCurrent id record) := by
  refine coherent.setChain (by simp) ?_
  intro other inside
  rcases List.mem_append.mp inside with old | new
  · exact coherent.chain_named id other (List.dropLast_subset _ old)
  · rw [List.mem_singleton.mp new, named]

theorem addRecord (coherent : Coherent control) (bound : UInt64) (record : PromotionRecord) :
    Coherent (control.addRecord bound record) := by
  refine { coherent with records := ?_ }
  intro id found present
  rcases putBounded_entry present with ⟨rfl, rfl⟩ | ⟨_, old⟩
  · rfl
  · exact coherent.records id found old

theorem reviseEvidence (coherent : Coherent control) {id : EvidenceId} {record : EvidenceRecord}
    (held : control.evidence.contains id = true) (named : record.id = id) :
    Coherent { control with evidence := control.evidence.insert id record } := by
  refine { coherent with evidence := ?_, evidenceCounted := ?_ }
  · intro other found present
    rcases OrderedMaps.insert_cases present with ⟨rfl, rfl⟩ | ⟨_, old⟩
    · obtain ⟨stored, present⟩ := OrderedMaps.contains_iff.mp held
      exact ⟨named, (coherent.evidence _ stored present).2⟩
    · exact coherent.evidence other found old
  · exact (OrderedMaps.size_insert_held record held).trans coherent.evidenceCounted

theorem addEvidence (coherent : Coherent control) (roomy : control.Roomy)
    {record : EvidenceRecord} (named : record.id = control.evidenceGenerator.next) :
    Coherent { control with
      evidence := control.evidence.insert record.id record
      evidenceGenerator := control.evidenceGenerator.advance } := by
  have room := coherent.evidenceRoom roomy
  have counter := IdentityGenerator.advance_counter room
  have absent : control.evidence[record.id]? = none := by
    rw [named]
    exact coherent.evidence_fresh roomy
  refine { coherent with evidence := ?_, evidenceCounted := ?_, salted := ?_ }
  · intro id found present
    rcases OrderedMaps.insert_cases present with ⟨rfl, rfl⟩ | ⟨_, old⟩
    · refine ⟨rfl, ?_⟩
      rw [named]
      exact IdentityGenerator.issued_next room
    · obtain ⟨same, issued⟩ := coherent.evidence id found old
      exact ⟨same, issued.advance room⟩
  · rw [counter, ← coherent.evidenceCounted]
    exact OrderedMaps.size_insert_new record absent
  · obtain ⟨evidence, others⟩ := coherent.salted
    exact ⟨by rwa [← IdentityGenerator.advance_salt room] at evidence, others⟩

theorem setIdempotency (coherent : Coherent control) {id : PromotionRequestId}
    {record : IdempotencyRecord} (named : record.request = id)
    (held : control.decisions.contains record.decision = true) :
    Coherent { control with idempotency := control.idempotency.insert id record } := by
  refine { coherent with idempotency := ?_, reservations := ?_ }
  · intro other found present
    rcases OrderedMaps.insert_cases present with ⟨rfl, rfl⟩ | ⟨_, old⟩
    · exact ⟨named, held⟩
    · exact coherent.idempotency other found old
  · intro artifact reservation present
    obtain ⟨same, issued, requested, reserves⟩ := coherent.reservations artifact reservation present
    exact ⟨same, issued, OrderedMaps.contains_insert_of_held record requested, reserves⟩

theorem evicts_entry {κ ν : Type} [Ord κ] [Std.TransOrd κ] [Std.LawfulEqOrd κ]
    {map kept : OrderedMap κ ν} (evicted : Evicts map kept) {key : κ} {value : ν}
    (present : kept[key]? = some value) : map[key]? = some value := by
  rcases evicted with rfl | rfl
  · exact present
  · exact eraseFirst_entry present

theorem evictPlans (coherent : Coherent control) (roomy : control.Roomy)
    {kept : OrderedMap PromotionPlanId PromotionPlan}
    {generator : IdentityGenerator .promotionPlanId} (evicted : Evicts control.plans kept)
    (allocated : generator = control.planGenerator ∨ generator = control.planGenerator.advance)
    (counted : control.planGenerator.counter.toNat < control.decisionGenerator.counter.toNat) :
    Coherent { control with plans := kept, planGenerator := generator } := by
  have room := coherent.planRoom roomy
  have issued (id : PromotionPlanId) (before : control.planGenerator.Issued id) :
      generator.Issued id := by
    rcases allocated with rfl | rfl
    · exact before
    · exact before.advance room
  refine { coherent with plans := ?_, plansCounted := ?_, reservations := ?_, salted := ?_ }
  · intro id plan present
    obtain ⟨same, before, rest⟩ := coherent.plans id plan (evicts_entry evicted present)
    exact ⟨same, issued id before, rest⟩
  · rcases allocated with rfl | rfl
    · exact coherent.plansCounted
    · change control.planGenerator.advance.counter.toNat ≤ _
      rw [IdentityGenerator.advance_counter room]
      exact counted
  · intro id reservation held
    obtain ⟨same, before, requested, reserves⟩ := coherent.reservations id reservation held
    exact ⟨same, issued _ before, requested, fun plan stored =>
      reserves plan (evicts_entry evicted stored)⟩
  · obtain ⟨evidence, plans, decisions⟩ := coherent.salted
    refine ⟨evidence, ?_, decisions⟩
    rcases allocated with rfl | rfl
    · exact plans
    · rwa [← IdentityGenerator.advance_salt room] at plans

theorem reserve (coherent : Coherent control) (plan : PromotionPlan)
    (reservation : PendingTransition) (issued : control.planGenerator.Issued plan.id)
    (unused : ∀ (id : ArtifactId) (held : PendingTransition),
      control.pending[id]? = some held → held.plan ≠ plan.id)
    (expires : plan.hasExpiry = true) (held : control.decisions.contains plan.decision = true)
    (requested : control.idempotency.contains reservation.request = true)
    (named : reservation.plan = plan.id)
    (reserves : Reserves control.authority control.compatibility plan reservation) :
    Coherent { control with
      plans := control.plans.insert plan.id plan
      pending := control.pending.insert plan.artifact reservation } := by
  refine { coherent with plans := ?_, reservations := ?_ }
  · intro id found present
    rcases OrderedMaps.insert_cases present with ⟨rfl, rfl⟩ | ⟨_, old⟩
    · exact ⟨rfl, issued, expires, held⟩
    · exact coherent.plans id found old
  · intro id found present
    rcases OrderedMaps.insert_cases present with ⟨rfl, rfl⟩ | ⟨_, old⟩
    · refine ⟨reserves.artifact.symm, by rwa [named], requested, ?_⟩
      intro other stored
      have stored : (control.plans.insert plan.id plan)[found.plan]? = some other := stored
      rw [named, Std.ExtTreeMap.getElem?_insert_self, Option.some.injEq] at stored
      rwa [← stored]
    · obtain ⟨same, before, requested, earlier⟩ := coherent.reservations id found old
      refine ⟨same, before, requested, fun other stored => ?_⟩
      rcases OrderedMaps.insert_cases stored with ⟨same, _⟩ | ⟨_, stored⟩
      · exact absurd same (unused id found old)
      · exact earlier other stored

/-- What a save and a reload leave of the control state. Only texts are cut, and the generators
whose identities are all accounted for stay where they are. -/
structure Reloaded (before after : Control) : Prop where
  compatibility : after.compatibility = before.compatibility
  policy : after.policy = before.policy.restored
  activePolicy : after.activePolicy = before.policy.id
  policyGeneration : after.policyGeneration = before.policy.generation
  policyDigest : after.policyDigest = before.policy.policyDigest
  artifacts : after.artifacts =
    before.artifacts.map fun _ chain => chain.map ArtifactRecord.restored
  evidence : after.evidence = before.evidence.map fun _ => EvidenceRecord.restored
  plans : after.plans = before.plans.map fun _ => PromotionPlan.restored
  pending : after.pending = ∅
  idempotency : after.idempotency = before.idempotency
  decisions : after.decisions = before.decisions.map fun _ => PromotionDecision.restored
  records : after.records = before.records.map fun _ => PromotionRecord.restored
  evidenceGenerator : after.evidenceGenerator = before.evidenceGenerator
  planGenerator : after.planGenerator = before.planGenerator
  decisionGenerator : after.decisionGenerator = before.decisionGenerator

theorem reload {after : Control} (coherent : Coherent control)
    (reloaded : Reloaded control after) : Coherent after := by
  have decisions (id : PromotionDecisionId) (held : control.decisions.contains id = true) :
      after.decisions.contains id = true := by
    rw [reloaded.decisions, Std.ExtTreeMap.contains_map, held]
  constructor
  case policyId => rw [reloaded.activePolicy, reloaded.policy]; rfl
  case policyGeneration => rw [reloaded.policyGeneration, reloaded.policy]; rfl
  case policyDigest => rw [reloaded.policyDigest, reloaded.policy]; rfl
  case chains =>
    intro id chain present
    rw [reloaded.artifacts, Std.ExtTreeMap.getElem?_map] at present
    obtain ⟨stored, found, rfl⟩ := Option.map_eq_some_iff.mp present
    obtain ⟨nonempty, named⟩ := coherent.chains id stored found
    refine ⟨by simpa using nonempty, ?_⟩
    intro record inside
    obtain ⟨original, member, rfl⟩ := List.mem_map.mp inside
    exact named original member
  case evidence =>
    intro id record present
    rw [reloaded.evidence, Std.ExtTreeMap.getElem?_map] at present
    obtain ⟨stored, found, rfl⟩ := Option.map_eq_some_iff.mp present
    rw [reloaded.evidenceGenerator]
    exact coherent.evidence id stored found
  case evidenceCounted =>
    rw [reloaded.evidence, Std.ExtTreeMap.size_map, reloaded.evidenceGenerator]
    exact coherent.evidenceCounted
  case plans =>
    intro id plan present
    rw [reloaded.plans, Std.ExtTreeMap.getElem?_map] at present
    obtain ⟨stored, found, rfl⟩ := Option.map_eq_some_iff.mp present
    obtain ⟨same, issued, expires, held⟩ := coherent.plans id stored found
    rw [reloaded.planGenerator]
    exact ⟨same, issued, expires, decisions _ held⟩
  case plansCounted =>
    rw [reloaded.planGenerator, reloaded.decisionGenerator]
    exact coherent.plansCounted
  case decisions =>
    intro id decision present
    rw [reloaded.decisions, Std.ExtTreeMap.getElem?_map] at present
    obtain ⟨stored, found, rfl⟩ := Option.map_eq_some_iff.mp present
    rw [reloaded.decisionGenerator]
    exact coherent.decisions id stored found
  case decisionsCounted =>
    rw [reloaded.decisions, Std.ExtTreeMap.size_map, reloaded.decisionGenerator]
    exact coherent.decisionsCounted
  case records =>
    intro id record present
    rw [reloaded.records, Std.ExtTreeMap.getElem?_map] at present
    obtain ⟨stored, found, rfl⟩ := Option.map_eq_some_iff.mp present
    exact coherent.records id stored found
  case idempotency =>
    intro id record present
    rw [reloaded.idempotency] at present
    obtain ⟨same, held⟩ := coherent.idempotency id record present
    exact ⟨same, decisions _ held⟩
  case reservations =>
    intro id reservation held
    simp [reloaded.pending] at held
  case salted =>
    rw [reloaded.evidenceGenerator, reloaded.planGenerator, reloaded.decisionGenerator]
    exact coherent.salted

end Coherent

theorem keyedBy_of_entries {κ ν : Type} [Ord κ] [Std.TransOrd κ] [Std.LawfulEqOrd κ]
    {map : OrderedMap κ ν} {key : ν → κ}
    (entries : ∀ (id : κ) (value : ν), map[id]? = some value → key value = id) :
    KeyedBy map key := by
  intro entry inside
  exact entries entry.1 entry.2 (Std.ExtTreeMap.mem_toList_iff_getElem?_eq_some.mp inside)

structure Engine.Sound (engine : Engine) : Prop where
  coherent : Coherent engine.control
  roomy : engine.control.Roomy
  history : HistoryKeyed engine.state.history
  config : engine.config.valid = true

namespace Engine

variable {engine : Engine}

theorem snapshot_keyed (sound : engine.Sound) : StatePersistence.Keyed engine.snapshot where
  evidence := keyedBy_of_entries fun id value present =>
    (sound.coherent.evidence id value present).1
  plans := keyedBy_of_entries fun id value present => (sound.coherent.plans id value present).1
  decisions := keyedBy_of_entries fun id value present =>
    (sound.coherent.decisions id value present).1
  records := keyedBy_of_entries fun id value present => sound.coherent.records id value present
  idempotency := keyedBy_of_entries fun id value present =>
    (sound.coherent.idempotency id value present).1
  history := keyedBy_of_entries fun id value present => (sound.history id value present).1

theorem decoded_image (sound : engine.Sound) {image : CoordinatorState}
    (decoded : StatePersistence.decode (StatePersistence.encode engine.snapshot) = .ok image) :
    image = StatePersistence.observeState (StatePersistence.restoredState engine.snapshot) :=
  ((StatePersistence.decode_encode_eq_ok (snapshot_keyed sound)).mp decoded).2.2

theorem keys_issued {tag : IdentityTag} {ν : Type} {map : OrderedMap (Identity tag) ν}
    {generator : IdentityGenerator tag}
    (issued : ∀ (id : Identity tag) (value : ν), map[id]? = some value → generator.Issued id) :
    ∀ id ∈ map.keys, generator.Issued id := by
  intro id inside
  have held := Std.ExtTreeMap.mem_keys.mp inside
  rw [Std.ExtTreeMap.mem_iff_isSome_getElem?, Option.isSome_iff_exists] at held
  obtain ⟨value, present⟩ := held
  exact issued id value present

theorem image_reloaded (sound : engine.Sound) {image : CoordinatorState} {after : Control}
    {authority : CoordinatorAuthority}
    (decoded : StatePersistence.decode (StatePersistence.encode engine.snapshot) = .ok image)
    (changed : after = { image.control with pending := ∅, authority }) :
    Coherent.Reloaded engine.control after := by
  have coherent := sound.coherent
  have image_eq := decoded_image sound decoded
  rw [StatePersistence.restoredState_eq] at image_eq
  subst image_eq changed
  have evidence : StatePersistence.observeAll engine.control.evidenceGenerator
      (engine.control.evidence.map fun _ => EvidenceRecord.restored).keys =
      engine.control.evidenceGenerator := by
    rw [Std.ExtTreeMap.keys_map]
    exact IdentityGenerator.observeAll_issued
      (keys_issued fun id value present => (coherent.evidence id value present).2)
  have plans : StatePersistence.observeAll engine.control.planGenerator
      (engine.control.plans.map fun _ => PromotionPlan.restored).keys =
      engine.control.planGenerator := by
    rw [Std.ExtTreeMap.keys_map]
    exact IdentityGenerator.observeAll_issued
      (keys_issued fun id value present => (coherent.plans id value present).2.1)
  have decisions : StatePersistence.observeAll engine.control.decisionGenerator
      (engine.control.decisions.map fun _ => PromotionDecision.restored).keys =
      engine.control.decisionGenerator := by
    rw [Std.ExtTreeMap.keys_map]
    exact IdentityGenerator.observeAll_issued
      (keys_issued fun id value present => (coherent.decisions id value present).2)
  rw [← IdentityGenerator.resumed_eq coherent.salted.1] at evidence
  rw [← IdentityGenerator.resumed_eq coherent.salted.2.1] at plans
  rw [← IdentityGenerator.resumed_eq coherent.salted.2.2] at decisions
  constructor
  case evidenceGenerator => exact evidence.trans (IdentityGenerator.resumed_eq coherent.salted.1)
  case planGenerator => exact plans.trans (IdentityGenerator.resumed_eq coherent.salted.2.1)
  case decisionGenerator =>
    exact decisions.trans (IdentityGenerator.resumed_eq coherent.salted.2.2)
  all_goals rfl

theorem findRevision_mem {state : CoordinatorState} {id : ArtifactId} {revision : ArtifactRevision}
    {artifact : ArtifactRecord} (found : state.findRevision id revision = some artifact) :
    artifact ∈ state.control.chain id ∧ artifact.revision = revision := by
  exact ⟨List.mem_of_find?_eq_some found, by simpa using List.find?_some found⟩

theorem findRevision_id (coherent : Coherent engine.control) {id : ArtifactId}
    {revision : ArtifactRevision} {artifact : ArtifactRecord}
    (found : engine.state.findRevision id revision = some artifact) : artifact.id = id :=
  coherent.chain_named id artifact (findRevision_mem found).1

theorem findCurrent_id (coherent : Coherent engine.control) {id : ArtifactId}
    {artifact : ArtifactRecord} (found : engine.state.findCurrent id = some artifact) :
    artifact.id = id :=
  coherent.chain_named id artifact (List.mem_of_getLast? found)

theorem mem_replaceFirst {revision : ArtifactRevision} {record other : ArtifactRecord}
    {chain : List ArtifactRecord} (inside : other ∈ CoordinatorState.replaceFirst revision record chain) :
    other = record ∨ other ∈ chain := by
  induction chain with
  | nil => simp [CoordinatorState.replaceFirst] at inside
  | cons first rest ih =>
      rw [CoordinatorState.replaceFirst] at inside
      split at inside
      · rcases List.mem_cons.mp inside with same | later
        · exact .inl same
        · exact .inr (List.mem_cons_of_mem _ later)
      · rcases List.mem_cons.mp inside with same | later
        · exact .inr (by simp [same])
        · rcases ih later with same | kept
          · exact .inl same
          · exact .inr (List.mem_cons_of_mem _ kept)

theorem replaceFirst_ne_nil {revision : ArtifactRevision} {record : ArtifactRecord}
    {chain : List ArtifactRecord} (nonempty : chain ≠ []) :
    CoordinatorState.replaceFirst revision record chain ≠ [] := by
  cases chain with
  | nil => exact absurd rfl nonempty
  | cons first rest =>
      rw [CoordinatorState.replaceFirst]
      split <;> simp

theorem fencePending_cases {pending : OrderedMap ArtifactId PendingTransition}
    {record : EvidenceRecord} {id : ArtifactId} {reservation : PendingTransition}
    (present : (fencePending pending record)[id]? = some reservation) :
    pending[id]? = some reservation ∧ ¬(reservation.artifact = record.subject ∧
      reservation.artifactRevision = record.subjectRevision) := by
  rw [fencePending, Std.ExtTreeMap.getElem?_filter', Option.filter_eq_some_iff] at present
  refine ⟨present.1, ?_⟩
  rw [not_and_or]
  simpa using present.2

theorem planOf_decision (request : PromotionRequest) (artifact : ArtifactRecord) (now : UInt64) :
    (engine.planOf request artifact now).decision = engine.control.decisionGenerator.next :=
  evaluateGates_decision_id _ _ _ _ _

theorem plan_decision_named (coherent : Coherent engine.control) {plan : PromotionPlan}
    (stored : engine.control.plans[plan.id]? = some plan) :
    engine.control.decisions.contains plan.decision = true ∧
      (engine.control.decisions.getD plan.decision {}).id = plan.decision := by
  have held := (coherent.plans _ _ stored).2.2.2
  refine ⟨held, ?_⟩
  obtain ⟨decision, present⟩ := OrderedMaps.contains_iff.mp held
  rw [Std.ExtTreeMap.getD_eq_getD_getElem?, present]
  exact (coherent.decisions _ _ present).1

theorem supersededChain_named {id : ArtifactId} {chain : List ArtifactRecord}
    {state : CoordinatorState} {revision : ArtifactRevision}
    (named : ∀ record ∈ chain, record.id = id) :
    ∀ record ∈ supersededChain state revision id chain, record.id = id := by
  intro record inside
  unfold supersededChain at inside
  cases last : chain.getLast? with
  | none => simp [last] at inside
  | some previous =>
      rw [last] at inside
      rcases List.mem_append.mp inside with old | new
      · exact named record (List.dropLast_subset _ old)
      · rw [List.mem_singleton.mp new]
        have previous_id := named previous (List.mem_of_getLast? last)
        unfold supersedeByRegistration
        dsimp only
        split <;> exact previous_id

theorem refused_nonempty (sound : engine.Sound) {registration : ArtifactRegistration}
    (refused : engine.config.maxArtifactRevisionsPerId.toNat ≤
        (engine.state.chain registration.id).length ∨
      ∃ last, (engine.state.chain registration.id).getLast? = some last) :
    engine.control.chain registration.id ≠ [] := by
  intro empty
  rw [show engine.state.chain registration.id = [] from empty] at refused
  rcases refused with full | ⟨last, found⟩
  · have valid := sound.config
    simp only [EngineConfig.valid, Bool.and_eq_true, decide_eq_true_eq] at valid
    have positive := UInt64.lt_iff_toNat_lt.mp valid.1.2
    rw [List.length_nil] at full
    exact absurd full (Nat.not_le.mpr positive)
  · cases found

theorem coherent_submitted (sound : engine.Sound) {submission : EvidenceSubmission}
    {generation : EvidenceGeneration} {sequence : CommitSequence} {record : EvidenceRecord}
    (made : record = submissionRecord submission engine.control.evidenceGenerator.next generation
      sequence) :
    Coherent { engine.control with
      evidence := (supersededEvidence engine.control.evidence
        (currentEvidence engine.state submission) record).insert record.id record
      evidenceGenerator := engine.control.evidenceGenerator.advance } := by
  have coherent := sound.coherent
  subst made
  unfold supersededEvidence
  cases replaced : currentEvidence engine.state submission with
  | none => exact coherent.addEvidence sound.roomy rfl
  | some previous =>
      have inside := List.mem_of_find?_eq_some replaced
      have present := Std.ExtTreeMap.mem_toList_iff_getElem?_eq_some.mp inside
      have held : engine.control.evidence.contains previous.1 = true :=
        OrderedMaps.contains_iff.mpr ⟨previous.2, present⟩
      refine Coherent.addEvidence (Coherent.reviseEvidence coherent held ?_) ?_ rfl
      · exact (coherent.evidence _ _ present).1
      · refine ⟨?_, sound.roomy.2⟩
        exact (OrderedMaps.size_insert_held _ held).trans_le sound.roomy.1

theorem plans_behind (sound : engine.Sound) : engine.control.planGenerator.counter.toNat <
    engine.control.decisionGenerator.advance.counter.toNat := by
  rw [IdentityGenerator.advance_counter (sound.coherent.decisionRoom sound.roomy)]
  have behind := sound.coherent.plansCounted
  omega

theorem coherent_issued (sound : engine.Sound) {request : PromotionRequest} {now : UInt64}
    {artifact : ArtifactRecord} {decision : PromotionDecision}
    {kept : OrderedMap PromotionPlanId PromotionPlan} {after : Control}
    (named : decision.id = engine.control.decisionGenerator.next)
    (evicted : engine.MakesRoom request now kept) (roomy : after.Roomy)
    (changed : after = { engine.control.openDecision decision with
      plans := kept.insert engine.control.planGenerator.next (engine.planOf request artifact now)
      planGenerator := engine.control.planGenerator.advance
      pending := engine.control.pending.insert artifact.id
        (makeReservation engine.state (engine.planOf request artifact now) now)
      idempotency := engine.control.idempotency.insert request.request
        (idempotencyRecord request decision) }) :
    Coherent after := by
  rw [changed] at roomy ⊢
  have coherent := sound.coherent
  have opened := coherent.openDecision sound.roomy named
  have allocated := Coherent.evictPlans opened roomy evicted.evicts (.inr rfl) (plans_behind sound)
  have held : (engine.control.openDecision decision).decisions.contains decision.id = true :=
    Std.ExtTreeMap.contains_insert_self
  have answered : Coherent { engine.control.openDecision decision with
      plans := kept, planGenerator := engine.control.planGenerator.advance
      idempotency := engine.control.idempotency.insert request.request
        (idempotencyRecord request decision) } :=
    Coherent.setIdempotency allocated rfl held
  have room := coherent.planRoom sound.roomy
  refine Coherent.reserve answered (engine.planOf request artifact now)
    (makeReservation engine.state (engine.planOf request artifact now) now)
    (IdentityGenerator.issued_next room) ?_ ?_ ?_ ?_ rfl ⟨rfl, rfl, rfl, rfl, rfl⟩
  · intro id reservation reserved
    exact (coherent.reservations id reservation reserved).2.1.ne_next room
  · have valid := sound.config
    simp only [EngineConfig.valid, Bool.and_eq_true] at valid
    exact valid.1.1.1.1.2
  · rw [planOf_decision, ← named]
    exact held
  · exact (Std.ExtTreeMap.contains_insert_self :
      (engine.control.idempotency.insert request.request
        (idempotencyRecord request decision)).contains request.request = true)

theorem coherent_committed (coherent : Coherent engine.control) {plan : PromotionPlan} {now : UInt64}
    {artifact : ArtifactRecord} {decision : PromotionDecision} {record : PromotionRecord}
    {after : Control} (accepts : engine.Accepts plan now artifact)
    (named : decision.id = (engine.control.decisions.getD plan.decision {}).id)
    (changed : after = { ((((engine.control.setChain plan.artifact
        (CoordinatorState.replaceFirst plan.artifactRevision
          (promotedArtifact engine.state.advanceSequence plan artifact)
          (engine.control.chain plan.artifact))).addRecord engine.config.maxRecordsRetained
        record).setDecision plan.decision decision).releasePending plan.artifact) with
      idempotency := committedIdempotency engine.control.idempotency plan }) :
    Coherent after := by
  rw [changed]
  obtain ⟨held, own⟩ := plan_decision_named coherent accepts.stored
  have same := findRevision_id coherent accepts.found
  have inside := (findRevision_mem accepts.found).1
  have chained : Coherent (engine.control.setChain plan.artifact
      (CoordinatorState.replaceFirst plan.artifactRevision
        (promotedArtifact engine.state.advanceSequence plan artifact)
        (engine.control.chain plan.artifact))) := by
    refine coherent.setChain (replaceFirst_ne_nil (List.ne_nil_of_mem inside)) ?_
    intro record member
    rcases mem_replaceFirst member with rfl | kept
    · unfold promotedArtifact
      dsimp only
      split <;> exact same
    · exact coherent.chain_named _ record kept
  have recorded := chained.addRecord engine.config.maxRecordsRetained record
  have settled := (recorded.setDecision held (named.trans own)).releasePending plan.artifact
  unfold committedIdempotency
  cases answered : engine.control.idempotency[plan.request]? with
  | none => exact settled
  | some record =>
      refine Coherent.setIdempotency settled ?_ ?_
      · exact (coherent.idempotency _ _ answered).1
      · exact OrderedMaps.contains_insert_of_held decision held

theorem coherent_effect (sound : engine.Sound) {op : Op} {reply : Reply} {next : Engine}
    (effect : Effect engine op reply next) (roomy : next.control.Roomy) :
    Coherent next.control := by
  have coherent := sound.coherent
  cases effect with
  | idle _ same => rwa [same]
  | published _ _ changed =>
      rw [changed]
      exact coherent.setPolicy _
  | restarted _ changed =>
      rw [changed]
      exact coherent.reauthorize _ _
  | recovered changed =>
      rw [changed]
      exact coherent.reauthorize _ _
  | compatibilityMoved _ changed =>
      rw [changed]
      exact coherent.reauthorize _ _
  | registrationRefused _ refused changed =>
      rw [changed]
      exact { coherent.setChain (refused_nonempty sound refused) (coherent.chain_named _) with }
  | @registered registration _ record _ stamped _ _ _ _ _ made changed =>
      rw [changed]
      have named : ∀ other ∈ supersededChain engine.state.advanceSequence
          engine.control.revisionGenerator.next registration.id
          (engine.control.chain registration.id) ++ [record], other.id = registration.id := by
        intro other inside
        rcases List.mem_append.mp inside with old | new
        · exact supersededChain_named (coherent.chain_named _) other old
        · rw [List.mem_singleton.mp new, made]
          rfl
      exact { coherent.setChain (by simp) named with }
  | submitted _ _ _ made changed =>
      obtain ⟨generation, sequence, _, _, made⟩ := made
      rw [changed]
      exact coherent_submitted sound made
  | undecided named _ _ changed =>
      rw [changed]
      exact coherent.openDecision sound.roomy named
  | @decided request now result decision kept generator _ _ named _ _ evicted allocated
      changed =>
      rw [changed] at roomy ⊢
      have opened := coherent.openDecision sound.roomy named
      have cleared := Coherent.evictPlans opened roomy evicted.evicts allocated (plans_behind sound)
      refine Coherent.setIdempotency cleared rfl ?_
      exact (Std.ExtTreeMap.contains_insert_self :
        (engine.control.decisions.insert decision.id decision).contains decision.id = true)
  | issued _ _ _ named _ evicted changed =>
      exact coherent_issued sound named evicted roomy changed
  | @closed plan _ _ decision _ released _ stored named _ changed =>
      obtain ⟨held, own⟩ := plan_decision_named coherent stored
      have rewritten := coherent.setDecision held (named.trans own)
      rw [changed]
      split
      · exact rewritten.releasePending _
      · exact rewritten
  | committed accepts _ _ named _ changed =>
      exact coherent_committed coherent accepts named changed
  | quarantined _ found _ _ changed =>
      rw [changed]
      have same := findCurrent_id coherent found
      refine Coherent.releasePending (Coherent.replaceCurrent coherent ?_) _
      exact same
  | releaseRefused named _ changed =>
      rw [changed]
      exact coherent.openDecision sound.roomy named
  | released request found _ _ named _ _ _ changed =>
      rw [changed]
      have same := findCurrent_id coherent found
      have opened := coherent.openDecision sound.roomy named
      refine Coherent.addRecord (Coherent.replaceCurrent opened ?_) _ _
      exact same
  | revoked _ found _ _ _ _ changed =>
      rw [changed]
      have same := findCurrent_id coherent found
      refine Coherent.addRecord (Coherent.releasePending
        (Coherent.replaceCurrent coherent ?_) _) _ _
      exact same
  | superseded found _ _ _ _ _ changed =>
      rw [changed]
      have same := findCurrent_id coherent found
      refine Coherent.addRecord (Coherent.releasePending
        (Coherent.replaceCurrent coherent ?_) _) _ _
      exact same
  | retired found _ _ changed =>
      rw [changed]
      have same := findCurrent_id coherent found
      refine Coherent.addRecord (Coherent.releasePending
        (Coherent.replaceCurrent coherent ?_) _) _ _
      exact same
  | @evidenceRevoked evidence _ _ _ _ _ found _ changed =>
      rw [changed]
      have held : engine.control.evidence.contains evidence = true :=
        OrderedMaps.contains_iff.mpr ⟨_, found⟩
      refine Coherent.dropPending (Coherent.reviseEvidence coherent held ?_) ?_
      · exact (coherent.evidence _ _ found).1
      · intro id reservation present
        exact (fencePending_cases present).1
  | reloaded decoded changed => exact coherent.reload (image_reloaded sound decoded changed)

theorem representable_roomy (representable : engine.representable = true) :
    engine.control.Roomy := by
  simp only [Engine.representable, Bool.and_eq_true, decide_eq_true_eq] at representable
  exact representable

theorem sound_step (sound : engine.Sound) {op : Op} {reply : Reply} {next : Engine}
    (moved : engine.step op = some (reply, next)) : next.Sound := by
  obtain ⟨performed, representable⟩ := step_eq_some moved
  have roomy := representable_roomy representable
  exact ⟨coherent_effect sound (step_effect moved) roomy, roomy,
    perform_keyed performed sound.history, by rw [step_config moved, sound.config]⟩

theorem seedFrom_ne_zero (base index : UInt64) : seedFrom base index ≠ 0 := by
  unfold seedFrom
  dsimp only
  split
  · decide
  · assumption

theorem seeded_salt {tag : IdentityTag} (base index : UInt64) :
    (IdentityGenerator.seeded (seedFrom base index) : IdentityGenerator tag).salt ≠ 0 := by
  unfold IdentityGenerator.seeded
  rw [if_neg (seedFrom_ne_zero base index)]
  exact seedFrom_ne_zero base index

theorem no_entry {κ ν : Type} [Ord κ] [Std.TransOrd κ] {map : OrderedMap κ ν} {key : κ} {value : ν}
    (empty : map = ∅) (present : map[key]? = some value) : False := by
  rw [empty] at present
  simp at present

theorem create_chain (config : EngineConfig) (epoch : CoordinatorEpoch) (salting naming : UInt64)
    (id : ArtifactId) : (create config epoch salting naming).state.chain id = [] :=
  Std.ExtTreeMap.getD_empty

theorem create_sound (config : EngineConfig) (epoch : CoordinatorEpoch) (salting naming : UInt64) :
    (create config epoch salting naming).Sound := by
  refine ⟨?_, ?_, ?_, create_config_valid config epoch salting naming⟩
  · constructor
    case salted => exact ⟨seeded_salt _ _, seeded_salt _ _, seeded_salt _ _⟩
    case policyId => rfl
    case policyGeneration => rfl
    case policyDigest => rfl
    case evidenceCounted => exact Std.ExtTreeMap.size_empty
    case plansCounted => exact Nat.zero_le _
    case decisionsCounted => exact Std.ExtTreeMap.size_empty
    all_goals
      intro id value present
      exact (no_entry rfl present).elim
  · exact ⟨Nat.zero_le _, Nat.zero_le _⟩
  · intro sequence event present
    exact (no_entry rfl present).elim

theorem unbound_of_unseen (sound : engine.Sound) {request : PromotionRequestId}
    (unseen : ∀ record, engine.state.idempotency[request]? = some record →
      engine.state.decisions[record.decision]? = none) :
    engine.state.idempotency[request]? = none := by
  cases answered : engine.state.idempotency[request]? with
  | none => rfl
  | some record =>
      have held := (sound.coherent.idempotency _ _ answered).2
      have missing : engine.control.decisions[record.decision]? = none := unseen record answered
      rw [Std.ExtTreeMap.contains_eq_isSome_getElem?, missing] at held
      simp at held

theorem evaluate_changes (sound : engine.Sound) {request : PromotionRequest} {now : UInt64}
    {reply : Reply} {next : Engine}
    (moved : engine.step (.evaluate request now) = some (reply, next))
    (admitted : engine.admissionOpen = true) (wellFormed : requestIsWellFormed request = true)
    (unbound : engine.state.idempotency[request.request]? = none) :
    next.control ≠ engine.control := by
  have performed := (step_eq_some moved).1
  simp only [perform, answerWith, Option.some.injEq, Prod.mk.injEq] at performed
  have opened := engine.evaluateFresh_opens request now
  rw [← evaluate_unbound admitted wellFormed unbound, performed.2] at opened
  intro same
  have counter := IdentityGenerator.advance_counter (sound.coherent.decisionRoom sound.roomy)
  rw [← opened, same] at counter
  omega

end Engine

theorem Constructed.sound {engine : Engine} (constructed : Constructed engine) : engine.Sound := by
  obtain ⟨config, epoch, salting, naming, rfl⟩ := constructed
  exact Engine.create_sound config epoch salting naming

theorem EngineRun.sound {start final : Engine} {trace : List EngineStep}
    (run : EngineRun start trace final) (sound : start.Sound) : final.Sound :=
  run.invariant Engine.Sound (fun _ _ _ _ sound moved => Engine.sound_step sound moved) sound

theorem Reachable.sound {engine : Engine} (reachable : Reachable engine) : engine.Sound := by
  obtain ⟨start, trace, constructed, run⟩ := reachable
  exact EngineRun.sound run constructed.sound

end ArtifactPromotion
