import ArtifactPromotion.Engine.ExactlyOnce

/-! What one operation can do to a stored decision and to the identity a request is bound under. -/

namespace ArtifactPromotion

open Runs

open Engine in
/-- The ways an operation changes the decision stored under `id`. -/
inductive Redecided (engine : Engine) (id : PromotionDecisionId) :
    Op → Reply → PromotionDecision → PromotionDecision → Prop
  | kept {op reply decision} : Redecided engine id op reply decision decision
  | restored {advance reply decision} :
      Redecided engine id (.reload advance) reply decision decision.restored
  /-- A commit of the decision's plan was refused. -/
  | refused {plan now result decision rewritten} (named : plan.decision = id)
      (stored : engine.control.plans[plan.id]? = some plan)
      (rewrites : engine.Rewrites plan rewritten result) :
      Redecided engine id (.commit plan now) (.committed (.ok result)) decision rewritten
  | applied {plan now artifact result decision final} (named : plan.decision = id)
      (accepts : engine.Accepts plan now artifact)
      (acknowledged : result.outcome = .promotionCommitted)
      (settled : final.outcome = .promotionCommitted) :
      Redecided engine id (.commit plan now) (.committed (.ok result)) decision final

open Engine in
/-- The ways an operation changes the binding of a request identity. -/
inductive Rebound (engine : Engine) (request : PromotionRequestId) :
    Op → Reply → IdempotencyRecord → IdempotencyRecord → Prop
  | kept {op reply record} : Rebound engine request op reply record record
  | applied {plan now artifact result record} (named : plan.request = request)
      (accepts : engine.Accepts plan now artifact) :
      Rebound engine request (.commit plan now) (.committed (.ok result)) record
        { record with outcome := .promotionCommitted, decision := plan.decision }

namespace Engine

variable {engine next : Engine}

theorem held_decision {id : PromotionDecisionId}
    (held : engine.control.decisions.contains id = true) :
    ∃ decision, engine.control.decisions[id]? = some decision := by
  exact OrderedMaps.contains_iff.mp held

theorem step_decision (sound : engine.Sound) {op : Op} {reply : Reply}
    (moved : engine.step op = some (reply, next)) {id : PromotionDecisionId}
    {decision : PromotionDecision} (held : engine.control.decisions[id]? = some decision) :
    ∃ changed, next.control.decisions[id]? = some changed ∧
      Redecided engine id op reply decision changed := by
  have kept (same : next.control.decisions = engine.control.decisions) :
      ∃ changed, next.control.decisions[id]? = some changed ∧
        Redecided engine id op reply decision changed :=
    ⟨decision, by rw [same, held], .kept⟩
  have opened {fresh : PromotionDecision}
      (named : fresh.id = engine.control.decisionGenerator.next)
      (changed : next.control.decisions = engine.control.decisions.insert fresh.id fresh) :
      ∃ changed, next.control.decisions[id]? = some changed ∧
        Redecided engine id op reply decision changed := by
    have apart : id ≠ fresh.id := by
      rintro rfl
      rw [named, sound.coherent.decision_fresh sound.roomy] at held
      simp at held
    refine ⟨decision, ?_, .kept⟩
    rw [changed, OrderedMaps.getElem?_insert_ne _ _ apart, held]
  have written {plan : PromotionPlan} {rewritten : PromotionDecision}
      (changed : next.control.decisions =
        engine.control.decisions.insert plan.decision rewritten)
      (revised : plan.decision = id → Redecided engine id op reply decision rewritten) :
      ∃ changed, next.control.decisions[id]? = some changed ∧
        Redecided engine id op reply decision changed := by
    by_cases same : id = plan.decision
    · subst same
      exact ⟨rewritten, by rw [changed, Std.ExtTreeMap.getElem?_insert_self], revised rfl⟩
    · refine ⟨decision, ?_, .kept⟩
      rw [changed, OrderedMaps.getElem?_insert_ne _ _ same, held]
  cases step_effect moved with
  | idle _ unchanged =>
      have same := congrArg Control.decisions unchanged
      exact kept same
  | undecided named _ _ changed =>
      have decisions := congrArg Control.decisions changed
      exact opened named decisions
  | decided _ named _ _ _ _ changed =>
      have decisions := congrArg Control.decisions changed
      exact opened named decisions
  | issued _ _ _ named _ _ changed =>
      have decisions := congrArg Control.decisions changed
      exact opened named decisions
  | closed released _ stored _ rewrites changed =>
      refine written ?_ fun named => .refused named stored rewrites
      rw [changed]
      cases released <;> rfl
  | committed accepts acknowledged _ _ final changed =>
      have decisions := congrArg Control.decisions changed
      exact written decisions fun named => .applied named accepts acknowledged final
  | releaseRefused named _ changed =>
      have decisions := congrArg Control.decisions changed
      exact opened named decisions
  | released _ _ _ _ named _ _ _ changed =>
      have decisions := congrArg Control.decisions changed
      exact opened named decisions
  | reloaded decoded changed =>
      refine ⟨decision.restored, ?_, .restored⟩
      rw [(image_reloaded sound decoded changed).decisions, Std.ExtTreeMap.getElem?_map, held]
      rfl
  | published _ _ changed | restarted _ changed | recovered changed
  | compatibilityMoved _ changed | registrationRefused _ _ changed
  | registered _ _ _ _ _ _ _ changed | submitted _ _ _ _ changed
  | quarantined _ _ _ _ changed | revoked _ _ _ _ _ _ changed
  | superseded _ _ _ _ _ _ changed | retired _ _ _ changed | evidenceRevoked _ _ changed =>
      have same := congrArg Control.decisions changed
      exact kept same

theorem step_decisions_held (sound : engine.Sound) {op : Op} {reply : Reply}
    (moved : engine.step op = some (reply, next)) {id : PromotionDecisionId}
    (held : engine.control.decisions.contains id = true) :
    next.control.decisions.contains id = true := by
  obtain ⟨decision, found⟩ := held_decision held
  obtain ⟨changed, present, _⟩ := step_decision sound moved found
  exact OrderedMaps.contains_iff.mpr ⟨changed, present⟩

theorem step_binding (sound : engine.Sound) {op : Op} {reply : Reply}
    (moved : engine.step op = some (reply, next)) {request : PromotionRequestId}
    {record : IdempotencyRecord} (held : engine.control.idempotency[request]? = some record) :
    ∃ changed, next.control.idempotency[request]? = some changed ∧
      Rebound engine request op reply record changed := by
  have kept (same : next.control.idempotency = engine.control.idempotency) :
      ∃ changed, next.control.idempotency[request]? = some changed ∧
        Rebound engine request op reply record changed :=
    ⟨record, by rw [same, held], .kept⟩
  have added {asked : PromotionRequest} {decision : PromotionDecision} {result : EvaluationResult}
      (opens : engine.Opens asked decision result)
      (changed : next.control.idempotency =
        engine.control.idempotency.insert asked.request (idempotencyRecord asked decision)) :
      ∃ changed, next.control.idempotency[request]? = some changed ∧
        Rebound engine request op reply record changed := by
    have unbound := unbound_of_unseen sound opens.unseen
    have apart : request ≠ asked.request := by
      rintro rfl
      have missing : engine.control.idempotency[asked.request]? = none := unbound
      rw [missing] at held
      simp at held
    refine ⟨record, ?_, .kept⟩
    rw [changed, OrderedMaps.getElem?_insert_ne _ _ apart, held]
  cases step_effect moved with
  | decided _ _ opens _ _ _ changed =>
      have idempotency := congrArg Control.idempotency changed
      exact added opens idempotency
  | issued _ _ _ _ opens _ changed =>
      have idempotency := congrArg Control.idempotency changed
      exact added opens idempotency
  | closed released _ _ _ _ changed =>
      refine kept ?_
      rw [changed]
      cases released <;> rfl
  | @committed plan _ _ _ _ _ accepts _ _ _ _ changed =>
      have idempotency : next.control.idempotency =
          committedIdempotency engine.control.idempotency plan :=
        congrArg Control.idempotency changed
      unfold committedIdempotency at idempotency
      by_cases same : request = plan.request
      · subst same
        simp only [held] at idempotency
        refine ⟨_, ?_, .applied rfl accepts⟩
        rw [idempotency, Std.ExtTreeMap.getElem?_insert_self]
      · refine ⟨record, ?_, .kept⟩
        rw [idempotency]
        split
        · exact held
        · rw [OrderedMaps.getElem?_insert_ne _ _ same, held]
  | reloaded decoded changed =>
      exact kept (image_reloaded sound decoded changed).idempotency
  | idle _ changed | published _ _ changed | restarted _ changed | recovered changed
  | compatibilityMoved _ changed | registrationRefused _ _ changed
  | registered _ _ _ _ _ _ _ changed | submitted _ _ _ _ changed | undecided _ _ _ changed
  | quarantined _ _ _ _ changed | releaseRefused _ _ changed
  | released _ _ _ _ _ _ _ _ changed | revoked _ _ _ _ _ _ changed
  | superseded _ _ _ _ _ _ changed | retired _ _ _ changed | evidenceRevoked _ _ changed =>
      have same := congrArg Control.idempotency changed
      exact kept same

theorem step_binds {op : Op} {reply : Reply} (sound : engine.Sound)
    (moved : engine.step op = some (reply, next)) {request : PromotionRequestId}
    {record : IdempotencyRecord} (unbound : engine.control.idempotency[request]? = none)
    (held : next.control.idempotency[request]? = some record) :
    ∃ asked now decision result, op = .evaluate asked now ∧ reply = .evaluated (.ok result) ∧
      asked.request = request ∧ engine.Opens asked decision result ∧
      decision.id = engine.control.decisionGenerator.next ∧
      next.control.decisions[decision.id]? = some decision ∧
      record = idempotencyRecord asked decision := by
  have bound (same : next.control.idempotency = engine.control.idempotency) : False := by
    rw [same, unbound] at held
    simp at held
  have added {asked : PromotionRequest} {decision : PromotionDecision}
      (changed : next.control.idempotency =
        engine.control.idempotency.insert asked.request (idempotencyRecord asked decision)) :
      asked.request = request ∧ record = idempotencyRecord asked decision := by
    rw [changed] at held
    rcases OrderedMaps.insert_cases held with ⟨rfl, same⟩ | ⟨_, old⟩
    · exact ⟨rfl, same⟩
    · rw [unbound] at old
      simp at old
  cases step_effect moved with
  | decided _ named opens _ _ _ changed =>
      have idempotency := congrArg Control.idempotency changed
      have decisions := congrArg Control.decisions changed
      obtain ⟨same, record_eq⟩ := added idempotency
      refine ⟨_, _, _, _, rfl, rfl, same, opens, named, ?_, record_eq⟩
      exact decisions ▸ Std.ExtTreeMap.getElem?_insert_self
  | issued _ _ _ named opens _ changed =>
      have idempotency := congrArg Control.idempotency changed
      have decisions := congrArg Control.decisions changed
      obtain ⟨same, record_eq⟩ := added idempotency
      refine ⟨_, _, _, _, rfl, rfl, same, opens, named, ?_, record_eq⟩
      exact decisions ▸ Std.ExtTreeMap.getElem?_insert_self
  | closed released _ _ _ _ changed =>
      refine (bound ?_).elim
      rw [changed]
      cases released <;> rfl
  | @committed plan _ _ _ _ _ accepts _ _ _ _ changed =>
      have idempotency : next.control.idempotency =
          committedIdempotency engine.control.idempotency plan :=
        congrArg Control.idempotency changed
      unfold committedIdempotency at idempotency
      split at idempotency
      · exact (bound idempotency).elim
      · rename_i old present
        rw [idempotency] at held
        rcases OrderedMaps.insert_cases held with ⟨rfl, _⟩ | ⟨_, kept⟩
        · rw [unbound] at present
          simp at present
        · rw [unbound] at kept
          simp at kept
  | reloaded decoded changed =>
      exact (bound (image_reloaded sound decoded changed).idempotency).elim
  | idle _ changed | published _ _ changed | restarted _ changed | recovered changed
  | compatibilityMoved _ changed | registrationRefused _ _ changed
  | registered _ _ _ _ _ _ _ changed | submitted _ _ _ _ changed | undecided _ _ _ changed
  | quarantined _ _ _ _ changed | releaseRefused _ _ changed
  | released _ _ _ _ _ _ _ _ changed | revoked _ _ _ _ _ _ changed
  | superseded _ _ _ _ _ _ changed | retired _ _ _ changed | evidenceRevoked _ _ changed =>
      have same := congrArg Control.idempotency changed
      exact (bound same).elim

def Binds (engine : Engine) (request : PromotionRequestId) (decision : PromotionDecisionId)
    (digest : Digest) : Prop :=
  ∃ record, engine.control.idempotency[request]? = some record ∧ record.decision = decision ∧
    record.requestDigest = digest

def PlanBound (engine : Engine) (plan : PromotionPlan) : Prop :=
  engine.Binds plan.request plan.decision (computeRequestDigest (requestOfPlan plan))

/-- Stored plans are bound, and no decision answers two identities. -/
structure Answerable (engine : Engine) : Prop where
  plans : ∀ (id : PromotionPlanId) (plan : PromotionPlan), engine.control.plans[id]? = some plan →
    engine.PlanBound plan
  distinct : ∀ (left right : PromotionRequestId) (first second : IdempotencyRecord),
    engine.control.idempotency[left]? = some first →
    engine.control.idempotency[right]? = some second → first.decision = second.decision →
    left = right

theorem step_bound (sound : engine.Sound) (answerable : engine.Answerable) {op : Op} {reply : Reply}
    (moved : engine.step op = some (reply, next)) {request : PromotionRequestId}
    {decision : PromotionDecisionId} {digest : Digest}
    (binds : engine.Binds request decision digest) : next.Binds request decision digest := by
  obtain ⟨record, held, named, digested⟩ := binds
  obtain ⟨changed, present, change⟩ := step_binding sound moved held
  cases change with
  | kept => exact ⟨record, present, named, digested⟩
  | @applied plan now artifact result _ same accepts =>
      subst same
      obtain ⟨planned, bound, decided, _⟩ := answerable.plans _ plan accepts.stored
      have equal : planned = record := Option.some.inj (bound.symm.trans held)
      exact ⟨_, present, by rw [← decided, equal, named], digested⟩

theorem step_stored_plan (sound : engine.Sound) {op : Op} {reply : Reply}
    (moved : engine.step op = some (reply, next)) {id : PromotionPlanId} {plan : PromotionPlan}
    (stored : next.control.plans[id]? = some plan) :
    (∃ old, engine.control.plans[id]? = some old ∧ (plan = old ∨ plan = old.restored)) ∨
      ∃ request now artifact decision, engine.Issues request now artifact ∧
        plan = engine.planOf request artifact now ∧
        decision.id = engine.control.decisionGenerator.next ∧
        next.control.idempotency[request.request]? = some (idempotencyRecord request decision) := by
  have kept (same : next.control.plans = engine.control.plans) :
      ∃ old, engine.control.plans[id]? = some old ∧ (plan = old ∨ plan = old.restored) := by
    rw [same] at stored
    exact ⟨plan, stored, .inl rfl⟩
  cases step_effect moved with
  | decided _ _ _ _ evicted _ changed =>
      have plans := congrArg Control.plans changed
      rw [plans] at stored
      exact .inl ⟨plan, Coherent.evicts_entry evicted.evicts stored, .inl rfl⟩
  | issued issues _ _ named _ evicted changed =>
      have plans := congrArg Control.plans changed
      rw [plans] at stored
      rcases OrderedMaps.insert_cases stored with ⟨_, rfl⟩ | ⟨_, old⟩
      · have idempotency := congrArg Control.idempotency changed
        refine .inr ⟨_, _, _, _, issues, rfl, named, ?_⟩
        exact idempotency ▸ Std.ExtTreeMap.getElem?_insert_self
      · exact .inl ⟨plan, Coherent.evicts_entry evicted.evicts old, .inl rfl⟩
  | closed released _ _ _ _ changed =>
      refine .inl (kept ?_)
      rw [changed]
      cases released <;> rfl
  | reloaded decoded changed =>
      rw [(image_reloaded sound decoded changed).plans, Std.ExtTreeMap.getElem?_map,
        Option.map_eq_some_iff] at stored
      obtain ⟨old, held, rfl⟩ := stored
      exact .inl ⟨old, held, .inr rfl⟩
  | idle _ changed | published _ _ changed | restarted _ changed | recovered changed
  | compatibilityMoved _ changed | registrationRefused _ _ changed
  | registered _ _ _ _ _ _ _ changed | submitted _ _ _ _ changed | undecided _ _ _ changed
  | committed _ _ _ _ _ changed | quarantined _ _ _ _ changed | releaseRefused _ _ changed
  | released _ _ _ _ _ _ _ _ changed | revoked _ _ _ _ _ _ changed
  | superseded _ _ _ _ _ _ changed | retired _ _ _ changed | evidenceRevoked _ _ changed =>
      have same := congrArg Control.plans changed
      exact .inl (kept same)

theorem issued_request (sound : engine.Sound) {request : PromotionRequest} {now : UInt64}
    {artifact : ArtifactRecord} (issues : engine.Issues request now artifact) :
    requestPreimage (requestOfPlan (engine.planOf request artifact now)) =
      requestPreimage request := by
  have id_eq := findRevision_id sound.coherent issues.found
  have revision := (findRevision_mem issues.found).2
  change Writer.identity artifact.id ++ Writer.identity artifact.revision ++
    Writer.digest artifact.digest ++ Writer.u8 request.requestedStage.toByte = _
  rw [id_eq, revision, issues.digest]
  rfl

theorem step_answerable (sound : engine.Sound) (answerable : engine.Answerable) {op : Op}
    {reply : Reply} (moved : engine.step op = some (reply, next)) : next.Answerable := by
  constructor
  · intro id plan stored
    rcases step_stored_plan sound moved stored with ⟨old, held, rfl | rfl⟩ | issued
    · exact step_bound sound answerable moved (answerable.plans id plan held)
    · have bound : engine.PlanBound old := answerable.plans id old held
      exact step_bound sound answerable moved bound
    · obtain ⟨request, now, artifact, decision, issues, rfl, named, bound⟩ := issued
      refine ⟨_, bound, ?_, ?_⟩
      · rw [planOf_decision]
        exact named
      · change sha256 (requestPreimage request) = sha256 _
        rw [issued_request sound issues]
  · -- An old binding names a decision that is held, a new one a decision that is not.
    have old_new {left right : PromotionRequestId} {first second : IdempotencyRecord}
        {record : IdempotencyRecord} (held : engine.control.idempotency[left]? = some record)
        (bound : next.control.idempotency[left]? = some first)
        (unbound : engine.control.idempotency[right]? = none)
        (added : next.control.idempotency[right]? = some second) :
        first.decision ≠ second.decision := by
      obtain ⟨asked, now, decision, result, _, _, _, _, named, _, rfl⟩ :=
        step_binds sound moved unbound added
      obtain ⟨same, present, decided, _⟩ :=
        step_bound sound answerable moved ⟨record, held, rfl, rfl⟩
      have equal : same = first := Option.some.inj (present.symm.trans bound)
      have stored := (sound.coherent.idempotency _ _ held).2
      intro clash
      have fresh := sound.coherent.decision_fresh sound.roomy
      rw [← equal, decided] at clash
      change record.decision = decision.id at clash
      rw [Std.ExtTreeMap.contains_eq_isSome_getElem?, clash, named, fresh] at stored
      simp at stored
    intro left right first second leftBound rightBound same
    cases leftBefore : engine.control.idempotency[left]? with
    | none =>
        cases rightBefore : engine.control.idempotency[right]? with
        | none =>
            obtain ⟨asked, _, _, _, rfl, _, rfl, _⟩ := step_binds sound moved leftBefore leftBound
            obtain ⟨other, _, _, _, again, _, rfl, _⟩ :=
              step_binds sound moved rightBefore rightBound
            cases again
            rfl
        | some record =>
            exact absurd same.symm (old_new rightBefore rightBound leftBefore leftBound)
    | some record =>
        cases rightBefore : engine.control.idempotency[right]? with
        | none => exact absurd same (old_new leftBefore leftBound rightBefore rightBound)
        | some other =>
            obtain ⟨firstKept, firstHeld, firstNamed, _⟩ :=
              step_bound sound answerable moved ⟨record, leftBefore, rfl, rfl⟩
            obtain ⟨secondKept, secondHeld, secondNamed, _⟩ :=
              step_bound sound answerable moved ⟨other, rightBefore, rfl, rfl⟩
            have firstEqual : firstKept = first := Option.some.inj (firstHeld.symm.trans leftBound)
            have secondEqual : secondKept = second :=
              Option.some.inj (secondHeld.symm.trans rightBound)
            refine answerable.distinct left right record other leftBefore rightBefore ?_
            rw [← firstNamed, firstEqual, same, ← secondEqual, secondNamed]

end Engine

theorem Constructed.answerable {engine : Engine} (constructed : Constructed engine) :
    engine.Answerable := by
  obtain ⟨config, epoch, salting, naming, rfl⟩ := constructed
  constructor
  · intro id plan stored
    exact (Engine.no_entry rfl stored).elim
  · intro left right first second bound _ _
    exact (Engine.no_entry rfl bound).elim

theorem EngineRun.answerable {start final : Engine} {trace : List EngineStep}
    (run : EngineRun start trace final) (constructed : Constructed start) : final.Answerable := by
  have kept := run.invariant (fun engine => engine.Sound ∧ engine.Answerable)
    (fun _ _ _ _ held moved => ⟨Engine.sound_step held.1 moved,
      Engine.step_answerable held.1 held.2 moved⟩) ⟨constructed.sound, constructed.answerable⟩
  exact kept.2

end ArtifactPromotion
