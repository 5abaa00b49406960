import ArtifactPromotion.Engine.GateReports
import ArtifactPromotion.Engine.PlanDecisions

/-! How many gate explanations a stored decision lists: one evaluation lists a gate at most once,
and a commit that evaluates the gates of its plan again appends to what is listed. -/

namespace ArtifactPromotion

open Runs

variable {config : EngineConfig} {state : CoordinatorState} {request : PromotionRequest}
  {now : UInt64} {decision : PromotionDecision} {rule : PolicyRule}

/-- The rule that the gates of the request are evaluated against. -/
def Governs (state : CoordinatorState) (request : PromotionRequest) (rule : PolicyRule) : Prop :=
  ∃ artifact, state.findRevision request.artifact request.expectedRevision = some artifact ∧
    state.policy.findRule artifact.kind artifact.stage request.requestedStage = some rule

structure ListedOnce (state : CoordinatorState) (request : PromotionRequest)
    (listed : List GateExplanation) : Prop where
  bounded : ∀ rule, Governs state request rule → listed.length ≤ rule.requirements.length
  governed : listed ≠ [] → ∃ rule, Governs state request rule

theorem Governs.unique {other : PolicyRule} (governs : Governs state request rule)
    (again : Governs state request other) : other = rule := by
  obtain ⟨artifact, found, governed⟩ := governs
  obtain ⟨same, foundAgain, governedAgain⟩ := again
  obtain rfl := Option.some.inj (found.symm.trans foundAgain)
  exact Option.some.inj (governedAgain.symm.trans governed)

theorem ListedOnce.none : ListedOnce state request [] :=
  ⟨fun _ _ => Nat.zero_le _, fun listed => absurd rfl listed⟩

theorem ListedOnce.opened {listed : List GateExplanation}
    (once : ListedOnce state.openDecision request listed) : ListedOnce state request listed :=
  ⟨once.bounded, once.governed⟩

theorem GateContext.lookedAt_length (context : GateContext) (gates : List Gate) :
    (context.lookedAt gates).length ≤ gates.length := by
  induction gates with
  | nil => exact Nat.le_refl _
  | cons gate rest ih =>
      unfold lookedAt
      split
      · simp
      · simpa using ih

theorem evaluateGates_lists (config : EngineConfig) (state : CoordinatorState)
    (request : PromotionRequest) (now : UInt64) (decision : PromotionDecision) :
    ∃ listed, (evaluateGates config state request now decision).decision.gates =
      decision.gates ++ listed ∧ ListedOnce state request listed := by
  cases found : state.findRevision request.artifact request.expectedRevision with
  | none =>
      refine ⟨[], ?_, .none⟩
      unfold evaluateGates
      simp [found, PromotionDecision.addReason]
  | some artifact =>
      cases governed : state.policy.findRule artifact.kind artifact.stage request.requestedStage with
      | none =>
          refine ⟨[], ?_, .none⟩
          unfold evaluateGates
          simp only [found, governed]
          split
          · simp [PromotionDecision.addReason, PromotionDecision.bindArtifact]
          · simp [PromotionDecision.addReason, PromotionDecision.bindArtifact]
      | some rule =>
          have governs : Governs state request rule := ⟨artifact, found, governed⟩
          refine ⟨_, evaluateGates_explanations found governed, ?_, fun _ => ⟨rule, governs⟩⟩
          intro other again
          rw [governs.unique again, List.length_map]
          exact GateContext.lookedAt_length _ _

theorem evaluateGates_listed_once (opening : decision.gates = []) :
    ListedOnce state request (evaluateGates config state request now decision).decision.gates := by
  obtain ⟨listed, gates, once⟩ := evaluateGates_lists config state request now decision
  rw [gates, opening, List.nil_append]
  exact once

theorem issuePlan_gates {artifact : ArtifactRecord} {evaluation : GateEvaluation} :
    (issuePlan config state request artifact evaluation now).decision.gates =
      evaluation.decision.gates := by
  unfold issuePlan
  generalize (if state.plans.size ≥ config.maxPlansRetained.toNat then eraseFirst state.plans
    else state.plans) = kept
  dsimp only
  split
  · rfl
  · rfl

theorem decideTransition_listed_once {artifact : ArtifactRecord} (opening : decision.gates = []) :
    ListedOnce state request
      (decideTransition config state request artifact now decision).decision.gates := by
  have early {gates : List GateExplanation} (same : gates = decision.gates) :
      ListedOnce state request gates := by
    rw [same, opening]
    exact .none
  unfold decideTransition
  split
  · split
    · exact early rfl
    · exact early rfl
  split
  · exact early rfl
  split
  · exact early rfl
  dsimp only
  split
  · exact evaluateGates_listed_once opening
  · rw [issuePlan_gates]
    exact evaluateGates_listed_once opening

namespace Engine

variable {engine next : Engine} {plan : PromotionPlan}

/-- The operation evaluates the gates of this request for a new decision. -/
inductive Asks (engine : Engine) : Op → PromotionRequest → Prop
  | evaluate (request : PromotionRequest) (now : UInt64) :
      Asks engine (.evaluate request now) request
  | release {id : ArtifactId} {artifact : ArtifactRecord} (authority : CoordinatorAuthority)
      (now later : UInt64) (found : engine.state.findCurrent id = some artifact) :
      Asks engine (.releaseQuarantine id authority now later)
        (releaseRequest engine.state id artifact)

/-- A commit of this plan evaluates its gates again, against this rule. -/
structure Rechecks (engine : Engine) (plan : PromotionPlan) (now : UInt64) (rule : PolicyRule) :
    Prop where
  admitted : engine.admissionOpen = true
  wellFormed : plan.valid = true
  stored : engine.state.plans[plan.id]? = some plan
  revalidates : ∃ artifact, engine.Revalidates plan now artifact
  governs : Governs engine.state (requestOfPlan plan) rule

/-- The step evaluates the gates of this decision against this rule. -/
inductive EvaluatesUnder : EngineStep → PromotionDecisionId → PolicyRule → Prop
  | opened {before after : Engine} {op : Op} {reply : Reply} {request : PromotionRequest}
      {id : PromotionDecisionId} {decision : PromotionDecision} {rule : PolicyRule}
      (asks : before.Asks op request) (fresh : before.state.decisions[id]? = none)
      (stored : after.state.decisions[id]? = some decision)
      (governs : Governs before.state request rule) :
      EvaluatesUnder ⟨before, op, reply, after⟩ id rule
  | rechecked {before after : Engine} {plan : PromotionPlan} {now : UInt64} {reply : Reply}
      {rule : PolicyRule} (rechecks : before.Rechecks plan now rule) :
      EvaluatesUnder ⟨before, .commit plan now, reply, after⟩ plan.decision rule

/-- The step is a commit that evaluates the gates of its plan again, and there is a gate to list or
one that is listed. -/
def Relists (step : EngineStep) : Prop :=
  ∃ plan now rule, step.input = .commit plan now ∧ step.before.Rechecks plan now rule ∧
    (rule.requirements ≠ [] ∨ (step.before.decisionOf plan).gates ≠ [])

/-- Every stored decision lists each gate of the rules it was evaluated against at most once. -/
structure GatesOnce (past : List EngineStep) (engine : Engine) : Prop where
  bounded : ∀ (id : PromotionDecisionId) (decision : PromotionDecision),
    engine.state.decisions[id]? = some decision → ∀ step ∈ past, ∀ rule,
      EvaluatesUnder step id rule → decision.gates.length ≤ rule.requirements.length
  accounted : ∀ (id : PromotionDecisionId) (decision : PromotionDecision),
    engine.state.decisions[id]? = some decision → decision.gates ≠ [] →
      ∃ step ∈ past, ∃ rule, EvaluatesUnder step id rule

theorem evaluateFresh_listed_once {result : EvaluationResult}
    (answered : engine.evaluateFresh request now = (.ok result, next)) :
    ListedOnce engine.state request result.decision.gates := by
  unfold evaluateFresh at answered
  cases found : engine.state.findRevision request.artifact request.expectedRevision with
  | none =>
      rw [found] at answered
      cases answered
      exact .none
  | some artifact =>
      rw [found] at answered
      dsimp only at answered
      split at answered
      · cases answered
        exact .none
      · have once : ListedOnce engine.state.openDecision request
            (decideTransition engine.config engine.state.openDecision request artifact now
              (engine.fullDecision request artifact now)).decision.gates :=
          decideTransition_listed_once rfl
        have same : result.decision.gates =
            (decideTransition engine.config engine.state.openDecision request artifact now
              (engine.fullDecision request artifact now)).decision.gates := by
          cases answered
          rfl
        rw [same]
        exact once.opened

theorem releaseQuarantine_listed_once (id : ArtifactId) (authority : CoordinatorAuthority)
    (now later : UInt64) :
    (engine.releaseQuarantine id authority now later).2.state.decisions =
        engine.state.decisions ∨
      ∃ artifact decision, engine.state.findCurrent id = some artifact ∧
        (engine.releaseQuarantine id authority now later).2.state.decisions =
          engine.state.decisions.insert decision.id decision ∧
        ListedOnce engine.state (releaseRequest engine.state id artifact) decision.gates := by
  unfold releaseQuarantine
  split
  · exact .inl rfl
  split
  · exact .inl rfl
  rename_i artifact found
  split
  · exact .inl rfl
  split
  · exact .inl rfl
  refine .inr ⟨artifact, ?_⟩
  let bumped := { engine.state.openDecision with
    internalRequestGenerator := engine.state.internalRequestGenerator.advance
    internalAttemptGenerator := engine.state.internalAttemptGenerator.advance }
  have once : ListedOnce bumped (releaseRequest engine.state id artifact)
      (evaluateGates engine.config bumped (releaseRequest engine.state id artifact) now
        (releaseDecision engine.state id artifact
          (releaseRequest engine.state id artifact))).decision.gates :=
    evaluateGates_listed_once rfl
  dsimp only
  split
  · exact ⟨_, found, rfl, once.bounded, once.governed⟩
  · exact ⟨_, found, rfl, once.bounded, once.governed⟩

theorem step_opens_decision (sound : engine.Sound) {op : Op} {reply : Reply}
    (moved : engine.step op = some (reply, next)) {id : PromotionDecisionId}
    {decision : PromotionDecision} (fresh : engine.state.decisions[id]? = none)
    (stored : next.state.decisions[id]? = some decision) :
    ∃ request, engine.Asks op request ∧ ListedOnce engine.state request decision.gates := by
  have absent : engine.control.decisions[id]? = none := fresh
  have stored : next.control.decisions[id]? = some decision := stored
  have kept (same : next.control.decisions = engine.control.decisions) : False := by
    rw [same, absent] at stored
    cases stored
  have opened {made : PromotionDecision}
      (changed : next.control.decisions = engine.control.decisions.insert made.id made) :
      decision = made := by
    rw [changed] at stored
    rcases OrderedMaps.insert_cases stored with ⟨_, same⟩ | ⟨_, old⟩
    · exact same
    · rw [absent] at old
      cases old
  have taken {plan : PromotionPlan} {made : PromotionDecision}
      (planned : engine.control.plans[plan.id]? = some plan)
      (changed : next.control.decisions = engine.control.decisions.insert plan.decision made) :
      False := by
    obtain ⟨old, held⟩ := held_decision (sound.coherent.plans plan.id plan planned).2.2.2
    rw [changed] at stored
    rcases OrderedMaps.insert_cases stored with ⟨rfl, _⟩ | ⟨_, old⟩
    · rw [absent] at held
      cases held
    · rw [absent] at old
      cases old
  have evaluated {request : PromotionRequest} {now : UInt64} {result : EvaluationResult}
      {made : PromotionDecision}
      (moved : engine.step (.evaluate request now) = some (.evaluated (.ok result), next))
      (answers : result.decision = made)
      (changed : next.control.decisions = engine.control.decisions.insert made.id made) :
      ∃ asked, engine.Asks (.evaluate request now) asked ∧
        ListedOnce engine.state asked decision.gates := by
    rw [opened changed, ← answers]
    refine ⟨request, .evaluate request now, ?_⟩
    rcases (evaluate_exits sound (evaluated_answer moved)).2 with
      ⟨_, _, _, _, _, same⟩ | ⟨_, answered⟩
    · exact (kept (by rw [same])).elim
    · exact evaluateFresh_listed_once answered
  cases step_effect moved with
  | undecided _ opens _ changed =>
      have decisions := congrArg Control.decisions changed
      exact evaluated moved opens.answered decisions
  | decided _ _ opens _ _ _ changed =>
      have decisions := congrArg Control.decisions changed
      exact evaluated moved opens.answered decisions
  | issued _ _ _ _ opens _ changed =>
      have decisions := congrArg Control.decisions changed
      exact evaluated moved opens.answered decisions
  | @releaseRefused id authority now later | @released id authority now later =>
      have answered := mutated_next (step_eq_some moved).1
      rcases @releaseQuarantine_listed_once engine id authority now later with
        same | ⟨artifact, made, found, changed, once⟩
      · rw [answered] at same
        exact (kept same).elim
      · rw [answered] at changed
        rw [opened changed]
        exact ⟨_, .release authority now later found, once⟩
  | closed released _ planned _ _ changed =>
      cases released with
      | true =>
          have decisions := congrArg Control.decisions changed
          exact (taken planned decisions).elim
      | false =>
          have decisions := congrArg Control.decisions changed
          exact (taken planned decisions).elim
  | committed accepts _ _ _ _ changed =>
      have decisions := congrArg Control.decisions changed
      exact (taken accepts.stored decisions).elim
  | reloaded decoded changed =>
      have same := (image_reloaded sound decoded changed).decisions
      rw [same, Std.ExtTreeMap.getElem?_map, absent] at stored
      cases stored
  | idle _ changed | published _ _ changed | restarted _ changed | recovered changed
  | compatibilityMoved _ changed | registrationRefused _ _ changed
  | registered _ _ _ _ _ _ _ changed | submitted _ _ _ _ changed
  | quarantined _ _ _ _ changed | revoked _ _ _ _ _ _ changed | superseded _ _ _ _ _ _ changed
  | retired _ _ _ changed | evidenceRevoked _ _ changed =>
      have decisions := congrArg Control.decisions changed
      exact (kept decisions).elim

theorem commit_keeps_gates {now : UInt64} {result : CommitResult} (admitted : engine.admissionOpen)
    (answered : engine.commit plan now = (.ok result, next))
    (once : ∀ rule, engine.Rechecks plan now rule →
      ¬(rule.requirements ≠ [] ∨ (engine.decisionOf plan).gates ≠ [])) :
    ∃ decision, next.state.decisions[plan.decision]? = some decision ∧
      decision.gates = (engine.decisionOf plan).gates := by
  obtain ⟨wellFormed, planned, exits⟩ := commit_exits answered
  have revalidated {artifact : ArtifactRecord}
      (revalidates : engine.Revalidates plan now artifact) :
      (engine.revalidation plan now).decision.gates = (engine.decisionOf plan).gates := by
    obtain ⟨listed, gates, bounded, governed⟩ := evaluateGates_lists engine.config engine.state
      (requestOfPlan plan) now (engine.decisionOf plan)
    have nothing : listed = [] := by
      by_contra something
      obtain ⟨rule, governs⟩ := governed something
      have few := bounded rule governs
      have many := List.length_pos_of_ne_nil something
      refine once rule ⟨admitted, wellFormed, planned, ⟨artifact, revalidates⟩, governs⟩ (.inl ?_)
      exact List.ne_nil_of_length_pos (by omega)
    rw [nothing, List.append_nil] at gates
    exact gates
  have stored {decision : PromotionDecision} (redecides : engine.Redecides plan decision next)
      (gates : decision.gates = (engine.decisionOf plan).gates) :
      ∃ decision, next.state.decisions[plan.decision]? = some decision ∧
        decision.gates = (engine.decisionOf plan).gates :=
    ⟨decision, by rw [redecides.stored, Std.ExtTreeMap.getElem?_insert_self], gates⟩
  cases exits with
  | stale _ redecides gates => exact stored redecides gates
  | missing _ redecides => exact stored redecides rfl
  | dropped _ _ _ _ redecides => exact stored redecides rfl
  | changed revalidates _ redecides gates =>
      exact stored redecides (gates.trans (revalidated revalidates))
  | refused revalidates _ _ redecides => exact stored redecides (revalidated revalidates)
  | applied revalidates _ redecides => exact stored redecides (revalidated revalidates)

theorem step_gates_kept (sound : engine.Sound) {op : Op} {reply : Reply}
    (moved : engine.step op = some (reply, next)) (once : ¬Relists ⟨engine, op, reply, next⟩)
    {id : PromotionDecisionId} {decision : PromotionDecision}
    (held : engine.state.decisions[id]? = some decision) :
    ∃ changed, next.state.decisions[id]? = some changed ∧
      changed.gates.length = decision.gates.length := by
  have committed {plan : PromotionPlan} {now : UInt64} {result : CommitResult}
      {changed : PromotionDecision} (admitted : engine.admissionOpen = true)
      (named : plan.decision = id) (found : next.state.decisions[id]? = some changed)
      (answered : engine.commit plan now = (.ok result, next))
      (once : ¬Relists ⟨engine, .commit plan now, reply, next⟩) :
      changed.gates.length = decision.gates.length := by
    subst named
    have guarded (rule : PolicyRule) (rechecks : engine.Rechecks plan now rule) :
        ¬(rule.requirements ≠ [] ∨ (engine.decisionOf plan).gates ≠ []) :=
      fun lists => once ⟨plan, now, rule, rfl, rechecks, lists⟩
    obtain ⟨made, stored, gates⟩ := commit_keeps_gates admitted answered guarded
    rw [decisionOf_held held] at gates
    obtain rfl := Option.some.inj (stored.symm.trans found)
    rw [gates]
  obtain ⟨changed, found, redecided⟩ := step_decision sound moved held
  refine ⟨changed, found, ?_⟩
  cases redecided with
  | kept => rfl
  | restored => simp [PromotionDecision.restored]
  | refused named _ rewrites =>
      exact committed rewrites.admitted named found (committed_answer moved) once
  | applied named accepts =>
      exact committed accepts.admitted named found (committed_answer moved) once

/-- What an executed past without such commits leaves behind: the decisions that were evaluated are
stored, and they list each gate once. -/
structure Counted (past : List EngineStep) (engine : Engine) : Prop extends
    GatesOnce past engine where
  known : ∀ step ∈ past, ∀ id rule, EvaluatesUnder step id rule →
    ∃ decision, engine.state.decisions[id]? = some decision

theorem Asks.unique {op : Op} {request other : PromotionRequest} (asks : engine.Asks op request)
    (again : engine.Asks op other) : other = request := by
  cases asks with
  | evaluate =>
      cases again
      rfl
  | release _ _ _ found =>
      cases again with
      | release _ _ _ foundAgain =>
          obtain rfl := Option.some.inj (found.symm.trans foundAgain)
          rfl

theorem step_counted (sound : engine.Sound) {op : Op} {reply : Reply} {past : List EngineStep}
    (moved : engine.step op = some (reply, next)) (once : ¬Relists ⟨engine, op, reply, next⟩)
    (counted : Counted past engine) : Counted (past ++ [⟨engine, op, reply, next⟩]) next := by
  have rechecked {id : PromotionDecisionId} {rule : PolicyRule}
      (evaluates : EvaluatesUnder ⟨engine, op, reply, next⟩ id rule)
      {old : PromotionDecision} (held : engine.state.decisions[id]? = some old) :
      old.gates = [] := by
    cases evaluates with
    | opened _ fresh =>
        rw [held] at fresh
        cases fresh
    | rechecked rechecks =>
        by_contra listed
        rw [← decisionOf_held held] at listed
        exact once ⟨_, _, _, rfl, rechecks, .inr listed⟩
  refine ⟨⟨?_, ?_⟩, ?_⟩
  · intro id decision stored step executed rule evaluates
    cases before : engine.state.decisions[id]? with
    | some old =>
        obtain ⟨changed, found, gates⟩ := step_gates_kept sound moved once before
        obtain rfl := Option.some.inj (found.symm.trans stored)
        rw [gates]
        rcases List.mem_append.mp executed with earlier | last
        · exact counted.bounded id old before step earlier rule evaluates
        · rw [List.mem_singleton.mp last] at evaluates
          simp [rechecked evaluates before]
    | none =>
        obtain ⟨request, asks, listed⟩ := step_opens_decision sound moved before stored
        rcases List.mem_append.mp executed with earlier | last
        · obtain ⟨old, held⟩ := counted.known step earlier id rule evaluates
          rw [before] at held
          cases held
        · rw [List.mem_singleton.mp last] at evaluates
          cases evaluates with
          | opened again _ _ governs =>
              rw [asks.unique again] at governs
              exact listed.bounded rule governs
          | rechecked rechecks =>
              have held := plan_decision_held sound rechecks.stored
              rw [before] at held
              cases held
  · intro id decision stored listed
    cases before : engine.state.decisions[id]? with
    | some old =>
        obtain ⟨changed, found, gates⟩ := step_gates_kept sound moved once before
        obtain rfl := Option.some.inj (found.symm.trans stored)
        have earlier : old.gates ≠ [] := by
          rwa [← List.length_pos_iff, ← gates, List.length_pos_iff]
        obtain ⟨step, executed, rule, evaluates⟩ := counted.accounted id old before earlier
        exact ⟨step, List.mem_append_left _ executed, rule, evaluates⟩
    | none =>
        obtain ⟨request, asks, once⟩ := step_opens_decision sound moved before stored
        obtain ⟨rule, governs⟩ := once.governed listed
        exact ⟨_, List.mem_append_right _ (List.mem_singleton_self _), rule,
          .opened asks before stored governs⟩
  · intro step executed id rule evaluates
    rcases List.mem_append.mp executed with earlier | last
    · obtain ⟨old, held⟩ := counted.known step earlier id rule evaluates
      obtain ⟨changed, found, _⟩ := step_gates_kept sound moved once held
      exact ⟨changed, found⟩
    · rw [List.mem_singleton.mp last] at evaluates
      cases evaluates with
      | opened _ _ stored => exact ⟨_, stored⟩
      | rechecked rechecks =>
          have held := plan_decision_held sound rechecks.stored
          obtain ⟨changed, found, _⟩ := step_gates_kept sound moved once held
          exact ⟨changed, found⟩

theorem run_counted {start final : Engine} {trace : List EngineStep}
    (constructed : Constructed start) (run : EngineRun start trace final) :
    (∀ step ∈ trace, ¬Relists step) → Counted trace final := by
  refine run.byHistory (fun past engine => (∀ step ∈ past, ¬Relists step) → Counted past engine)
    ?_ ?_
  · intro _
    obtain ⟨config, epoch, salting, naming, rfl⟩ := constructed
    refine ⟨⟨?_, ?_⟩, by simp⟩
    · intro id decision held
      exact (no_entry rfl held).elim
    · intro id decision held
      exact (no_entry rfl held).elim
  · intro past before op reply after reached earlier moved condition
    have sound := EngineRun.sound reached constructed.sound
    have counted := earlier fun step inside => condition step (List.mem_append_left _ inside)
    exact step_counted sound moved (condition _ (by simp)) counted

/-- While no commit lists gates again, every stored decision of a reachable state lists each gate
once. -/
theorem run_gates_once {start final : Engine} {trace : List EngineStep}
    (constructed : Constructed start) (run : EngineRun start trace final)
    (condition : ∀ step ∈ trace, ¬Relists step) : GatesOnce trace final :=
  (run_counted constructed run condition).toGatesOnce

def gatedPolicy : PromotionPolicy :=
  { directPolicy with
    rules := [{ source := .candidate, target := .promoted, requirements :=
      [makeSimpleGate .securityVetoClear "no security veto"] }] }

def evaluatedChoices : List (Engine → Op) :=
  [fun _ => .publishPolicy gatedPolicy,
    fun _ => .registerArtifact (sampleRegistration 1) 0,
    fun engine => .evaluate (engine.sampleRequest .promoted 1) 0]

def commits (step : EngineStep) : Bool :=
  match step.input with
  | .commit _ _ => true
  | _ => false

theorem commits_of_relists {step : EngineStep} (relists : Relists step) : commits step = true := by
  obtain ⟨plan, now, rule, input, _, _⟩ := relists
  rw [commits, input]

def listsUncommitted (played : List EngineStep × Engine) : Bool :=
  (played.1.all fun step => !commits step) &&
    played.2.state.decisions.toList.any fun stored => stored.2.gates.length == 1

theorem run_gates_once_gated :
    ∃ (trace : List EngineStep) (final : Engine) (id : PromotionDecisionId)
      (decision : PromotionDecision), EngineRun sampleEngine trace final ∧
      final.state.decisions[id]? = some decision ∧ decision.gates.length = 1 ∧
      GatesOnce trace final := by
  have evaluated : (play step sampleEngine evaluatedChoices).any listsUncommitted = true := by
    decide +kernel
  obtain ⟨trace, final, run, checked⟩ := run_of_checked evaluated
  simp only [listsUncommitted, Bool.and_eq_true, List.all_eq_true, Bool.not_eq_true',
    List.any_eq_true, beq_iff_eq] at checked
  obtain ⟨uncommitted, ⟨id, decision⟩, stored, listed⟩ := checked
  have held := Std.ExtTreeMap.mem_toList_iff_getElem?_eq_some.mp stored
  refine ⟨trace, final, id, decision, run, held, listed,
    run_gates_once sampleEngine_constructed run ?_⟩
  intro step executed relists
  have never := uncommitted step executed
  rw [commits_of_relists relists] at never
  cases never

def gatedChoices : List (Engine → Op) :=
  [fun _ => .publishPolicy gatedPolicy,
    fun _ => .registerArtifact (sampleRegistration 1) 0,
    fun engine => .evaluate (engine.sampleRequest .promoted 1) 0,
    fun engine => .commit (engine.planFor 1) 0]

def overlists (final : Engine) (step : EngineStep) : Bool :=
  match step.input with
  | .evaluate request _ =>
      let id := step.before.state.decisionGenerator.next
      (step.before.state.decisions[id]?).isNone && (step.after.state.decisions[id]?).isSome &&
        (step.before.state.findRevision request.artifact request.expectedRevision).any
          fun artifact => (step.before.state.policy.findRule artifact.kind artifact.stage
            request.requestedStage).any fun rule =>
              (final.state.decisions[id]?).any fun decision =>
                rule.requirements.length < decision.gates.length
  | _ => false

theorem committed_gates_listed_twice :
    ∃ (trace : List EngineStep) (final : Engine), EngineRun sampleEngine trace final ∧
      ¬GatesOnce trace final := by
  have evaluated : ((play step sampleEngine gatedChoices).any fun played =>
      played.1.any (overlists played.2)) = true := by
    decide +kernel
  obtain ⟨trace, final, run, checked⟩ := run_of_checked evaluated
  obtain ⟨⟨before, op, reply, after⟩, executed, overlists⟩ := List.any_eq_true.mp checked
  refine ⟨trace, final, run, fun once => ?_⟩
  unfold Engine.overlists at overlists
  split at overlists
  · rename_i request now input
    simp only [Bool.and_eq_true, Option.isNone_iff_eq_none, Option.isSome_iff_exists,
      Option.any_eq_true, decide_eq_true_eq] at overlists
    obtain ⟨⟨fresh, decision, stored⟩, artifact, found, rule, governed, listed, held, more⟩ :=
      overlists
    have input : op = .evaluate request now := input
    have evaluates : EvaluatesUnder ⟨before, op, reply, after⟩ _ rule :=
      .opened (input ▸ .evaluate request now) fresh stored ⟨artifact, found, governed⟩
    have few := once.bounded _ listed held _ executed rule evaluates
    omega
  · cases overlists

end Engine

end ArtifactPromotion
