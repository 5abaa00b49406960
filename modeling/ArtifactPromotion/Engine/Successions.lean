import ArtifactPromotion.Engine.RevisionChains
import ArtifactPromotion.Library.Forwarding

/-! Whether following the supersession links of a revision comes to an end. -/

namespace ArtifactPromotion

open Runs Forwarding IdentityGenerator

def CoordinatorState.successorOf (state : CoordinatorState)
    (node : ArtifactId × ArtifactRevision) : Option (ArtifactId × ArtifactRevision) :=
  (state.findRevision node.1 node.2).bind fun record =>
    if record.supersession.active then
      some (record.supersession.successor, record.supersession.successorRevision)
    else none

namespace Engine

variable {engine next : Engine}

/-- The links never return to a revision, and from every revision they lead to one that is not
superseded. -/
structure SuccessionsEnd (engine : Engine) : Prop where
  acyclic : ∀ node, ¬Relation.TransGen (Follows engine.state.successorOf) node node
  ends : ∀ (id : ArtifactId) (record : ArtifactRecord), record ∈ engine.state.chain id →
    ∃ last lastRecord,
      Relation.ReflTransGen (Follows engine.state.successorOf) (id, record.revision) last ∧
        engine.state.findRevision last.1 last.2 = some lastRecord ∧
        lastRecord.supersession.active = false

def relinks : Op → Option ArtifactId
  | .registerArtifact registration _ => some registration.id
  | .supersede id _ _ _ _ => some id
  | _ => none

/-- The operation supersedes a revision by one whose successors lead back to it. -/
inductive ClosesLoop (engine : Engine) : Op → Prop
  | supersede {id successor reason authority now} (artifact successorRecord : ArtifactRecord)
      (supersedes : engine.Supersedes id successor authority artifact successorRecord)
      (leads : Relation.ReflTransGen (Follows engine.state.successorOf)
        (successor, successorRecord.revision) (id, artifact.revision)) :
      ClosesLoop engine (.supersede id successor reason authority now)

theorem revised_successor {id : ArtifactId} {index : Nat} {op : Op} {reply : Reply}
    {record revised : ArtifactRecord} (change : Revised engine id index op reply record revised) :
    (revised.supersession.active = record.supersession.active ∧
        revised.supersession.successor = record.supersession.successor ∧
        revised.supersession.successorRevision = record.supersession.successorRevision) ∨
      (engine.Current id index ∧ relinks op = some id) := by
  cases change with
  | applied named first accepts =>
      obtain ⟨_, _, _, _, same⟩ := promotedArtifact_eq engine.state.advanceSequence _ record
      rw [same]
      exact .inl ⟨rfl, rfl, rfl⟩
  | overtaken state revision named current fresh => exact .inr ⟨current, congrArg some named⟩
  | superseded successorRecord current => exact .inr ⟨current, rfl⟩
  | _ => exact .inl ⟨rfl, rfl, rfl⟩

theorem step_successorOf (sound : engine.Sound) {op : Op} {reply : Reply}
    (moved : engine.step op = some (reply, next)) {node : ArtifactId × ArtifactRevision}
    (other : ∀ current, relinks op = some node.1 → engine.state.findCurrent node.1 = some current →
      node.2 ≠ current.revision) :
    next.state.successorOf node = engine.state.successorOf node := by
  unfold CoordinatorState.successorOf
  cases found : engine.state.findRevision node.1 node.2 with
  | some record =>
      obtain ⟨revised, still, position, _, change⟩ := step_findRevision sound moved found
      rw [still, Option.bind_some, Option.bind_some]
      rcases revised_successor change with ⟨active, successor, revision⟩ | ⟨current, linked⟩
      · rw [active, successor, revision]
      · have last := current_found current position
        exact absurd (findRevision_mem found).2.symm (other record linked last)
  | none =>
      cases later : next.state.findRevision node.1 node.2 with
      | none => rfl
      | some record =>
          obtain ⟨inside, revision⟩ := findRevision_mem later
          obtain ⟨index, held⟩ := List.getElem?_of_mem inside
          rcases step_position sound moved held with ⟨old, before, change⟩ |
            ⟨registration, now, rfl, rfl, _, _⟩
          · have absent := List.find?_eq_none.mp found old (List.mem_of_getElem? before)
            rw [← revised_revision change, revision] at absent
            simp at absent
          · obtain ⟨_, _, _, _, made, _⟩ := registered_chain moved
            rw [made]
            rfl

theorem current_position {base : UInt64} (apart : engine.RevisionsApart base) {id : ArtifactId}
    {current : ArtifactRecord} (last : engine.state.findCurrent id = some current) :
    engine.state.findRevision id current.revision = some current ∧
      engine.revisionIndex id current.revision + 1 = (engine.state.chain id).length := by
  obtain ⟨held, found⟩ := current_revision_found last
  have revision := (findRevision_mem found).2
  have inside : current ∈ engine.state.chain id := List.mem_of_getLast? last
  have positive := List.length_pos_of_mem inside
  have position : (engine.state.chain id)[engine.revisionIndex id current.revision]? =
      some held := by
    have same (index : Nat) (item : ArtifactRecord)
        (present : (engine.control.chain id)[index]? = some item) :
        ∃ changed, (engine.control.chain id)[index]? = some changed ∧
          (changed.revision == current.revision) = (item.revision == current.revision) :=
      ⟨item, present, rfl⟩
    exact (find?_positions same found).1
  have newest : (engine.state.chain id)[(engine.state.chain id).length - 1]? = some current := by
    rw [← List.getLast?_eq_getElem?]
    exact last
  obtain ⟨_, index⟩ := apart.apart id id _ _ held current position newest revision
  rw [index, newest, Option.some.injEq] at position
  rw [← position] at found
  exact ⟨found, by omega⟩

theorem step_current {base : UInt64} (sound : engine.Sound) (apart : engine.RevisionsApart base)
    {op : Op} {reply : Reply} (moved : engine.step op = some (reply, next)) {id : ArtifactId}
    {current : ArtifactRecord} (last : engine.state.findCurrent id = some current) :
    ∃ (index : Nat) (revised : ArtifactRecord), index + 1 = (engine.state.chain id).length ∧
      (engine.state.chain id)[index]? = some current ∧
      (next.state.chain id)[index]? = some revised ∧
      next.state.findRevision id current.revision = some revised := by
  obtain ⟨found, length⟩ := current_position apart last
  obtain ⟨revised, still, position, later, _⟩ := step_findRevision sound moved found
  exact ⟨_, revised, length, position, later, still⟩

theorem superseded_successor {base : UInt64} (sound : engine.Sound)
    (apart : engine.RevisionsApart base) {id successor : ArtifactId} {reason : Text}
    {authority : CoordinatorAuthority} {now : UInt64} {reply : Reply}
    (moved : engine.step (.supersede id successor reason authority now) = some (reply, next))
    {artifact successorRecord : ArtifactRecord}
    (supersedes : engine.Supersedes id successor authority artifact successorRecord) :
    next.state.successorOf (id, artifact.revision) =
      some (successor, successorRecord.revision) := by
  obtain ⟨index, revised, length, before, after, found⟩ :=
    step_current sound apart moved supersedes.found
  have applied := supersedes_applies supersedes reason now
  rw [mutated_next (step_eq_some moved).1] at applied
  have nonempty : engine.state.chain id ≠ [] := List.ne_nil_of_mem (List.mem_of_getElem? before)
  rw [chain_replaceCurrent applied, getElem?_dropLast_append nonempty, if_pos length,
    Option.some.injEq] at after
  rw [CoordinatorState.successorOf, found, ← after]
  rfl

theorem registered_successor {base : UInt64} (sound : engine.Sound)
    (apart : engine.RevisionsApart base) {registration : ArtifactRegistration} {now : UInt64}
    {added : ArtifactRecord}
    (moved : engine.step (.registerArtifact registration now) =
      some (.registered (.ok added), next)) {previous : ArtifactRecord}
    (last : engine.state.findCurrent registration.id = some previous) :
    next.state.successorOf (registration.id, previous.revision) =
      some (registration.id, added.revision) := by
  obtain ⟨index, revised, length, before, after, found⟩ := step_current sound apart moved last
  obtain ⟨active, named, revision, _⟩ := registered_link moved before length after
  rw [CoordinatorState.successorOf, found, Option.bind_some, if_pos active, named, revision]

theorem registered_fresh {base : UInt64} (sound : engine.Sound)
    (apart : next.RevisionsApart base) {registration : ArtifactRegistration} {now : UInt64}
    {added : ArtifactRecord}
    (moved : engine.step (.registerArtifact registration now) =
      some (.registered (.ok added), next)) :
    engine.state.findRevision registration.id added.revision = none := by
  by_contra known
  obtain ⟨record, found⟩ := Option.ne_none_iff_exists'.mp known
  obtain ⟨inside, revision⟩ := findRevision_mem found
  obtain ⟨index, held⟩ := List.getElem?_of_mem inside
  have bound : index < (engine.state.chain registration.id).length :=
    (List.getElem?_eq_some_iff.mp held).1
  obtain ⟨revised, after, change⟩ := (step_chains sound moved).1 registration.id index record held
  obtain ⟨stamped, _, _, _, _, chains⟩ := registered_chain moved
  have length := supersededChain_length engine.state.advanceSequence
    engine.control.revisionGenerator.next registration.id (engine.state.chain registration.id)
  have newest : (next.state.chain registration.id)[(engine.state.chain registration.id).length]? =
      some added := by
    rw [chains, if_pos rfl, List.getElem?_append_right (by omega), length, Nat.sub_self]
    rfl
  have same := apart.apart registration.id registration.id index _ revised added after newest
    ((revised_revision change).trans revision)
  omega

theorem step_ends {base : UInt64} (sound : engine.Sound) (apart : engine.RevisionsApart base)
    (stillApart : next.RevisionsApart base) {op : Op} {reply : Reply}
    (moved : engine.step op = some (reply, next))
    (all : ∀ node, Ends engine.state.successorOf node) (opens : ¬engine.ClosesLoop op)
    (node : ArtifactId × ArtifactRevision) : Ends next.state.successorOf node := by
  have kept (same : ∀ node, next.state.successorOf node = engine.state.successorOf node) :
      Ends next.state.successorOf node := by
    rw [show next.state.successorOf = engine.state.successorOf from funext same]
    exact all node
  have others {id : ArtifactId} {current : ArtifactRecord} (linked : relinks op = some id)
      (last : engine.state.findCurrent id = some current)
      (node : ArtifactId × ArtifactRevision) (different : node ≠ (id, current.revision)) :
      next.state.successorOf node = engine.state.successorOf node := by
    apply step_successorOf sound moved
    intro record named found revision
    have id_eq : node.1 = id := Option.some.inj (named.symm.trans linked)
    rw [id_eq, last, Option.some.injEq] at found
    exact different (Prod.ext id_eq (revision.trans (by rw [found])))
  cases op with
  | supersede id successor reason authority now =>
      rcases supersede_supersedes id successor reason authority now with
        unchanged | ⟨artifact, successorRecord, supersedes⟩
      · rw [mutated_next (step_eq_some moved).1] at unchanged
        exact kept fun node => by rw [unchanged]
      · refine ends_relinked (others rfl supersedes.found)
          (superseded_successor sound apart moved supersedes) all ?_ node
        exact fun leads => opens (.supersede artifact successorRecord supersedes leads)
  | registerArtifact registration now =>
      cases last : engine.state.findCurrent registration.id with
      | none =>
          refine kept fun node => step_successorOf sound moved fun current named found => ?_
          have id_eq : registration.id = node.1 := Option.some.inj named
          rw [← id_eq, last] at found
          cases found
      | some previous =>
          generalize reply_eq : reply = answered at moved
          cases step_effect moved with
          | registered _ _ _ _ _ _ _ _ =>
              refine ends_relinked (others rfl last) (registered_successor sound apart moved last) all
                ?_ node
              intro leads
              -- The new revision had no link, so it could only lead to itself.
              have fresh := registered_fresh sound stillApart moved
              rcases Relation.ReflTransGen.cases_head leads with same | ⟨_, follows, _⟩
              · obtain ⟨held, found⟩ := current_revision_found last
                rw [← (Prod.mk.inj same).2, fresh] at found
                cases found
              · rw [Follows, CoordinatorState.successorOf, fresh] at follows
                cases follows
          | idle _ same =>
              refine kept fun node => ?_
              have chains : next.state.chain = engine.state.chain := by
                funext id
                change next.control.chain id = engine.control.chain id
                rw [same]
              simp only [CoordinatorState.successorOf, CoordinatorState.findRevision, chains]
          | registrationRefused _ _ changed =>
              refine kept fun node => ?_
              have chains : next.state.chain = engine.state.chain := by
                funext id
                have set := Control.chain_setChain engine.control registration.id id
                  (engine.control.chain registration.id)
                change next.control.chain id = engine.control.chain id
                rw [changed]
                refine set.trans ?_
                split
                · rename_i same
                  rw [same]
                · rfl
              simp only [CoordinatorState.successorOf, CoordinatorState.findRevision, chains]
  | _ => exact kept fun node => step_successorOf sound moved fun _ linked => by cases linked

theorem closed_loop {base : UInt64} (sound : engine.Sound) (apart : engine.RevisionsApart base)
    {op : Op} {reply : Reply} (moved : engine.step op = some (reply, next))
    (closes : engine.ClosesLoop op) : ¬next.SuccessionsEnd := by
  cases closes with
  | @supersede id successor reason authority now artifact successorRecord supersedes leads =>
      intro ends
      refine ends.acyclic (id, artifact.revision) (relinked_returns ?_ ?_
        (superseded_successor sound apart moved supersedes) leads)
      · intro node different
        apply step_successorOf sound moved
        intro current named found revision
        have id_eq : id = node.1 := Option.some.inj named
        rw [← id_eq, supersedes.found, Option.some.injEq] at found
        exact different (Prod.ext id_eq.symm (revision.trans (by rw [found])))
      · rw [CoordinatorState.successorOf, (current_position apart supersedes.found).1,
          Option.bind_some, if_neg (by rw [supersedes.unsuperseded]; simp)]

theorem successionsEnd_of_ends (resolves : engine.AllResolve)
    (all : ∀ node, Ends engine.state.successorOf node) : engine.SuccessionsEnd := by
  constructor
  case acyclic => exact fun node => (all node).never_returns
  case ends =>
    intro id record inside
    obtain ⟨last, path, final⟩ := (all (id, record.revision)).exists_last
    have start : ∃ held, engine.state.findRevision id record.revision = some held := by
      rw [← Option.isSome_iff_exists, CoordinatorState.findRevision, List.find?_isSome]
      exact ⟨record, inside, beq_self_eq_true _⟩
    have found : ∃ held, engine.state.findRevision last.1 last.2 = some held := by
      clear final
      induction path with
      | refl => exact start
      | tail _ follows ih =>
          obtain ⟨held, found⟩ := ih
          rw [Follows, CoordinatorState.successorOf, found, Option.bind_some] at follows
          split at follows
          · rename_i active
            cases follows
            exact (resolves _ held (findRevision_mem found).1).succeeded active
          · cases follows
    obtain ⟨held, found⟩ := found
    refine ⟨last, held, path, found, ?_⟩
    rw [CoordinatorState.successorOf, found, Option.bind_some] at final
    split at final
    · cases final
    · rename_i inactive
      simpa using inactive

/-- In every run with at most as many registrations as there are revision identities, every
succession of every state reached comes to an end exactly when no step closes a loop. -/
theorem run_successions_end_iff {start final : Engine} {trace : List EngineStep}
    (constructed : Constructed start) (run : EngineRun start trace final)
    (few : trace.countP (fun step => step.input.registers) ≤ kSpan * kSpan) :
    (∀ step ∈ trace, step.after.SuccessionsEnd) ↔
      ∀ step ∈ trace, ¬ClosesLoop step.before step.input := by
  constructor
  · intro ends step executed closes
    obtain ⟨past, future, rfl⟩ := List.append_of_mem executed
    obtain ⟨before, moved, _⟩ := run.cut
    rw [List.countP_append] at few
    have apart := run_revisions_apart constructed before (by omega)
    exact closed_loop (EngineRun.sound before constructed.sound) apart moved closes
      (ends step executed)
  · intro condition step executed
    obtain ⟨past, future, rfl⟩ := List.append_of_mem executed
    obtain ⟨before, moved, _⟩ := run.cut
    have through : EngineRun start (past ++ [step]) step.after :=
      before.append (.cons moved (.nil _))
    have part : (past ++ [step]).Sublist (past ++ step :: future) :=
      (List.Sublist.refl past).append (List.singleton_sublist.mpr List.mem_cons_self)
    refine successionsEnd_of_ends (reachable_resolve ⟨start, _, constructed, through⟩) ?_
    have kept := through.byHistory (fun past engine =>
      past.countP (fun step => step.input.registers) ≤ kSpan * kSpan →
        (∀ step ∈ past, ¬ClosesLoop step.before step.input) →
          ∀ node, Ends engine.state.successorOf node) ?_ ?_ ?_ ?_
    · exact kept
    · intro _ _ node
      obtain ⟨config, epoch, salting, naming, rfl⟩ := constructed
      refine .here ?_
      rw [CoordinatorState.successorOf, CoordinatorState.findRevision, create_chain]
      rfl
    · intro past engine op reply next reached earlier moved few opens
      have extended : EngineRun start (past ++ [⟨engine, op, reply, next⟩]) next :=
        reached.append (.cons moved (.nil _))
      have fewBefore : past.countP (fun step => step.input.registers) ≤ kSpan * kSpan := by
        rw [List.countP_append] at few
        omega
      exact step_ends (EngineRun.sound reached constructed.sound)
        (run_revisions_apart constructed reached fewBefore)
        (run_revisions_apart constructed extended few) moved
        (earlier fewBefore fun step inside => opens step (by simp [inside]))
        (opens ⟨engine, op, reply, next⟩ (by simp))
    · exact le_trans (List.Sublist.countP_le part) few
    · exact fun step inside => condition step (part.subset inside)

def supersedeChoices : List (Engine → Op) :=
  [fun _ => .publishPolicy retiringPolicy,
    fun _ => .registerArtifact (sampleRegistration 1) 0,
    fun _ => .registerArtifact { sampleRegistration 2 with id := ⟨0, 6⟩ } 0,
    fun engine => .supersede ⟨0, 5⟩ ⟨0, 6⟩ [] engine.state.authority 0]

def supersedesFresh (played : List EngineStep × Engine) : Bool :=
  (played.1.all fun step =>
    match step.input with
    | .supersede _ successor _ _ _ => (step.before.state.findCurrent successor).all fun record =>
        (step.before.state.successorOf (successor, record.revision)).isNone
    | _ => true) &&
  played.1.length ≤ 4 && (played.2.state.findCurrent ⟨0, 5⟩).any (·.supersession.active)

theorem run_successions_end_iff_superseded :
    ∃ (trace : List EngineStep) (final : Engine), EngineRun sampleEngine trace final ∧
      (final.state.findCurrent ⟨0, 5⟩).any (·.supersession.active) = true ∧
      ∀ step ∈ trace, step.after.SuccessionsEnd := by
  have evaluated : (play step sampleEngine supersedeChoices).any supersedesFresh = true := by
    decide +kernel
  obtain ⟨trace, final, run, checked⟩ := run_of_checked evaluated
  simp only [supersedesFresh, Bool.and_eq_true, List.all_eq_true, decide_eq_true_eq] at checked
  have few : trace.countP (fun step => step.input.registers) ≤ kSpan * kSpan := calc
    trace.countP (fun step => step.input.registers) ≤ trace.length := List.countP_le_length
    _ ≤ 4 := checked.1.2
    _ ≤ kSpan * kSpan := by decide
  refine ⟨trace, final, run, checked.2,
    (run_successions_end_iff sampleEngine_constructed run few).mpr ?_⟩
  intro step executed closes
  have fresh := checked.1.1 step executed
  cases closing : step.input with
  | supersede id successor reason authority now =>
      rw [closing] at closes fresh
      cases closes with
      | supersede artifact successorRecord supersedes leads =>
          dsimp only at fresh
          rw [supersedes.successorFound, Option.all_some, Option.isNone_iff_eq_none] at fresh
          rcases Relation.ReflTransGen.cases_head leads with same | ⟨_, follows, _⟩
          · exact supersedes.distinct (Prod.mk.inj same).1
          · rw [Follows, fresh] at follows
            cases follows
  | _ =>
      rw [closing] at closes
      cases closes

def supersedeBackChoices : List (Engine → Op) :=
  supersedeChoices ++ [fun engine => .supersede ⟨0, 6⟩ ⟨0, 5⟩ [] engine.state.authority 0]

def supersededInTurn (engine : Engine) : Bool :=
  (engine.state.findCurrent ⟨0, 5⟩).any fun first =>
    (engine.state.findCurrent ⟨0, 6⟩).any fun second =>
      engine.state.successorOf (⟨0, 5⟩, first.revision) == some (⟨0, 6⟩, second.revision) &&
        engine.state.successorOf (⟨0, 6⟩, second.revision) == some (⟨0, 5⟩, first.revision)

theorem supersession_returns : ∃ engine, Reachable engine ∧ ¬engine.SuccessionsEnd := by
  have evaluated : ((play step sampleEngine supersedeBackChoices).any fun played =>
      supersededInTurn played.2) = true := by
    decide +kernel
  obtain ⟨engine, reachable, checked⟩ :=
    Reachable.of_play supersededInTurn sampleEngine_constructed evaluated
  simp only [supersededInTurn, Option.any_eq_true, Bool.and_eq_true, beq_iff_eq] at checked
  obtain ⟨first, _, second, _, forth, back⟩ := checked
  exact ⟨engine, reachable, fun ends => ends.acyclic _ (.head forth (.single back))⟩

end Engine

end ArtifactPromotion
