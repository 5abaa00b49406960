import ArtifactPromotion.Domain.SpineOrders

/-! What graph validation accepts: the reachability checks are exact, and the cycle check rejects a
graph if and only if the edges out of QUARANTINED leave a set of its stages tied. -/

namespace ArtifactPromotion

open Orderings

namespace LifecycleGraph

variable {graph : LifecycleGraph} {entry stage : Stage}

theorem validate_verdict (shaped : graph.Shaped entry) (known : entry ∈ knownStages) :
    ∃ verdict, graph.validate entry = some verdict ∧
      (verdict = .ok () ↔ graph.Connected entry ∧ ∀ stages, ¬graph.Tied stages) := by
  have staged := shaped.staged
  obtain ⟨adjacency, reverse, linked, arrays⟩ := links_linked staged
  obtain ⟨forward, reached, traversed, forwards, inside, reaches⟩ := forward_marks arrays known
  obtain ⟨backward, exiting, searched, backwards, exits⟩ := backward_marks arrays
  obtain ⟨placed, checked, means⟩ := checkReach_verdict arrays forwards backwards
    fun stage (known : stage ∈ knownStages) => known
  rw [connected_placeable staged reaches exits] at means
  unfold validate
  rw [checkShape_iff.mpr shaped]
  simp only [linked, traversed, searched, checked, Option.bind_eq_bind, Option.bind_some,
    Option.pure_def]
  cases placed with
  | error status =>
      have unconnected : ¬graph.Connected entry := fun connected => nomatch means.mpr connected
      exact ⟨_, rfl, by simp [unconnected]⟩
  | ok value =>
      have connected : graph.Connected entry := means.mp rfl
      have covers : graph.Covers reached := fun edge follows =>
        ⟨(reaches _).mpr (connected.reached _ ⟨_, .inl follows⟩),
          (reaches _).mpr (connected.reached _ ⟨_, .inr follows⟩)⟩
      obtain ⟨ordered, counts, complete⟩ :=
        topologicallyOrdered_complete arrays.outs forwards inside
      have exit := connected.exit shaped.nonempty
      dsimp only
      rw [counts]
      simp only [Option.bind_some]
      refine ⟨_, rfl, ?_⟩
      simp only [bind_eq_ok, rejectWhen_eq_ok, marks_count forwards inside, exit, bne_eq_false_iff_eq,
        complete, connected, true_and, Bool.not_true, and_true, exists_const]
      constructor
      · intro free stages tied
        obtain ⟨nonempty, knot⟩ := (tied_knot covers).mp tied
        exact free stages nonempty knot
      · intro free knot nonempty tied
        exact free knot ((tied_knot covers).mpr ⟨nonempty, tied⟩)

theorem validate_iff : graph.validate entry = some (.ok ()) ↔
    graph.Shaped entry ∧ entry ∈ knownStages ∧ graph.Connected entry ∧
      ∀ stages, ¬graph.Tied stages := by
  constructor
  · intro validated
    have shaped := validate_shaped validated
    have known := mem_knownStages.mpr (validate_entry validated)
    obtain ⟨verdict, same, means⟩ := validate_verdict shaped known
    have passed : verdict = .ok () := Option.some.inj (same.symm.trans validated)
    exact ⟨shaped, known, means.mp passed⟩
  · rintro ⟨shaped, known, passes⟩
    obtain ⟨verdict, same, means⟩ := validate_verdict shaped known
    rw [same, means.mpr passes]

/-- An edge that does not leave QUARANTINED. -/
def Spine (graph : LifecycleGraph) (source target : Stage) : Prop :=
  graph.Follows source target ∧ isHoldingStage source = false

def SpineAcyclic (graph : LifecycleGraph) : Prop :=
  ∀ stage, ¬Relation.TransGen graph.Spine stage stage

def occurring (graph : LifecycleGraph) : Finset Stage :=
  (graph.edges.map Edge.source ++ graph.edges.map Edge.target).toFinset

theorem occurring_covers (graph : LifecycleGraph) : graph.Covers graph.occurring := by
  intro edge inside
  rw [occurring, List.mem_toFinset, List.mem_toFinset]
  exact ⟨List.mem_append_left _ (List.mem_map_of_mem inside),
    List.mem_append_right _ (List.mem_map_of_mem inside)⟩

theorem SpineAcyclic.untied (acyclic : graph.SpineAcyclic) (stages : Finset Stage) :
    ¬graph.Tied stages := by
  intro tied
  obtain ⟨nonempty, knot⟩ := (tied_knot graph.occurring_covers).mp tied
  obtain ⟨stage, cycle⟩ := knot.cycle (Finset.filter_subset _ _) nonempty
  refine acyclic stage (cycle.lift id fun source target step => ?_)
  obtain ⟨counts, follows⟩ := step
  exact ⟨mem_successors.mp follows, by simpa using (Finset.mem_filter.mp counts).2⟩

/-- Over a well-formed graph, reachability is checked exactly. -/
theorem validate_reachability (shaped : graph.Shaped entry)
    (known : isValidStageValue entry.index = true) :
    (graph.validate entry = some (.ok ()) → graph.Connected entry) ∧
      (graph.Connected entry → graph.SpineAcyclic → graph.validate entry = some (.ok ())) := by
  rw [validate_iff]
  constructor
  · rintro ⟨_, _, connected, _⟩
    exact connected
  · intro connected acyclic
    exact ⟨shaped, mem_knownStages.mpr known, connected, acyclic.untied⟩

/-- A validated graph has an acyclic spine, unless the edges out of QUARANTINED untie every cycle. -/
theorem validate_acyclic_iff (graph : LifecycleGraph) (entry : Stage) :
    (graph.validate entry = some (.ok ()) → graph.SpineAcyclic) ↔
      (graph.Shaped entry → isValidStageValue entry.index = true → graph.Connected entry →
        ¬graph.SpineAcyclic → ∃ stages, graph.Tied stages) := by
  rw [validate_iff, mem_knownStages]
  constructor
  · intro acyclic shaped known connected cyclic
    by_contra untied
    push Not at untied
    exact cyclic (acyclic ⟨shaped, known, connected, untied⟩)
  · rintro ties ⟨shaped, known, connected, untied⟩
    by_contra cyclic
    obtain ⟨stages, tied⟩ := ties shaped known connected cyclic
    exact untied stages tied

theorem countP_lt {fewer more : Edge → Bool} {edges : List Edge} {edge : Edge}
    (within : ∀ edge ∈ edges, fewer edge = true → more edge = true) (inside : edge ∈ edges)
    (counts : more edge = true) (skips : ¬fewer edge = true) :
    edges.countP fewer < edges.countP more := by
  obtain ⟨before, after, rfl⟩ := List.append_of_mem inside
  have left : before.countP fewer ≤ before.countP more :=
    List.countP_mono_left fun edge earlier => within edge (List.mem_append_left _ earlier)
  have right : after.countP fewer ≤ after.countP more :=
    List.countP_mono_left fun edge later =>
      within edge (List.mem_append_right _ (List.mem_cons_of_mem _ later))
  rw [List.countP_append, List.countP_append, List.countP_cons_of_pos counts,
    List.countP_cons_of_neg skips]
  omega

theorem cycle_tied (free : ∀ target, graph.Follows .quarantined target →
      ¬Relation.TransGen graph.Spine target target)
    (cyclic : ¬graph.SpineAcyclic) : ∃ stages, graph.Tied stages := by
  classical
  obtain ⟨first, cycle⟩ := not_forall_not.mp cyclic
  -- The last edge into a stage on a cycle leaves another stage on that cycle.
  have last {stage : Stage} (cycle : Relation.TransGen graph.Spine stage stage) :
      ∃ before, graph.Spine before stage ∧ Relation.TransGen graph.Spine before before := by
    obtain ⟨before, leads, step⟩ := Relation.TransGen.tail'_iff.mp cycle
    exact ⟨before, step, Relation.TransGen.head' step leads⟩
  let stages := graph.occurring.filter fun stage => Relation.TransGen graph.Spine stage stage
  have held {stage : Stage} : stage ∈ stages ↔ Relation.TransGen graph.Spine stage stage := by
    refine ⟨fun inside => (Finset.mem_filter.mp inside).2, fun cycle => ?_⟩
    obtain ⟨before, step, _⟩ := last cycle
    exact Finset.mem_filter.mpr ⟨(graph.occurring_covers _ step.1).2, cycle⟩
  refine ⟨stages, ⟨first, held.mpr cycle⟩, fun stage inside => ?_⟩
  obtain ⟨before, step, onCycle⟩ := last (held.mp inside)
  refine countP_lt (fun edge follows leads => ?_) step.1 (by simp [step.2]) ?_
  · rw [decide_eq_true_eq] at leads ⊢
    obtain ⟨rfl, _⟩ := leads
    refine ⟨rfl, ?_⟩
    by_contra holding
    have quarantined : edge.source = .quarantined := by simpa [isHoldingStage] using holding
    refine free edge.target ?_ (held.mp inside)
    rw [← quarantined]
    exact follows
  · simp [held.mpr onCycle]

theorem validated_acyclic (validated : graph.validate entry = some (.ok ()))
    (free : ∀ target, graph.Follows .quarantined target →
      ¬Relation.TransGen graph.Spine target target) : graph.SpineAcyclic := by
  by_contra cyclic
  obtain ⟨stages, tied⟩ := cycle_tied free cyclic
  exact (validate_iff.mp validated).2.2.2 stages tied

theorem reference_connected : reference.Connected .candidate := by
  have validated : reference.validate .candidate = some (.ok ()) := by decide +kernel
  exact (validate_reachability (validate_shaped validated) (by decide)).1 validated

def releasedIntoCycle : LifecycleGraph :=
  ⟨[⟨.candidate, .quarantined⟩, ⟨.verified, .qualified⟩, ⟨.verified, .revoked⟩,
    ⟨.qualified, .verified⟩, ⟨.quarantined, .verified⟩]⟩

theorem quarantine_unties_cycle : ∃ (graph : LifecycleGraph) (entry : Stage),
    graph.validate entry = some (.ok ()) ∧ ¬graph.SpineAcyclic := by
  refine ⟨releasedIntoCycle, .candidate, by decide +kernel, fun acyclic => ?_⟩
  have out : releasedIntoCycle.Spine .verified .qualified := by simp [Spine, Follows,
    releasedIntoCycle, isHoldingStage]
  have back : releasedIntoCycle.Spine .qualified .verified := by simp [Spine, Follows,
    releasedIntoCycle, isHoldingStage]
  exact acyclic .verified (.tail (.single out) back)

end LifecycleGraph

end ArtifactPromotion
