import ArtifactPromotion.Domain.Reachability
import ArtifactPromotion.Library.Orderings
import Mathlib.Algebra.BigOperators.Group.Finset.Piecewise

/-! The topological count of graph validation. The in-degrees leave out the edges out of QUARANTINED,
but those edges count down like all others, so a cycle they lead into can be ordered. -/

namespace ArtifactPromotion

open Orderings

namespace LifecycleGraph

variable {graph : LifecycleGraph} {adjacency reverse : List (List Stage)} {entry stage : Stage}
  {forward : List Bool} {nodes : Finset Stage}

def counted (nodes : Finset Stage) : Finset Stage := nodes.filter fun stage => !isHoldingStage stage

theorem increments_tabulated {degrees : List Nat} {values : Stage → Nat} {nexts : List Stage}
    (known : ∀ next ∈ nexts, next ∈ knownStages) (tabulates : Tabulates degrees values) :
    ∃ after, nexts.foldlM (fun degrees next => do
        let degree ← cell degrees next
        setCell degrees next (degree + 1)) degrees = some after ∧
      Tabulates after fun stage => values stage + nexts.count stage := by
  induction nexts generalizing degrees values with
  | nil => exact ⟨degrees, rfl, tabulates.congr fun stage => by simp⟩
  | cons next rest ih =>
      have indexed := known_indexed (known next List.mem_cons_self)
      obtain ⟨changed, set, tabulated⟩ := tabulates.setCell indexed (values next + 1)
      obtain ⟨after, later, tabulated⟩ :=
        ih (fun other inside => known other (List.mem_cons_of_mem _ inside)) tabulated
      refine ⟨after, ?_, tabulated.congr (spent_cons values next rest)⟩
      rw [List.foldlM_cons]
      simp only [tabulates.cells next indexed, Option.bind_eq_bind, Option.bind_some, set]
      exact later

theorem degrees_tabulated (listed : Lists adjacency graph.successors)
    (marks : Marks forward nodes) {stages : List Stage} (distinct : stages.Nodup)
    (indexed : ∀ stage ∈ stages, stage.index < kStageCount) {degrees : List Nat}
    {values : Stage → Nat} (tabulates : Tabulates degrees values) :
    ∃ after, stages.foldlM (fun degrees stage => do
        let reached ← cell forward stage
        if !reached || isHoldingStage stage then return degrees
        let nexts ← cell adjacency stage
        nexts.foldlM (fun degrees next => do
          let degree ← cell degrees next
          setCell degrees next (degree + 1)) degrees) degrees = some after ∧
      Tabulates after fun stage => values stage +
        incoming graph.successors (stages.toFinset ∩ counted nodes) stage := by
  induction stages generalizing degrees values with
  | nil => exact ⟨degrees, rfl, tabulates.congr fun stage => by simp [incoming]⟩
  | cons stage rest ih =>
      obtain ⟨fresh, distinct⟩ := List.nodup_cons.mp distinct
      have within := indexed stage List.mem_cons_self
      have later : ∀ stage ∈ rest, stage.index < kStageCount :=
        fun other inside => indexed other (List.mem_cons_of_mem _ inside)
      simp only [List.foldlM_cons, marks.cells stage within, Option.bind_eq_bind, Option.bind_some,
        listed.cells.cells stage within]
      by_cases counts : stage ∈ counted nodes
      · obtain ⟨inside, spine⟩ := Finset.mem_filter.mp counts
        have taken : ¬(!decide (stage ∈ nodes) || isHoldingStage stage) = true := by
          simpa [inside] using spine
        obtain ⟨changed, counted, tabulated⟩ :=
          increments_tabulated (listed.known stage) tabulates
        obtain ⟨after, folded, tabulated⟩ := ih distinct later tabulated
        refine ⟨after, ?_, tabulated.congr fun other => ?_⟩
        · rw [if_neg taken]
          simp only [Option.bind_eq_bind] at counted folded
          rw [counted]
          exact folded
        · rw [List.toFinset_cons, Finset.insert_inter_of_mem counts, incoming_insert (by simp [fresh])]
          omega
      · have skipped : (!decide (stage ∈ nodes) || isHoldingStage stage) = true := by
          by_contra taken
          apply counts
          simpa [counted] using taken
        obtain ⟨after, folded, tabulated⟩ := ih distinct later tabulates
        refine ⟨after, ?_, tabulated.congr fun other => ?_⟩
        · rw [if_pos skipped]
          exact folded
        · rw [List.toFinset_cons, Finset.insert_inter_of_notMem counts]

theorem allStages_indexed : ∀ stage ∈ allStages, stage.index < kStageCount := by decide

theorem allStages_nodup : allStages.Nodup := by decide

theorem countIncoming_tabulated (listed : Lists adjacency graph.successors)
    (marks : Marks forward nodes) (inside : nodes ⊆ stageSet) :
    ∃ degrees, countIncoming adjacency forward = some degrees ∧
      Tabulates degrees (incoming graph.successors (counted nodes)) := by
  obtain ⟨degrees, folded, tabulated⟩ := degrees_tabulated listed marks allStages_nodup
    allStages_indexed (tabulates_replicate 0)
  refine ⟨degrees, folded, tabulated.congr fun stage => ?_⟩
  have all : counted nodes ⊆ allStages.toFinset := by
    intro stage counts
    have known := mem_stageSet.mp (inside (Finset.mem_filter.mp counts).1)
    exact List.mem_toFinset.mpr (List.mem_cons_of_mem _ known)
  rw [Nat.zero_add, Finset.inter_eq_right.mpr all]

theorem filterAuxM_some {check : Stage → Option Bool} {accept : Stage → Bool}
    {stages : List Stage} (checks : ∀ stage ∈ stages, check stage = some (accept stage))
    (found : List Stage) :
    stages.filterAuxM check found = some ((stages.filter accept).reverse ++ found) := by
  induction stages generalizing found with
  | nil => rfl
  | cons stage rest ih =>
      have later := ih fun other inside => checks other (List.mem_cons_of_mem _ inside)
      rw [List.filterAuxM, checks stage List.mem_cons_self, Option.bind_eq_bind, Option.bind_some,
        later]
      cases accepted : accept stage <;> simp [accepted]

theorem filterM_some {check : Stage → Option Bool} {accept : Stage → Bool} {stages : List Stage}
    (checks : ∀ stage ∈ stages, check stage = some (accept stage)) :
    stages.filterM check = some (stages.filter accept) := by
  rw [List.filterM, filterAuxM_some checks]
  simp

theorem roots_listed {degrees : List Nat} {total : Stage → Nat} (marks : Marks forward nodes)
    (tabulated : Tabulates degrees total) (inside : nodes ⊆ stageSet) :
    ∃ roots, (allStages.filterM fun stage => do
        let reached ← cell forward stage
        let degree ← cell degrees stage
        return reached && degree == 0) = some roots ∧ roots.Nodup ∧
      ∀ stage, stage ∈ roots ↔ stage ∈ nodes ∧ total stage = 0 := by
  refine ⟨allStages.filter fun stage => decide (stage ∈ nodes) && total stage == 0, ?_, ?_, ?_⟩
  · apply filterM_some
    intro stage listed
    have indexed := allStages_indexed stage listed
    simp only [marks.cells stage indexed, tabulated.cells stage indexed, Option.bind_eq_bind,
      Option.bind_some, Option.pure_def]
  · exact allStages_nodup.filter _
  · intro stage
    simp only [List.mem_filter, Bool.and_eq_true, decide_eq_true_eq, beq_iff_eq]
    refine and_iff_right_of_imp fun rooted => ?_
    exact List.mem_cons_of_mem _ (mem_stageSet.mp (inside rooted.1))

structure Ranked (state : TopologicalQueue) (done : Finset Stage) (order : Order Stage) : Prop where
  queue : state.queue = order.queue
  degrees : Tabulates state.degrees order.degrees
  size : state.size = done.card + order.queue.length

variable {done : Finset Stage} {total spent : Stage → Nat} {order : Order Stage}

theorem Ranked.room {state : TopologicalQueue} (ranked : Ranked state done order)
    (ranks : Ranks graph.successors nodes total done spent order) (inside : nodes ⊆ stageSet) :
    state.size < kStageCount := by
  have apart : Disjoint done order.queue.toFinset := by
    rw [Finset.disjoint_right]
    exact fun stage queued => ranks.apart stage (List.mem_toFinset.mp queued)
  have within : done ∪ order.queue.toFinset ⊆ nodes :=
    Finset.union_subset ranks.inside.1 fun stage queued =>
      ranks.inside.2 stage (List.mem_toFinset.mp queued)
  have room := stageSet_room (within.trans inside)
  rwa [Finset.card_union_of_disjoint apart, List.toFinset_card_of_nodup ranks.distinct,
    ← ranked.size] at room

theorem Ranked.leave {current : Stage} {queue : List Stage} {size : Nat} {degrees : List Nat}
    {values : Stage → Nat}
    (ranked : Ranked ⟨current :: queue, size, degrees⟩ done ⟨current :: queue, values⟩)
    (fresh : current ∉ done) :
    Ranked ⟨queue, size, degrees⟩ (insert current done) ⟨queue, values⟩ := by
  refine ⟨rfl, ranked.degrees, ?_⟩
  have size := ranked.size
  rw [List.length_cons] at size
  rw [Finset.card_insert_of_notMem fresh]
  dsimp only at size ⊢
  omega

theorem relax_ranked {state : TopologicalQueue} (ranked : Ranked state done order)
    (ranks : Ranks graph.successors nodes total done spent order) (inside : nodes ⊆ stageSet)
    (marks : Marks forward nodes) {next : Stage} (known : next ∈ knownStages) :
    ∃ relaxed, state.relax forward next = some relaxed ∧
      Ranked relaxed done (relax nodes order next) := by
  have indexed := known_indexed known
  have room := ranked.room ranks inside
  unfold TopologicalQueue.relax relax
  simp only [ranked.degrees.cells next indexed, marks.cells next indexed, Option.bind_eq_bind,
    Option.bind_some, Option.pure_def]
  by_cases skipped : order.degrees next = 0 ∨ next ∉ nodes
  · rw [if_pos skipped, if_pos (by simpa using skipped)]
    exact ⟨state, rfl, ranked⟩
  · rw [if_neg skipped, if_neg (by simpa using skipped)]
    obtain ⟨changed, set, tabulated⟩ :=
      ranked.degrees.setCell indexed (order.degrees next - 1)
    simp only [set, Option.bind_some]
    by_cases last : order.degrees next - 1 = 0
    · rw [if_pos last, if_pos (by simp [last, room])]
      refine ⟨_, rfl, ?_, tabulated, ?_⟩
      · dsimp only
        rw [ranked.queue]
      · dsimp only
        rw [ranked.size, List.length_append, List.length_singleton]
        omega
    · rw [if_neg last, if_neg (by simp [last])]
      exact ⟨_, rfl, ranked.queue, tabulated, ranked.size⟩

theorem relaxes_ranked {state : TopologicalQueue} (inside : nodes ⊆ stageSet)
    (marks : Marks forward nodes) {nexts : List Stage} (known : ∀ next ∈ nexts, next ∈ knownStages)
    (ranked : Ranked state done order)
    (ranks : Ranks graph.successors nodes total done spent order)
    (bound : ∀ stage, spent stage + nexts.count stage ≤ incoming graph.successors done stage) :
    ∃ relaxed, nexts.foldlM (TopologicalQueue.relax forward) state = some relaxed ∧
      Ranked relaxed done (nexts.foldl (relax nodes) order) := by
  induction nexts generalizing state spent order with
  | nil => exact ⟨state, rfl, ranked⟩
  | cons next rest ih =>
      obtain ⟨first, relaxed, ranked⟩ :=
        relax_ranked ranked ranks inside marks (known next List.mem_cons_self)
      have least := bound next
      rw [List.count_cons_self] at least
      obtain ⟨after, later, ranked⟩ :=
        ih (fun other within => known other (List.mem_cons_of_mem _ within)) ranked
          (ranks.relaxed next (by omega)) fun stage => by
            rw [spent_cons]
            exact bound stage
      refine ⟨after, ?_, ranked⟩
      rw [List.foldlM_cons, relaxed]
      exact later

theorem drain_counts (listed : Lists adjacency graph.successors) (inside : nodes ⊆ stageSet)
    (marks : Marks forward nodes) (fuel : Nat) {state : TopologicalQueue}
    (ranked : Ranked state done order)
    (ranks : Ranks graph.successors nodes total done (incoming graph.successors done) order)
    (ordered : Nat) : TopologicalQueue.drain adjacency forward fuel state ordered =
      some (ordered + (drain graph.successors nodes fuel order).length) := by
  induction fuel generalizing done state order ordered with
  | zero => rfl
  | succ fuel ih =>
      obtain ⟨waiting, size, degrees⟩ := state
      obtain ⟨queue, values⟩ := order
      obtain rfl : waiting = queue := ranked.queue
      unfold TopologicalQueue.drain drain
      cases waiting with
      | nil => rfl
      | cons current queue =>
          obtain ⟨fresh, within, left⟩ := ranks.leave
          have known := mem_stageSet.mp (inside within)
          obtain ⟨relaxed, folded, later⟩ := relaxes_ranked inside marks (listed.known current)
            (ranked.leave fresh) left fun stage => by rw [incoming_insert fresh]
          simp only [listed.cells.cells current (known_indexed known), Option.bind_eq_bind,
            Option.bind_some, folded]
          rw [ih later ranks.take]
          simp only [List.length_cons]
          congr 1
          omega

theorem topologicallyOrdered_complete (listed : Lists adjacency graph.successors)
    (marks : Marks forward nodes) (inside : nodes ⊆ stageSet) :
    ∃ ordered, topologicallyOrdered adjacency forward = some ordered ∧
      (ordered = nodes.card ↔ ∀ knot : Finset Stage, knot.Nonempty →
        ¬Knot graph.successors nodes (incoming graph.successors (counted nodes)) knot) := by
  obtain ⟨degrees, counts, tabulated⟩ := countIncoming_tabulated listed marks inside
  obtain ⟨roots, filtered, distinct, rooted⟩ := roots_listed marks tabulated inside
  have enough : nodes.card ≤ kStageCount := (stageSet_room inside).le
  refine ⟨_, ?_, ordered_iff distinct rooted enough⟩
  have first := Ranks.first graph.successors distinct rooted
  have ranked : Ranked ⟨roots, roots.length, degrees⟩ ∅
      ⟨roots, incoming graph.successors (counted nodes)⟩ :=
    ⟨rfl, tabulated, by rw [Finset.card_empty, Nat.zero_add]⟩
  unfold topologicallyOrdered
  simp only [Option.bind_eq_bind] at filtered ⊢
  rw [counts, Option.bind_some, filtered, Option.bind_some,
    drain_counts listed inside marks kStageCount ranked first, Nat.zero_add]

theorem allStages_index : ∀ position : Fin kStageCount, ∃ stage,
    allStages[position.val]? = some stage ∧ stage.index = position := by
  decide

theorem marks_count (marks : Marks forward nodes) (inside : nodes ⊆ stageSet) :
    forward.countP id = nodes.card := by
  have listed : forward = allStages.map fun stage => decide (stage ∈ nodes) := by
    apply List.ext_getElem?
    intro position
    rw [List.getElem?_map]
    by_cases within : position < kStageCount
    · obtain ⟨stage, held, index⟩ := allStages_index ⟨position, within⟩
      have marked := marks.cells stage (by rw [index]; exact within)
      rw [cell, index] at marked
      rw [held, Option.map_some]
      exact marked
    · rw [List.getElem?_eq_none (by rw [marks.length]; omega),
        List.getElem?_eq_none (Nat.le_of_not_lt within), Option.map_none]
  have same : (allStages.filter fun stage => decide (stage ∈ nodes)).toFinset = nodes := by
    ext stage
    simp only [List.mem_toFinset, List.mem_filter, decide_eq_true_eq]
    refine and_iff_right_of_imp fun marked => ?_
    exact List.mem_cons_of_mem _ (mem_stageSet.mp (inside marked))
  have distinct := allStages_nodup.filter fun stage => decide (stage ∈ nodes)
  rw [listed, List.countP_map, Function.id_comp, List.countP_eq_length_filter,
    ← List.toFinset_card_of_nodup distinct, same]

/-- Into each of the stages there lead more edges that do not leave QUARANTINED than edges from
outside the set. -/
structure Tied (graph : LifecycleGraph) (stages : Finset Stage) : Prop where
  nonempty : stages.Nonempty
  tied : ∀ stage ∈ stages,
    (graph.edges.countP fun edge => edge.target = stage ∧ edge.source ∉ stages) <
      graph.edges.countP fun edge => edge.target = stage ∧ isHoldingStage edge.source = false

theorem incoming_successors (sources : Finset Stage) (target : Stage) :
    incoming graph.successors sources target =
      graph.edges.countP fun edge => edge.target = target ∧ edge.source ∈ sources := by
  have sorted (source : Stage) : (graph.successors source).count target =
      (targetsOf graph.edges source).count target := (List.perm_insertionSort _ _).count_eq _
  simp only [incoming, sorted]
  induction graph.edges with
  | nil => simp [targetsOf]
  | cons edge rest ih =>
      have one (source : Stage) : (targetsOf (edge :: rest) source).count target =
          (targetsOf rest source).count target +
            if edge.source = source then if edge.target = target then 1 else 0 else 0 := by
        rw [targetsOf_cons]
        by_cases same : edge.source = source
        · simp [same, List.count_cons]
        · simp [same]
      simp only [one, Finset.sum_add_distrib, ih, Finset.sum_ite_eq, List.countP_cons]
      by_cases inside : edge.source ∈ sources
      · simp [inside]
      · simp [inside]

def Covers (graph : LifecycleGraph) (nodes : Finset Stage) : Prop :=
  ∀ edge ∈ graph.edges, edge.source ∈ nodes ∧ edge.target ∈ nodes

theorem tied_knot (covers : graph.Covers nodes) {stages : Finset Stage} :
    graph.Tied stages ↔ stages.Nonempty ∧
      Knot graph.successors nodes (incoming graph.successors (counted nodes)) stages := by
  have outside (stage : Stage) : incoming graph.successors (nodes \ stages) stage =
      graph.edges.countP fun edge => edge.target = stage ∧ edge.source ∉ stages := by
    rw [incoming_successors]
    apply List.countP_congr
    intro edge inside
    simp [(covers edge inside).1]
  have spine (stage : Stage) : incoming graph.successors (counted nodes) stage =
      graph.edges.countP fun edge =>
        edge.target = stage ∧ isHoldingStage edge.source = false := by
    rw [incoming_successors]
    apply List.countP_congr
    intro edge inside
    simp [counted, (covers edge inside).1]
  constructor
  · rintro ⟨nonempty, tied⟩
    refine ⟨nonempty, ?_, fun stage held => ?_⟩
    · intro stage held
      obtain ⟨edge, inside, into⟩ := List.countP_pos_iff.mp (lt_of_le_of_lt (Nat.zero_le _)
        (tied stage held))
      rw [decide_eq_true_eq] at into
      rw [← into.1]
      exact (covers edge inside).2
    · rw [outside, spine]
      exact tied stage held
  · rintro ⟨nonempty, knot⟩
    refine ⟨nonempty, fun stage held => ?_⟩
    rw [← outside, ← spine]
    exact knot.tied stage held

end LifecycleGraph

end ArtifactPromotion
