import ArtifactPromotion.Domain.StageArrays
import ArtifactPromotion.Library.Searches

/-! The traversals of graph validation are breadth-first searches: the queue guard is never taken, the
forward array marks what the entry stage reaches, and the backward array what reaches an exit. -/

namespace ArtifactPromotion

open Searches

def stageSet : Finset Stage := knownStages.toFinset

theorem mem_stageSet {stage : Stage} : stage ∈ stageSet ↔ stage ∈ knownStages := List.mem_toFinset

theorem stageSet_card : stageSet.card = 10 := by decide

theorem stageSet_room {stages : Finset Stage} (inside : stages ⊆ stageSet) :
    stages.card < kStageCount := by
  have few := Finset.card_le_card inside
  rw [stageSet_card] at few
  exact Nat.lt_succ_of_le few

namespace LifecycleGraph

variable {graph : LifecycleGraph} {lists : List (List Stage)} {table : Stage → List Stage}
  {marks : List Bool} {visited : Finset Stage} {stage : Stage}

abbrev Marks (marks : List Bool) (stages : Finset Stage) : Prop :=
  Tabulates marks fun stage => decide (stage ∈ stages)

theorem Marks.setCell (marked : Marks marks visited) (known : stage ∈ knownStages) :
    ∃ changed, setCell marks stage true = some changed ∧ Marks changed (insert stage visited) := by
  obtain ⟨changed, set, tabulated⟩ := Tabulates.setCell marked (known_indexed known) true
  refine ⟨changed, set, tabulated.congr fun other => ?_⟩
  by_cases same : other = stage
  · subst same
    simp
  · simp [same]

structure Lists (lists : List (List Stage)) (table : Stage → List Stage) : Prop where
  cells : Tabulates lists table
  known : ∀ source, ∀ target ∈ table source, target ∈ knownStages

theorem Lists.closed (listed : Lists lists table) :
    ∀ source ∈ stageSet, ∀ target ∈ table source, target ∈ stageSet := fun source _ target follows =>
  mem_stageSet.mpr (listed.known source target follows)

structure Tracks (state : Traversal) (search : Search Stage) : Prop where
  marks : Marks state.visited search.visited
  queue : state.queue = search.queue
  running : state.stopped = false
  room : state.tail ≤ search.visited.card
  known : search.visited ⊆ stageSet

theorem visit_tracks {state : Traversal} {search : Search Stage} (tracks : Tracks state search)
    {next : Stage} (known : next ∈ knownStages) :
    ∃ visited, state.visit next = some visited ∧ Tracks visited (search.visit next) := by
  have seen := tracks.marks.cells next (known_indexed known)
  have room := stageSet_room tracks.known
  have small : ¬state.tail ≥ kStageCount := not_le.mpr (lt_of_le_of_lt tracks.room room)
  unfold Traversal.visit Search.visit
  simp only [tracks.running, seen, Bool.false_eq_true, if_false, Option.bind_eq_bind,
    Option.bind_some, Option.pure_def, decide_eq_true_eq, small]
  by_cases visited : next ∈ search.visited
  · rw [if_pos visited, if_pos visited]
    exact ⟨state, rfl, tracks⟩
  · rw [if_neg visited, if_neg visited]
    obtain ⟨changed, set, marks⟩ := Marks.setCell tracks.marks known
    rw [set]
    refine ⟨_, rfl, marks, ?_, rfl, ?_, ?_⟩
    · dsimp only
      rw [tracks.queue]
    · dsimp only
      rw [Finset.card_insert_of_notMem visited]
      exact Nat.succ_le_succ tracks.room
    · exact Finset.insert_subset (mem_stageSet.mpr known) tracks.known

theorem visits_tracks {state : Traversal} {search : Search Stage} (tracks : Tracks state search)
    {nexts : List Stage} (known : ∀ next ∈ nexts, next ∈ knownStages) :
    ∃ visited, nexts.foldlM Traversal.visit state = some visited ∧
      Tracks visited (nexts.foldl Search.visit search) := by
  induction nexts generalizing state search with
  | nil => exact ⟨state, rfl, tracks⟩
  | cons next rest ih =>
      obtain ⟨first, visit, tracks⟩ := visit_tracks tracks (known next List.mem_cons_self)
      obtain ⟨visited, later, tracks⟩ :=
        ih tracks fun other inside => known other (List.mem_cons_of_mem _ inside)
      refine ⟨visited, ?_, tracks⟩
      rw [List.foldlM_cons, visit]
      exact later

theorem drain_tracks (listed : Lists lists table) (fuel : Nat) {state : Traversal}
    {search : Search Stage} (tracks : Tracks state search)
    (queued : ∀ stage ∈ search.queue, stage ∈ knownStages) :
    ∃ final, Traversal.drain lists fuel state = some final ∧
      Tracks final (Search.drain table fuel search) := by
  induction fuel generalizing state search with
  | zero => exact ⟨state, rfl, tracks⟩
  | succ fuel ih =>
      obtain ⟨marks, waiting, tail, stopped⟩ := state
      obtain ⟨visited, queue⟩ := search
      obtain rfl : waiting = queue := tracks.queue
      obtain rfl : stopped = false := tracks.running
      unfold Traversal.drain Search.drain
      cases waiting with
      | nil => exact ⟨_, rfl, tracks⟩
      | cons current queue =>
          have known := queued current List.mem_cons_self
          have taken : Tracks ⟨marks, queue, tail, false⟩ ⟨visited, queue⟩ :=
            ⟨tracks.marks, rfl, rfl, tracks.room, tracks.known⟩
          obtain ⟨expanded, visits, expands⟩ := visits_tracks taken (listed.known current)
          obtain ⟨final, drained, tracked⟩ := ih expands fun later inside => by
            rcases Search.visits_queue inside with old | follows
            · exact queued later (List.mem_cons_of_mem _ old)
            · exact listed.known current later follows
          refine ⟨final, ?_, tracked⟩
          simp only [Bool.false_eq_true, if_false, Option.bind_eq_bind,
            listed.cells.cells current (known_indexed known), Option.bind_some, visits]
          exact drained

theorem traverse_marks (listed : Lists lists table) (marked : Marks marks visited)
    (inside : visited ⊆ stageSet) (known : stage ∈ knownStages) :
    ∃ after, traverse stage lists marks = some after ∧
      Marks after (search table kStageCount visited stage) ∧
      search table kStageCount visited stage ⊆ stageSet := by
  obtain ⟨changed, set, marked⟩ := Marks.setCell marked known
  have tracks : Tracks ⟨changed, [stage], 1, false⟩ ⟨insert stage visited, [stage]⟩ :=
    ⟨marked, rfl, rfl, Finset.card_pos.mpr ⟨stage, Finset.mem_insert_self _ _⟩,
      Finset.insert_subset (mem_stageSet.mpr known) inside⟩
  obtain ⟨final, drained, tracked⟩ := drain_tracks listed kStageCount tracks (by simpa using known)
  refine ⟨final.visited, ?_, tracked.marks, tracked.known⟩
  unfold traverse
  simp only [set, drained, Option.bind_eq_bind, Option.bind_some, Option.pure_def]

def Follows (graph : LifecycleGraph) (source target : Stage) : Prop :=
  ⟨source, target⟩ ∈ graph.edges

def Leads (graph : LifecycleGraph) : Stage → Stage → Prop := Relation.ReflTransGen graph.Follows

def Occurs (graph : LifecycleGraph) (stage : Stage) : Prop :=
  ∃ other, graph.Follows stage other ∨ graph.Follows other stage

def Terminal (stage : Stage) : Prop := stage = .revoked ∨ stage = .superseded ∨ stage = .retired

/-- An edge leads from the stage into a terminal one. -/
def Exits (graph : LifecycleGraph) (source : Stage) : Prop :=
  ∃ target, graph.Follows source target ∧ Terminal target

theorem exitsTo_iff : exitsTo stage = true ↔ Terminal stage := by
  cases stage <;> simp [exitsTo, isTerminalFailureStage, Terminal]

theorem links_successors : Links graph.successors = graph.Follows :=
  funext₂ fun _ _ => propext mem_successors

theorem links_predecessors : Links graph.predecessors = Function.swap graph.Follows :=
  funext₂ fun _ _ => propext mem_predecessors

theorem successors_exit : (graph.successors stage).any exitsTo = true ↔ graph.Exits stage := by
  rw [List.any_eq_true]
  constructor
  · rintro ⟨target, follows, terminal⟩
    exact ⟨target, mem_successors.mp follows, exitsTo_iff.mp terminal⟩
  · rintro ⟨target, follows, terminal⟩
    exact ⟨target, mem_successors.mpr follows, exitsTo_iff.mpr terminal⟩

/-- The edges join stages that a graph may use. -/
def Staged (graph : LifecycleGraph) : Prop :=
  ∀ edge ∈ graph.edges, edge.source ∈ knownStages ∧ edge.target ∈ knownStages

theorem Shaped.staged {entry : Stage} (shaped : graph.Shaped entry) : graph.Staged :=
  fun edge inside => ⟨mem_knownStages.mpr (shaped.stages edge inside).1,
    mem_knownStages.mpr (shaped.stages edge inside).2⟩

theorem Occurs.known (staged : graph.Staged) (occurs : graph.Occurs stage) :
    stage ∈ knownStages := by
  obtain ⟨other, follows | follows⟩ := occurs
  · exact (staged _ follows).1
  · exact (staged _ follows).2

structure Linked (graph : LifecycleGraph) (adjacency reverse : List (List Stage)) : Prop where
  outs : Lists adjacency graph.successors
  ins : Lists reverse graph.predecessors

theorem links_linked (staged : graph.Staged) :
    ∃ adjacency reverse, links graph.edges = some (adjacency, reverse) ∧
      graph.Linked adjacency reverse := by
  obtain ⟨adjacency, reverse, linked, outs, ins⟩ := links_tabulated staged
  refine ⟨adjacency, reverse, linked, ⟨outs, ?_⟩, ins, ?_⟩
  · exact fun source target follows => (staged _ (mem_successors.mp follows)).2
  · exact fun target source follows => (staged _ (mem_predecessors.mp follows)).1

variable {adjacency reverse : List (List Stage)} {entry : Stage}

theorem forward_marks (linked : graph.Linked adjacency reverse) (known : entry ∈ knownStages) :
    ∃ forward reached, traverse entry adjacency (List.replicate kStageCount false) =
        some forward ∧ Marks forward reached ∧ reached ⊆ stageSet ∧
      ∀ stage, stage ∈ reached ↔ graph.Leads entry stage := by
  have blank : Marks (List.replicate kStageCount false) ∅ :=
    (tabulates_replicate false).congr fun stage => by simp
  obtain ⟨forward, traversed, marks, inside⟩ :=
    traverse_marks linked.outs blank (Finset.empty_subset _) known
  refine ⟨forward, _, traversed, marks, inside, fun stage => ?_⟩
  rw [mem_search linked.outs.closed (Finset.empty_subset _) (mem_stageSet.mpr known)
    (by rw [stageSet_card]; decide) (by simp), links_successors]
  simp [Leads]

theorem exits_marked (linked : graph.Linked adjacency reverse) {stages : List Stage}
    (known : ∀ stage ∈ stages, stage ∈ knownStages) {before : Finset Stage}
    (marked : Marks marks before) (inside : before ⊆ stageSet)
    (closed : ∀ target ∈ before, ∀ source ∈ graph.predecessors target, source ∈ before) :
    ∃ backward after, stages.foldlM (fun backward stage => do
        let nexts ← cell adjacency stage
        if nexts.any exitsTo then traverse stage reverse backward else return backward) marks =
          some backward ∧ Marks backward after ∧
      ∀ stage, stage ∈ after ↔ stage ∈ before ∨
        ∃ last ∈ stages, graph.Exits last ∧ graph.Leads stage last := by
  induction stages generalizing marks before with
  | nil => exact ⟨marks, before, rfl, marked, by simp⟩
  | cons exit rest ih =>
      have exitKnown := known exit List.mem_cons_self
      have restKnown : ∀ stage ∈ rest, stage ∈ knownStages :=
        fun stage later => known stage (List.mem_cons_of_mem _ later)
      have held := linked.outs.cells.cells exit (known_indexed exitKnown)
      simp only [List.foldlM_cons, held, Option.bind_eq_bind, Option.bind_some]
      by_cases exits : graph.Exits exit
      · obtain ⟨searched, traversed, marks, within⟩ :=
          traverse_marks linked.ins marked inside exitKnown
        have enough : stageSet.card ≤ kStageCount := by rw [stageSet_card]; decide
        have exitInside := mem_stageSet.mpr exitKnown
        have found := mem_search linked.ins.closed inside exitInside enough closed
        obtain ⟨backward, after, folded, marks, reached⟩ := ih restKnown marks within
          (search_closed linked.ins.closed inside exitInside enough closed)
        refine ⟨backward, after, ?_, marks, fun stage => ?_⟩
        · rw [if_pos (successors_exit.mpr exits), traversed]
          exact folded
        · have leads : Relation.ReflTransGen (Links graph.predecessors) exit stage ↔
              graph.Leads stage exit := by
            rw [links_predecessors, Relation.reflTransGen_swap]
            exact Iff.rfl
          rw [reached, found, leads]
          simp only [List.exists_mem_cons_iff, exits, true_and, or_assoc]
      · obtain ⟨backward, after, folded, marks, reached⟩ := ih restKnown marked inside closed
        refine ⟨backward, after, ?_, marks, fun stage => ?_⟩
        · rw [if_neg (successors_exit.not.mpr exits)]
          exact folded
        · rw [reached]
          simp only [List.exists_mem_cons_iff, exits, false_and, false_or]

theorem backward_marks (linked : graph.Linked adjacency reverse) :
    ∃ backward exiting, backwardReach adjacency reverse = some backward ∧
      Marks backward exiting ∧ ∀ stage, stage ∈ exiting ↔
        ∃ last ∈ knownStages, graph.Exits last ∧ graph.Leads stage last := by
  have blank : Marks (List.replicate kStageCount false) ∅ :=
    (tabulates_replicate false).congr fun stage => by simp
  obtain ⟨backward, exiting, folded, marks, reached⟩ := exits_marked linked
    (fun _ known => known) blank (Finset.empty_subset _) (by simp)
  exact ⟨backward, exiting, folded, marks, fun stage => by simpa using reached stage⟩

theorem occurs_iff :
    ((graph.successors stage).isEmpty && (graph.predecessors stage).isEmpty) = true ↔
      ¬graph.Occurs stage := by
  simp only [Bool.and_eq_true, List.isEmpty_iff, List.eq_nil_iff_forall_not_mem, mem_successors,
    mem_predecessors, Occurs, not_exists, not_or]
  exact forall_and.symm

def Placeable (graph : LifecycleGraph) (reached exiting : Finset Stage) (stage : Stage) : Prop :=
  graph.Occurs stage → stage ∈ reached ∧ (¬Terminal stage → stage ∈ exiting)

theorem checkReach_verdict (linked : graph.Linked adjacency reverse) {forward backward : List Bool}
    {reached exiting : Finset Stage} (forwards : Marks forward reached)
    (backwards : Marks backward exiting) {stages : List Stage}
    (known : ∀ stage ∈ stages, stage ∈ knownStages) :
    ∃ verdict, checkReach adjacency reverse forward backward stages = some verdict ∧
      (verdict = .ok () ↔ ∀ stage ∈ stages, graph.Placeable reached exiting stage) := by
  induction stages with
  | nil => exact ⟨.ok (), rfl, by simp⟩
  | cons stage rest ih =>
      obtain ⟨verdict, checked, means⟩ :=
        ih fun other later => known other (List.mem_cons_of_mem _ later)
      have indexed := known_indexed (known stage List.mem_cons_self)
      unfold checkReach
      simp only [linked.outs.cells.cells stage indexed, linked.ins.cells.cells stage indexed,
        forwards.cells stage indexed, backwards.cells stage indexed, Option.bind_eq_bind,
        Option.bind_some, Option.pure_def, checked, List.forall_mem_cons, ← means]
      by_cases occurs : graph.Occurs stage
      · have appears : ¬((graph.successors stage).isEmpty && (graph.predecessors stage).isEmpty)
            = true := fun absent => occurs_iff.mp absent occurs
        rw [if_neg appears]
        by_cases found : stage ∈ reached
        · have stuck : (!decide (stage ∈ exiting) && !exitsTo stage) = true ↔
              stage ∉ exiting ∧ ¬Terminal stage := by
            rw [← exitsTo_iff]
            simp
          rw [if_neg (by simp [found])]
          by_cases leaves : stage ∉ exiting ∧ ¬Terminal stage
          · rw [if_pos (stuck.mpr leaves)]
            exact ⟨_, rfl, by simp [Placeable, occurs, found, leaves]⟩
          · rw [if_neg (stuck.not.mpr leaves)]
            refine ⟨verdict, rfl, ?_⟩
            have placed : graph.Placeable reached exiting stage := fun _ =>
              ⟨found, fun open_ => by_contra fun missed => leaves ⟨missed, open_⟩⟩
            rw [iff_and_self]
            exact fun _ => placed
        · rw [if_pos (by simp [found])]
          exact ⟨_, rfl, by simp [Placeable, occurs, found]⟩
      · rw [if_pos (occurs_iff.mpr occurs)]
        exact ⟨verdict, rfl, by simp [Placeable, occurs]⟩

/-- Every stage of the graph is reachable from the entry stage, and every one that is not terminal
reaches an exit. -/
structure Connected (graph : LifecycleGraph) (entry : Stage) : Prop where
  reached : ∀ stage, graph.Occurs stage → graph.Leads entry stage
  exits : ∀ stage, graph.Occurs stage → ¬Terminal stage →
    ∃ last, graph.Leads stage last ∧ graph.Exits last

theorem connected_placeable (staged : graph.Staged) {reached exiting : Finset Stage}
    (forwards : ∀ stage, stage ∈ reached ↔ graph.Leads entry stage)
    (backwards : ∀ stage, stage ∈ exiting ↔
      ∃ last ∈ knownStages, graph.Exits last ∧ graph.Leads stage last) :
    (∀ stage ∈ knownStages, graph.Placeable reached exiting stage) ↔ graph.Connected entry := by
  constructor
  · intro placeable
    refine ⟨fun stage occurs => ?_, fun stage occurs open_ => ?_⟩
    · exact (forwards stage).mp (placeable stage (occurs.known staged) occurs).1
    · have exits := (placeable stage (occurs.known staged) occurs).2 open_
      obtain ⟨last, _, exits, leads⟩ := (backwards stage).mp exits
      exact ⟨last, leads, exits⟩
  · intro connected stage _ occurs
    refine ⟨(forwards stage).mpr (connected.reached stage occurs), fun open_ => ?_⟩
    obtain ⟨last, leads, exits⟩ := connected.exits stage occurs open_
    have known : last ∈ knownStages := by
      obtain ⟨target, follows, _⟩ := exits
      exact (staged _ follows).1
    exact (backwards stage).mpr ⟨last, known, exits, leads⟩

theorem Connected.exit (connected : graph.Connected entry) (nonempty : graph.edges ≠ []) :
    (graph.edges.any fun edge => exitsTo edge.target) = true := by
  obtain ⟨edge, inside⟩ := List.exists_mem_of_ne_nil _ nonempty
  rw [List.any_eq_true]
  by_cases terminal : Terminal edge.target
  · exact ⟨edge, inside, exitsTo_iff.mpr terminal⟩
  · have occurs : graph.Occurs edge.target := ⟨edge.source, .inr inside⟩
    obtain ⟨last, _, target, follows, ends⟩ := connected.exits _ occurs terminal
    exact ⟨⟨last, target⟩, follows, exitsTo_iff.mpr ends⟩

end LifecycleGraph

end ArtifactPromotion
