import ArtifactPromotion.Domain.CanonicalGraphs
import Mathlib.Data.List.Count

/-! The fixed arrays of graph validation as functions of the stage: no access to them leaves their
bounds, and the adjacency arrays list the successors and the predecessors of each stage. -/

namespace ArtifactPromotion

theorem mem_knownStages {stage : Stage} :
    stage ∈ knownStages ↔ isValidStageValue stage.index = true := by
  cases stage with
  | unnamed raw outside =>
      have large : 10 < raw.toNat := UInt8.lt_iff_toNat_lt.mp outside
      have unlisted : Stage.unnamed raw outside ∉ knownStages := by simp [knownStages]
      refine iff_of_false unlisted fun valid => ?_
      simp only [isValidStageValue, Bool.and_eq_true, decide_eq_true_eq] at valid
      exact absurd valid.2 (not_le.mpr large)
  | _ => decide

theorem known_indexed {stage : Stage} (known : stage ∈ knownStages) : stage.index < kStageCount := by
  have valid := mem_knownStages.mp known
  simp only [isValidStageValue, Bool.and_eq_true, decide_eq_true_eq] at valid
  exact Nat.lt_succ_of_le valid.2

namespace LifecycleGraph

variable {α : Type} {array : List α} {values : Stage → α} {stage : Stage}

structure Tabulates (array : List α) (values : Stage → α) : Prop where
  length : array.length = kStageCount
  cells : ∀ stage : Stage, stage.index < kStageCount → cell array stage = some (values stage)

theorem tabulates_replicate (value : α) :
    Tabulates (List.replicate kStageCount value) fun _ => value := by
  refine ⟨List.length_replicate, fun stage inside => ?_⟩
  rw [cell, List.getElem?_replicate, if_pos inside]

theorem Tabulates.setCell (tabulates : Tabulates array values) (inside : stage.index < kStageCount)
    (value : α) : ∃ changed, setCell array stage value = some changed ∧
      Tabulates changed (Function.update values stage value) := by
  refine ⟨array.set stage.index value, ?_, ?_, ?_⟩
  · rw [LifecycleGraph.setCell, tabulates.length, if_pos inside]
  · rw [List.length_set, tabulates.length]
  · intro other within
    rw [cell, List.getElem?_set]
    by_cases same : other = stage
    · subst same
      rw [if_pos rfl, tabulates.length, if_pos within, Function.update_self]
    · rw [if_neg fun equal => same (Stage.index_injective equal.symm), Function.update_of_ne same]
      exact tabulates.cells other within

theorem Tabulates.map {β : Type} (tabulates : Tabulates array values) (change : α → β) :
    Tabulates (array.map change) fun stage => change (values stage) := by
  refine ⟨by rw [List.length_map, tabulates.length], fun stage inside => ?_⟩
  have held := tabulates.cells stage inside
  rw [cell] at held ⊢
  rw [List.getElem?_map, held, Option.map_some]

theorem Tabulates.congr {others : Stage → α} (tabulates : Tabulates array values)
    (same : ∀ stage, values stage = others stage) : Tabulates array others :=
  funext same ▸ tabulates

theorem Tabulates.pushCell {lists : List (List Stage)} {links : Stage → List Stage}
    (tabulates : Tabulates lists links) (inside : stage.index < kStageCount) (value : Stage) :
    ∃ changed, pushCell lists stage value = some changed ∧
      Tabulates changed (Function.update links stage (links stage ++ [value])) := by
  obtain ⟨changed, set, tabulated⟩ := tabulates.setCell inside (links stage ++ [value])
  refine ⟨changed, ?_, tabulated⟩
  rw [LifecycleGraph.pushCell, tabulates.cells stage inside]
  exact set

variable {graph : LifecycleGraph} {edges : List Edge} {source target : Stage}

def targetsOf (edges : List Edge) (source : Stage) : List Stage :=
  (edges.filter fun edge => edge.source = source).map Edge.target

def sourcesOf (edges : List Edge) (target : Stage) : List Stage :=
  (edges.filter fun edge => edge.target = target).map Edge.source

def successors (graph : LifecycleGraph) (source : Stage) : List Stage :=
  sortStages (targetsOf graph.edges source)

def predecessors (graph : LifecycleGraph) (target : Stage) : List Stage :=
  sortStages (sourcesOf graph.edges target)

theorem targetsOf_cons (edge : Edge) (source : Stage) : targetsOf (edge :: edges) source =
    if edge.source = source then edge.target :: targetsOf edges source
    else targetsOf edges source := by
  by_cases same : edge.source = source <;> simp [targetsOf, same]

theorem sourcesOf_cons (edge : Edge) (target : Stage) : sourcesOf (edge :: edges) target =
    if edge.target = target then edge.source :: sourcesOf edges target
    else sourcesOf edges target := by
  by_cases same : edge.target = target <;> simp [sourcesOf, same]

theorem mem_sorted {near far : Edge → Stage} {stage other : Stage} :
    other ∈ sortStages ((edges.filter fun edge => near edge = stage).map far) ↔
      ∃ edge ∈ edges, near edge = stage ∧ far edge = other := by
  simp only [sortStages, List.mem_insertionSort, List.mem_map, List.mem_filter, decide_eq_true_eq,
    and_assoc]

theorem mem_successors : target ∈ graph.successors source ↔ ⟨source, target⟩ ∈ graph.edges := by
  rw [successors, targetsOf, mem_sorted]
  constructor
  · rintro ⟨⟨_, _⟩, inside, rfl, rfl⟩
    exact inside
  · intro inside
    exact ⟨_, inside, rfl, rfl⟩

theorem mem_predecessors : source ∈ graph.predecessors target ↔ ⟨source, target⟩ ∈ graph.edges := by
  rw [predecessors, sourcesOf, mem_sorted]
  constructor
  · rintro ⟨⟨_, _⟩, inside, rfl, rfl⟩
    exact inside
  · intro inside
    exact ⟨_, inside, rfl, rfl⟩

theorem links_pushed {lists : List (List Stage) × List (List Stage)} {out incoming : Stage → List Stage}
    (known : ∀ edge ∈ edges, edge.source ∈ knownStages ∧ edge.target ∈ knownStages)
    (outs : Tabulates lists.1 out) (ins : Tabulates lists.2 incoming) :
    ∃ pushed, edges.foldlM (fun lists edge => do
        let adjacency ← pushCell lists.1 edge.source edge.target
        let reverse ← pushCell lists.2 edge.target edge.source
        return (adjacency, reverse)) lists = some pushed ∧
      Tabulates pushed.1 (fun stage => out stage ++ targetsOf edges stage) ∧
      Tabulates pushed.2 (fun stage => incoming stage ++ sourcesOf edges stage) := by
  induction edges generalizing lists out incoming with
  | nil =>
      refine ⟨lists, rfl, outs.congr fun stage => ?_, ins.congr fun stage => ?_⟩
      · simp [targetsOf]
      · simp [sourcesOf]
  | cons edge rest ih =>
      obtain ⟨source, target⟩ := known edge List.mem_cons_self
      obtain ⟨adjacency, first, outs⟩ := outs.pushCell (known_indexed source) edge.target
      obtain ⟨reverse, second, ins⟩ := ins.pushCell (known_indexed target) edge.source
      obtain ⟨pushed, later, outs, ins⟩ := @ih (adjacency, reverse) _ _
        (fun other inside => known other (List.mem_cons_of_mem _ inside)) outs ins
      refine ⟨pushed, ?_, outs.congr fun stage => ?_, ins.congr fun stage => ?_⟩
      · rw [List.foldlM_cons]
        simp only [first, second, Option.bind_eq_bind, Option.bind_some, Option.pure_def]
        exact later
      · rw [targetsOf_cons]
        by_cases same : edge.source = stage
        · subst same
          simp
        · simp [same, Function.update_of_ne (Ne.symm same)]
      · rw [sourcesOf_cons]
        by_cases same : edge.target = stage
        · subst same
          simp
        · simp [same, Function.update_of_ne (Ne.symm same)]

theorem links_tabulated
    (known : ∀ edge ∈ graph.edges, edge.source ∈ knownStages ∧ edge.target ∈ knownStages) :
    ∃ adjacency reverse, links graph.edges = some (adjacency, reverse) ∧
      Tabulates adjacency graph.successors ∧ Tabulates reverse graph.predecessors := by
  obtain ⟨⟨adjacency, reverse⟩, pushed, outs, ins⟩ := @links_pushed graph.edges
    (List.replicate kStageCount [], List.replicate kStageCount []) _ _ known
    (tabulates_replicate []) (tabulates_replicate [])
  refine ⟨adjacency.map sortStages, reverse.map sortStages, ?_, (outs.map sortStages).congr ?_,
    (ins.map sortStages).congr ?_⟩
  · unfold links
    simp only [Option.bind_eq_bind, Option.pure_def] at pushed ⊢
    rw [pushed]
    rfl
  · exact fun stage => by rw [List.nil_append, successors]
  · exact fun stage => by rw [List.nil_append, predecessors]

end LifecycleGraph

end ArtifactPromotion
