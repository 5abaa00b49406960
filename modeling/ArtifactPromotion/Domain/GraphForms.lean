import ArtifactPromotion.Domain.CanonicalGraphs

/-! The canonical form of a graph stands for the set of its edges: sorting and dropping repeats
keeps the transitions, and graphs with the same transitions end in the same list. -/

namespace ArtifactPromotion

section Repeats

variable {α : Type} {key : α → Nat}

theorem mem_dropRepeats [DecidableEq α] {values : List α} {value : α} :
    value ∈ dropRepeats values ↔ value ∈ values := by
  induction values using dropRepeats.induct with
  | case1 => simp [dropRepeats]
  | case2 single => simp [dropRepeats]
  | case3 first rest ih =>
      rw [dropRepeats, if_pos rfl, ih]
      simp
  | case4 first second rest different ih =>
      rw [dropRepeats, if_neg different, List.mem_cons, ih, List.mem_cons (l := second :: rest)]

theorem dropRepeats_strict [DecidableEq α] (injective : Function.Injective key) {values : List α}
    (sorted : values.Pairwise fun left right => key left ≤ key right) :
    (dropRepeats values).Pairwise fun left right => key left < key right := by
  induction values using dropRepeats.induct with
  | case1 => simp [dropRepeats]
  | case2 single => simp [dropRepeats]
  | case3 first rest ih =>
      rw [dropRepeats, if_pos rfl]
      exact ih (List.pairwise_cons.mp sorted).2
  | case4 first second rest different ih =>
      obtain ⟨least, later⟩ := List.pairwise_cons.mp sorted
      rw [dropRepeats, if_neg different]
      refine List.pairwise_cons.mpr ⟨?_, ih later⟩
      intro value kept
      have inside := mem_dropRepeats.mp kept
      have apart : key first ≠ key second := fun same => different (injective same)
      have below := least second List.mem_cons_self
      rcases List.mem_cons.mp inside with rfl | further
      · omega
      · have next := (List.pairwise_cons.mp later).1 value further
        omega

theorem strict_unique {left right : List α}
    (leftSorted : left.Pairwise fun first second => key first < key second)
    (rightSorted : right.Pairwise fun first second => key first < key second)
    (same : ∀ value, value ∈ left ↔ value ∈ right) : left = right := by
  have distinct {values : List α}
      (sorted : values.Pairwise fun first second => key first < key second) : values.Nodup := by
    apply sorted.imp
    intro first second below equal
    rw [equal] at below
    omega
  have permuted := (List.perm_ext_iff_of_nodup (distinct leftSorted) (distinct rightSorted)).mpr same
  apply permuted.eq_of_pairwise _ leftSorted rightSorted
  intro first second _ _ below above
  omega

end Repeats

namespace LifecycleGraph

def graphPreimage (graph : LifecycleGraph) : ByteBuffer :=
  graph.edges.flatMap fun edge => [edge.source.toByte, edge.target.toByte]

theorem graphDigest_eq (graph : LifecycleGraph) : graph.graphDigest = sha256 graph.graphPreimage :=
  rfl

/-- Every edge is two bytes of the preimage, so the bytes give the edges back. -/
theorem graphPreimage_injective {left right : LifecycleGraph}
    (same : left.graphPreimage = right.graphPreimage) : left = right := by
  cases left with
  | mk edges =>
      cases right with
      | mk others =>
          induction edges generalizing others with
          | nil =>
              cases others with
              | nil => rfl
              | cons other rest => simp [graphPreimage] at same
          | cons edge rest ih =>
              cases others with
              | nil => simp [graphPreimage] at same
              | cons other others =>
                  simp only [graphPreimage, List.flatMap_cons, List.cons_append, List.nil_append,
                    List.cons.injEq] at same
                  obtain ⟨source, target, later⟩ := same
                  have sources := Stage.toByte_injective source
                  have targets := Stage.toByte_injective target
                  have rests := ih others later
                  cases edge
                  cases other
                  simp_all

theorem canonicalize_sorted (graph : LifecycleGraph) :
    graph.canonicalize.edges.Pairwise fun left right => left.key < right.key := by
  have : Std.Total fun left right : Edge => left.le right = true := ⟨fun left right => by
    rw [Edge.le_iff, Edge.le_iff]
    exact Nat.le_total left.key right.key⟩
  have : IsTrans Edge fun left right => left.le right = true := ⟨fun first second third => by
    rw [Edge.le_iff, Edge.le_iff, Edge.le_iff]
    exact Nat.le_trans⟩
  have sorted := List.pairwise_insertionSort (fun left right : Edge => left.le right = true)
    graph.edges
  exact dropRepeats_strict Edge.key_injective (sorted.imp Edge.le_iff.mp)

theorem mem_canonicalize {graph : LifecycleGraph} {edge : Edge} :
    edge ∈ graph.canonicalize.edges ↔ edge ∈ graph.edges := by
  unfold canonicalize
  rw [mem_dropRepeats, List.mem_insertionSort]

theorem hasEdge_canonicalize (graph : LifecycleGraph) (source target : Stage) :
    graph.canonicalize.hasEdge source target = graph.hasEdge source target := by
  rw [Bool.eq_iff_iff, hasEdge_iff, hasEdge_iff, mem_canonicalize]

theorem canonicalize_isCanonical (graph : LifecycleGraph) :
    graph.canonicalize.isCanonical = true :=
  (strictlySorted_iff _).mpr graph.canonicalize_sorted

theorem canonicalize_alike_iff (left right : LifecycleGraph) :
    (∀ source target, left.hasEdge source target = right.hasEdge source target) ↔
      left.canonicalize.edges = right.canonicalize.edges := by
  constructor
  · intro alike
    apply strict_unique left.canonicalize_sorted right.canonicalize_sorted
    intro edge
    rw [mem_canonicalize, mem_canonicalize]
    have here := alike edge.source edge.target
    rw [Bool.eq_iff_iff, hasEdge_iff, hasEdge_iff] at here
    exact here
  · intro same source target
    have forms : left.canonicalize = right.canonicalize := by
      rw [mk.injEq]
      exact same
    rw [← hasEdge_canonicalize left, forms, hasEdge_canonicalize]

def addEdges (graph : LifecycleGraph) (pairs : List (Stage × Stage)) : LifecycleGraph :=
  pairs.foldl (fun graph pair => (graph.addEdge pair.1 pair.2).2) graph

/-- What `add_edge` keeps: no edge twice, no self edge, no edge at the invalid stage. -/
structure Proper (graph : LifecycleGraph) : Prop where
  distinct : graph.edges.Nodup
  loopless : ∀ edge ∈ graph.edges, edge.source ≠ edge.target
  fits : graph.edges.length ≤ kMaxEdges

theorem addEdge_refused {graph : LifecycleGraph} {source target : Stage}
    (refused : (graph.addEdge source target).1 = false) :
    (graph.addEdge source target).2 = graph := by
  unfold addEdge at refused ⊢
  split_ifs at refused ⊢ <;> rfl

theorem Proper.addEdge {graph : LifecycleGraph} (proper : graph.Proper) (source target : Stage) :
    (graph.addEdge source target).2.Proper := by
  by_cases added : (graph.addEdge source target).1 = true
  · obtain ⟨_, apart, fresh, room⟩ := addEdge_iff.mp added
    rw [addEdge_taken added]
    refine ⟨?_, ?_, ?_⟩
    · exact List.nodup_append.mpr ⟨proper.distinct, by simp, by
        intro edge inside other isOther
        rw [List.mem_singleton.mp isOther]
        rintro rfl
        exact fresh inside⟩
    · intro edge inside
      rcases List.mem_append.mp inside with old | new
      · exact proper.loopless edge old
      · rw [List.mem_singleton.mp new]
        exact apart
    · rw [List.length_append, List.length_singleton]
      exact room
  · rw [addEdge_refused (by simpa using added)]
    exact proper

theorem Proper.addEdges {graph : LifecycleGraph} (proper : graph.Proper)
    (pairs : List (Stage × Stage)) : (graph.addEdges pairs).Proper := by
  unfold LifecycleGraph.addEdges
  induction pairs generalizing graph with
  | nil => exact proper
  | cons pair rest ih => exact ih (proper.addEdge pair.1 pair.2)

theorem proper_empty : Proper {} := ⟨List.nodup_nil, by simp, by simp⟩

/-- Canonicalizing keeps the transitions, ends in a canonical list, changes nothing the second
time, and forgets nothing but the order and the repeats. -/
theorem canonicalize_normal_form :
    (∀ (graph : LifecycleGraph) (source target : Stage),
      graph.canonicalize.hasEdge source target = graph.hasEdge source target) ∧
    (∀ graph : LifecycleGraph, graph.canonicalize.isCanonical = true) ∧
    (∀ graph : LifecycleGraph, graph.canonicalize.canonicalize = graph.canonicalize) ∧
    (∀ left right : LifecycleGraph,
      (∀ source target, left.hasEdge source target = right.hasEdge source target) ↔
        left.canonicalize.edges = right.canonicalize.edges) ∧
    (∀ left right : LifecycleGraph,
      (∀ source target, left.hasEdge source target = right.hasEdge source target) ↔
        left.canonicalize.graphPreimage = right.canonicalize.graphPreimage) ∧
    ∀ pairs : List (Stage × Stage), (addEdges {} pairs).edges.Nodup ∧
      ∀ edge ∈ (addEdges {} pairs).edges, edge.source ≠ edge.target := by
  refine ⟨hasEdge_canonicalize, canonicalize_isCanonical, ?_, canonicalize_alike_iff, ?_, ?_⟩
  · intro graph
    exact canonicalize_canonical graph.canonicalize_isCanonical
  · intro left right
    rw [canonicalize_alike_iff]
    constructor
    · intro same
      unfold graphPreimage
      rw [same]
    · intro same
      rw [graphPreimage_injective same]
  · intro pairs
    have proper := proper_empty.addEdges pairs
    exact ⟨proper.distinct, proper.loopless⟩

end LifecycleGraph

end ArtifactPromotion
