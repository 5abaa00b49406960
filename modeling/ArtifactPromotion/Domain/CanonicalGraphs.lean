import ArtifactPromotion.Domain.Policy

/-! Canonical graphs: their edges are strictly sorted, so no edge occurs twice and sorting them
again changes nothing. -/

namespace ArtifactPromotion

def Edge.key (edge : Edge) : Nat := edge.source.index * 256 + edge.target.index

theorem Stage.index_lt (stage : Stage) : stage.index < 256 := UInt8.toNat_lt _

theorem Stage.index_injective : Function.Injective Stage.index := fun _ _ same =>
  Stage.toByte_injective (UInt8.toNat_inj.mp same)

theorem isValidStageValue_of_small {stage : Stage} (named : stage ≠ .invalid)
    (small : stage.index < kStageCount) : isValidStageValue stage.index = true := by
  have positive : stage.index ≠ 0 := by
    intro zero
    apply named
    apply Stage.toByte_injective
    exact UInt8.toNat_inj.mp zero
  have bounded : stage.index ≤ kStageMax := Nat.le_of_lt_succ small
  exact Bool.and_eq_true_iff.mpr
    ⟨decide_eq_true (Nat.one_le_iff_ne_zero.mpr positive), decide_eq_true bounded⟩

namespace Edge

variable {left right : Edge}

theorem le_iff : left.le right = true ↔ left.key ≤ right.key := by
  have leftSmall := left.target.index_lt
  have rightSmall := right.target.index_lt
  unfold le key
  by_cases same : left.source = right.source
  · simp [same]
  · have apart : left.source.index ≠ right.source.index := fun equal =>
      same (Stage.index_injective equal)
    simp only [same, if_false, decide_eq_true_eq]
    omega

theorem key_injective : Function.Injective key := by
  intro left right same
  have leftSmall := left.target.index_lt
  have rightSmall := right.target.index_lt
  unfold key at same
  have source : left.source = right.source := Stage.index_injective (by omega)
  have target : left.target = right.target := Stage.index_injective (by omega)
  cases left
  cases right
  simp_all

end Edge

namespace LifecycleGraph

theorem hasEdge_iff {graph : LifecycleGraph} {source target : Stage} :
    graph.hasEdge source target = true ↔ ⟨source, target⟩ ∈ graph.edges := by
  simp only [hasEdge, List.any_eq_true, Bool.and_eq_true, beq_iff_eq]
  constructor
  · rintro ⟨edge, inside, rfl, rfl⟩
    exact inside
  · exact fun inside => ⟨_, inside, rfl, rfl⟩

theorem addEdge_iff {graph : LifecycleGraph} {source target : Stage} :
    (graph.addEdge source target).1 = true ↔ (source ≠ .invalid ∧ target ≠ .invalid) ∧
      source ≠ target ∧ ⟨source, target⟩ ∉ graph.edges ∧ graph.edges.length < kMaxEdges := by
  rw [← hasEdge_iff]
  unfold addEdge
  simp only [Bool.or_eq_true, decide_eq_true_eq]
  split_ifs with unknown loop repeated full
  · rw [false_iff]
    tauto
  · simp [loop]
  · simp [repeated]
  · rw [false_iff]
    omega
  · rw [not_or] at unknown
    simp only [true_iff]
    exact ⟨unknown, loop, repeated, by omega⟩

theorem addEdge_known {graph : LifecycleGraph} {source target : Stage}
    (added : (graph.addEdge source target).1 = true) : source ≠ .invalid ∧ target ≠ .invalid :=
  (addEdge_iff.mp added).1

theorem addEdge_taken {graph : LifecycleGraph} {source target : Stage}
    (added : (graph.addEdge source target).1 = true) :
    (graph.addEdge source target).2 = ⟨graph.edges ++ [⟨source, target⟩]⟩ := by
  unfold addEdge at added ⊢
  split_ifs at added ⊢ with unknown loop repeated full
  rfl

theorem strictlySorted_iff (edges : List Edge) :
    isCanonical.strictlySorted edges = true ↔
      edges.Pairwise fun left right => left.key < right.key := by
  rw [← List.isChain_iff_pairwise]
  induction edges with
  | nil => simp [isCanonical.strictlySorted]
  | cons first rest ih =>
      cases rest with
      | nil => simp [isCanonical.strictlySorted]
      | cons second rest =>
          rw [isCanonical.strictlySorted, List.isChain_cons_cons, Bool.and_eq_true, ih]
          have ordered : (!second.lt first && first != second) = true ↔ first.key < second.key := by
            simp only [Edge.lt, Bool.not_not, Bool.and_eq_true, Edge.le_iff, bne_iff_ne]
            constructor
            · rintro ⟨below, apart⟩
              have different : first.key ≠ second.key := fun same => apart (Edge.key_injective same)
              omega
            · intro below
              exact ⟨by omega, fun same => by simp [same] at below⟩
          rw [ordered]

theorem canonical_nodup {graph : LifecycleGraph} (canonical : graph.isCanonical = true) :
    graph.edges.Nodup := by
  refine ((strictlySorted_iff _).mp canonical).imp fun below same => ?_
  simp [same] at below

theorem dropRepeats_nodup {α : Type} [DecidableEq α] {values : List α} (distinct : values.Nodup) :
    dropRepeats values = values := by
  induction values with
  | nil => rfl
  | cons first rest ih =>
      cases rest with
      | nil => rfl
      | cons second rest =>
          have apart : first ≠ second := by
            rintro rfl
            simp at distinct
          rw [dropRepeats, if_neg apart, ih (List.nodup_cons.mp distinct).2]

theorem canonicalize_canonical {graph : LifecycleGraph} (canonical : graph.isCanonical = true) :
    graph.canonicalize = graph := by
  have sorted : graph.edges.Pairwise fun left right => left.le right = true :=
    ((strictlySorted_iff _).mp canonical).imp fun below => Edge.le_iff.mpr (by omega)
  unfold canonicalize
  rw [sorted.insertionSort_eq, dropRepeats_nodup (canonical_nodup canonical)]

structure Shaped (graph : LifecycleGraph) (entry : Stage) : Prop where
  named : entry ≠ .invalid
  nonempty : graph.edges ≠ []
  fits : graph.edges.length ≤ kMaxEdges
  canonical : graph.isCanonical = true
  proper : ∀ edge ∈ graph.edges, edge.source ≠ edge.target
  stages : ∀ edge ∈ graph.edges, isValidStageValue edge.source.index = true ∧
    isValidStageValue edge.target.index = true

theorem known_named {stage : Stage} (known : isValidStageValue stage.index = true) :
    stage ≠ .invalid := by
  rintro rfl
  exact absurd known (by decide)

theorem checkEdge_iff {edge : Edge} : checkEdge edge = .ok () ↔ edge.source ≠ edge.target ∧
    isValidStageValue edge.source.index = true ∧ isValidStageValue edge.target.index = true := by
  simp only [checkEdge, bind_eq_ok, rejectWhen_eq_ok, Bool.or_eq_false_iff,
    decide_eq_false_iff_not, Bool.not_eq_false']
  constructor
  · rintro ⟨_, ⟨_, proper⟩, source, target⟩
    exact ⟨proper, source, target⟩
  · rintro ⟨proper, source, target⟩
    exact ⟨(), ⟨⟨known_named source, known_named target⟩, proper⟩, source, target⟩

theorem checkShape_iff {graph : LifecycleGraph} {entry : Stage} :
    graph.checkShape entry = .ok () ↔ graph.Shaped entry := by
  simp only [checkShape, bind_eq_ok, rejectWhen_eq_ok, checkEach_eq_ok, checkEdge_iff,
    decide_eq_false_iff_not, List.isEmpty_eq_false_iff, Bool.not_eq_false', not_lt]
  constructor
  · rintro ⟨_, named, _, nonempty, _, fits, _, canonical, edges⟩
    exact ⟨named, nonempty, fits, canonical, fun edge inside => (edges edge inside).1,
      fun edge inside => (edges edge inside).2⟩
  · rintro ⟨named, nonempty, fits, canonical, proper, stages⟩
    exact ⟨(), named, (), nonempty, (), fits, (), canonical,
      fun edge inside => ⟨proper edge inside, stages edge inside⟩⟩

theorem validate_shaped {graph : LifecycleGraph} {entry : Stage}
    (validated : graph.validate entry = some (.ok ())) : graph.Shaped entry := by
  unfold validate at validated
  split at validated
  · simp at validated
  · rename_i shaped
    exact checkShape_iff.mp shaped

theorem validate_entry {graph : LifecycleGraph} {entry : Stage}
    (validated : graph.validate entry = some (.ok ())) : isValidStageValue entry.index = true := by
  have named := (validate_shaped validated).named
  unfold validate at validated
  split at validated
  · simp at validated
  · simp only [Option.bind_eq_bind, Option.bind_eq_some_iff] at validated
    obtain ⟨lists, _, forward, traversed, _⟩ := validated
    simp only [traverse, Option.bind_eq_bind, Option.bind_eq_some_iff] at traversed
    obtain ⟨visited, set, _⟩ := traversed
    unfold setCell at set
    split at set
    · rename_i small
      rw [List.length_replicate] at small
      exact isValidStageValue_of_small named small
    · cases set

end LifecycleGraph

end ArtifactPromotion
