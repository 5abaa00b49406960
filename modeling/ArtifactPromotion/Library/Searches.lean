import Mathlib.Data.Finset.Card
import Mathlib.Logic.Relation

/-! Breadth-first search along successor lists, with a set of visited nodes that several searches may
share. A search adds exactly the nodes that its start reaches. -/

namespace Searches

variable {α : Type} [DecidableEq α]

def Links (links : α → List α) (source target : α) : Prop := target ∈ links source

structure Search (α : Type) where
  visited : Finset α
  queue : List α

namespace Search

variable {links : α → List α} {search : Search α} {start : α} {before nodes : Finset α}

def visit (search : Search α) (next : α) : Search α :=
  if next ∈ search.visited then search
  else ⟨insert next search.visited, search.queue ++ [next]⟩

def drain (links : α → List α) : Nat → Search α → Search α
  | 0, search => search
  | fuel + 1, search =>
      match search.queue with
      | [] => search
      | current :: queue => drain links fuel ((links current).foldl visit { search with queue })

/-- What a search has found so far: the nodes of `before`, and nodes that its start reaches. The
successors of a visited node are visited once it has left the queue. -/
structure Grows (links : α → List α) (start : α) (before : Finset α) (search : Search α) : Prop where
  kept : before ⊆ search.visited
  started : start ∈ search.visited
  sound : ∀ node ∈ search.visited, node ∈ before ∨ Relation.ReflTransGen (Links links) start node
  queued : ∀ node ∈ search.queue, node ∈ search.visited ∧
    Relation.ReflTransGen (Links links) start node
  closed : ∀ node ∈ search.visited, node ∉ search.queue → ∀ next ∈ links node,
    next ∈ search.visited

theorem visit_visited (search : Search α) (next : α) :
    (search.visit next).visited = insert next search.visited := by
  unfold visit
  split
  · rename_i seen
    exact (Finset.insert_eq_of_mem seen).symm
  · rfl

theorem visits_visited (search : Search α) (nexts : List α) :
    (nexts.foldl visit search).visited = search.visited ∪ nexts.toFinset := by
  induction nexts generalizing search with
  | nil => simp
  | cons next rest ih =>
      rw [List.foldl_cons, ih, visit_visited, List.toFinset_cons, Finset.insert_union,
        Finset.union_insert]

theorem visit_queue {node : α} (next : α) (queued : node ∈ (search.visit next).queue) :
    node ∈ search.queue ∨ node = next := by
  unfold visit at queued
  split at queued
  · exact .inl queued
  · simpa using queued

theorem visits_queue {nexts : List α} {node : α}
    (queued : node ∈ (nexts.foldl visit search).queue) : node ∈ search.queue ∨ node ∈ nexts := by
  induction nexts generalizing search with
  | nil => exact .inl queued
  | cons next rest ih =>
      rcases ih queued with earlier | later
      · rcases visit_queue next earlier with old | rfl
        · exact .inl old
        · exact .inr List.mem_cons_self
      · exact .inr (List.mem_cons_of_mem _ later)

theorem queue_visits (nexts : List α) : search.queue ⊆ (nexts.foldl visit search).queue := by
  induction nexts generalizing search with
  | nil => exact List.Subset.refl _
  | cons next rest ih =>
      refine List.Subset.trans ?_ ih
      unfold visit
      split
      · exact List.Subset.refl _
      · exact List.subset_append_left _ _

theorem visits_fresh {nexts : List α} {node : α} (fresh : node ∉ search.visited)
    (visited : node ∈ (nexts.foldl visit search).visited) :
    node ∈ (nexts.foldl visit search).queue := by
  induction nexts generalizing search with
  | nil => exact absurd visited fresh
  | cons next rest ih =>
      by_cases same : node = next
      · subst same
        apply queue_visits rest
        simp [visit, fresh]
      · refine ih ?_ visited
        simpa [visit_visited, same] using fresh

theorem visit_size (search : Search α) (next : α) :
    (search.visit next).queue.length + search.visited.card =
      search.queue.length + (search.visit next).visited.card := by
  unfold visit
  split
  · rfl
  · rename_i fresh
    simp [Finset.card_insert_of_notMem fresh]
    omega

theorem visits_size (search : Search α) (nexts : List α) :
    (nexts.foldl visit search).queue.length + search.visited.card =
      search.queue.length + (nexts.foldl visit search).visited.card := by
  induction nexts generalizing search with
  | nil => rfl
  | cons next rest ih =>
      have first := search.visit_size next
      have later := ih (search.visit next)
      rw [List.foldl_cons]
      omega

theorem Grows.first (closed : ∀ node ∈ before, ∀ next ∈ links node, next ∈ before) :
    Grows links start before ⟨insert start before, [start]⟩ := by
  refine ⟨Finset.subset_insert _ _, Finset.mem_insert_self _ _, ?_, ?_, ?_⟩
  · intro node visited
    rcases Finset.mem_insert.mp visited with rfl | old
    · exact .inr .refl
    · exact .inl old
  · intro node queued
    rw [List.mem_singleton.mp queued]
    exact ⟨Finset.mem_insert_self _ _, .refl⟩
  · intro node visited unqueued next follows
    rcases Finset.mem_insert.mp visited with rfl | old
    · simp at unqueued
    · exact Finset.mem_insert_of_mem (closed node old next follows)

theorem Grows.expand {visited : Finset α} {current : α} {queue : List α}
    (grows : Grows links start before ⟨visited, current :: queue⟩) :
    Grows links start before ((links current).foldl visit ⟨visited, queue⟩) := by
  have reached : Relation.ReflTransGen (Links links) start current :=
    (grows.queued current List.mem_cons_self).2
  have found := visits_visited ⟨visited, queue⟩ (links current)
  refine ⟨?_, ?_, ?_, ?_, ?_⟩
  · rw [found]
    exact grows.kept.trans Finset.subset_union_left
  · rw [found]
    exact Finset.mem_union_left _ grows.started
  · intro node inside
    rw [found, Finset.mem_union, List.mem_toFinset] at inside
    rcases inside with old | follows
    · exact grows.sound node old
    · exact .inr (reached.tail follows)
  · intro node queued
    rw [found, Finset.mem_union, List.mem_toFinset]
    rcases visits_queue queued with old | follows
    · have earlier := grows.queued node (List.mem_cons_of_mem _ old)
      exact ⟨.inl earlier.1, earlier.2⟩
    · exact ⟨.inr follows, reached.tail follows⟩
  · intro node inside unqueued next follows
    rw [found, Finset.mem_union, List.mem_toFinset]
    by_cases same : node = current
    · subst same
      exact .inr follows
    · have old : node ∈ visited := by
        by_contra fresh
        exact unqueued (visits_fresh fresh inside)
      refine .inl (grows.closed node old ?_ next follows)
      intro queued
      rcases List.mem_cons.mp queued with rfl | later
      · exact same rfl
      · exact unqueued (queue_visits _ later)

theorem drain_grows (fuel : Nat) (grows : Grows links start before search) :
    Grows links start before (drain links fuel search) := by
  induction fuel generalizing search with
  | zero => exact grows
  | succ fuel ih =>
      obtain ⟨visited, queue⟩ := search
      cases queue with
      | nil => exact grows
      | cons current queue => exact ih grows.expand

theorem drain_finished (closed : ∀ node ∈ nodes, ∀ next ∈ links node, next ∈ nodes)
    (fuel : Nat) (inside : search.visited ⊆ nodes) (queued : ∀ node ∈ search.queue, node ∈ nodes)
    (enough : search.queue.length + nodes.card ≤ fuel + search.visited.card) :
    (drain links fuel search).queue = [] := by
  induction fuel generalizing search with
  | zero =>
      have few := Finset.card_le_card inside
      change search.queue = []
      exact List.eq_nil_of_length_eq_zero (by omega)
  | succ fuel ih =>
      obtain ⟨visited, queue⟩ := search
      cases queue with
      | nil => rfl
      | cons current queue =>
          have known := closed current (queued current List.mem_cons_self)
          have size := visits_size ⟨visited, queue⟩ (links current)
          refine ih ?_ ?_ ?_
          · rw [visits_visited]
            exact Finset.union_subset inside fun node follows =>
              known node (List.mem_toFinset.mp follows)
          · intro node later
            rcases visits_queue later with old | follows
            · exact queued node (List.mem_cons_of_mem _ old)
            · exact known node follows
          · simp only [List.length_cons] at enough size ⊢
            omega

omit [DecidableEq α] in
/-- A finished search has visited what its start reaches, and nothing else that is new. -/
theorem Grows.complete (grows : Grows links start before search) (finished : search.queue = [])
    (node : α) : node ∈ search.visited ↔
      node ∈ before ∨ Relation.ReflTransGen (Links links) start node := by
  refine ⟨grows.sound node, ?_⟩
  rintro (old | reached)
  · exact grows.kept old
  · induction reached with
    | refl => exact grows.started
    | tail _ follows ih => exact grows.closed _ ih (by simp [finished]) _ follows

end Search

def search (links : α → List α) (fuel : Nat) (before : Finset α) (start : α) : Finset α :=
  (Search.drain links fuel ⟨insert start before, [start]⟩).visited

theorem mem_search {links : α → List α} {before nodes : Finset α} {start : α} {fuel : Nat}
    (closed : ∀ node ∈ nodes, ∀ next ∈ links node, next ∈ nodes) (inside : before ⊆ nodes)
    (known : start ∈ nodes) (enough : nodes.card ≤ fuel)
    (searched : ∀ node ∈ before, ∀ next ∈ links node, next ∈ before) (node : α) :
    node ∈ search links fuel before start ↔
      node ∈ before ∨ Relation.ReflTransGen (Links links) start node := by
  have first : Search.Grows links start before ⟨insert start before, [start]⟩ := .first searched
  have grows := Search.drain_grows fuel first
  refine grows.complete (Search.drain_finished closed fuel ?_ ?_ ?_) node
  · exact Finset.insert_subset known inside
  · simpa using known
  · have one : 0 < (insert start before).card := Finset.card_pos.mpr ⟨start, by simp⟩
    simp only [List.length_singleton]
    omega

theorem search_closed {links : α → List α} {before nodes : Finset α} {start : α} {fuel : Nat}
    (closed : ∀ node ∈ nodes, ∀ next ∈ links node, next ∈ nodes) (inside : before ⊆ nodes)
    (known : start ∈ nodes) (enough : nodes.card ≤ fuel)
    (searched : ∀ node ∈ before, ∀ next ∈ links node, next ∈ before) :
    ∀ node ∈ search links fuel before start, ∀ next ∈ links node,
      next ∈ search links fuel before start := by
  intro node visited next follows
  rw [mem_search closed inside known enough searched] at visited ⊢
  rcases visited with old | reached
  · exact .inl (searched node old next follows)
  · exact .inr (reached.tail follows)

end Searches
