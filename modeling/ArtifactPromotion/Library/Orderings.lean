import Mathlib.Algebra.BigOperators.Group.Finset.Basic
import Mathlib.Algebra.Order.BigOperators.Group.Finset
import Mathlib.Order.WellFoundedSet

/-! Ordering the nodes of a finite graph by counting down in-degrees. The links that are counted may
be fewer than the links that count down: what stays unordered is then the largest knot. -/

namespace Orderings

variable {α : Type} [DecidableEq α]

def incoming (links : α → List α) (sources : Finset α) (node : α) : Nat :=
  ∑ source ∈ sources, (links source).count node

structure Order (α : Type) where
  queue : List α
  degrees : α → Nat

def relax (nodes : Finset α) (order : Order α) (next : α) : Order α :=
  if order.degrees next = 0 ∨ next ∉ nodes then order
  else
    let degrees := Function.update order.degrees next (order.degrees next - 1)
    if order.degrees next - 1 = 0 then ⟨order.queue ++ [next], degrees⟩ else ⟨order.queue, degrees⟩

def drain (links : α → List α) (nodes : Finset α) : Nat → Order α → List α
  | 0, _ => []
  | fuel + 1, order =>
      match order.queue with
      | [] => []
      | current :: queue =>
          current :: drain links nodes fuel
            ((links current).foldl (relax nodes) { order with queue })

/-- Into each node of a knot there lead more counted links than links from outside the knot. -/
structure Knot (links : α → List α) (nodes : Finset α) (total : α → Nat) (knot : Finset α) :
    Prop where
  inside : knot ⊆ nodes
  tied : ∀ node ∈ knot, incoming links (nodes \ knot) node < total node

/-- How far the ordering has got: `done` has left the queue, and `spent` links were counted down. -/
structure Ranks (links : α → List α) (nodes : Finset α) (total : α → Nat) (done : Finset α)
    (spent : α → Nat) (order : Order α) : Prop where
  distinct : order.queue.Nodup
  apart : ∀ node ∈ order.queue, node ∉ done
  inside : done ⊆ nodes ∧ ∀ node ∈ order.queue, node ∈ nodes
  freed : ∀ node ∈ nodes, (node ∈ done ∨ node ∈ order.queue) ↔ order.degrees node = 0
  balance : ∀ node ∈ nodes, order.degrees node ≠ 0 → order.degrees node + spent node = total node
  avoids : ∀ knot, Knot links nodes total knot → ∀ node ∈ knot, node ∉ done ∧ node ∉ order.queue

variable {links : α → List α} {nodes done : Finset α} {total spent : α → Nat} {order : Order α}

theorem incoming_mono (links : α → List α) {sources more : Finset α} (within : sources ⊆ more)
    (node : α) :
    incoming links sources node ≤ incoming links more node :=
  Finset.sum_le_sum_of_subset within

theorem incoming_insert {source : α} {sources : Finset α} (fresh : source ∉ sources) (node : α) :
    incoming links (insert source sources) node =
      incoming links sources node + (links source).count node := by
  rw [incoming, Finset.sum_insert fresh, Nat.add_comm, incoming]

theorem Ranks.outside (ranks : Ranks links nodes total done spent order) {knot : Finset α}
    (tied : Knot links nodes total knot) : done ⊆ nodes \ knot := by
  intro node ordered
  rw [Finset.mem_sdiff]
  exact ⟨ranks.inside.1 ordered, fun within => (ranks.avoids knot tied node within).1 ordered⟩

theorem Ranks.fresh (ranks : Ranks links nodes total done spent order) {next : α}
    (inside : next ∈ nodes) (waits : order.degrees next ≠ 0) : next ∉ done ∧ next ∉ order.queue := by
  have free := (ranks.freed next inside).not.mpr waits
  rwa [not_or] at free

theorem Ranks.counted (ranks : Ranks links nodes total done spent order) {next : α}
    (inside : next ∈ nodes) (waits : order.degrees next ≠ 0) :
    ∀ node ∈ nodes, Function.update order.degrees next (order.degrees next - 1) node ≠ 0 →
      Function.update order.degrees next (order.degrees next - 1) node +
        Function.update spent next (spent next + 1) node = total node := by
  intro node within waiting
  have balance : order.degrees next + spent next = total next := ranks.balance next inside waits
  by_cases same : node = next
  · subst same
    simp only [Function.update_self]
    omega
  · rw [Function.update_of_ne same] at waiting ⊢
    rw [Function.update_of_ne same]
    exact ranks.balance node within waiting

theorem Ranks.queues (ranks : Ranks links nodes total done spent order) {next : α}
    (inside : next ∈ nodes) (waits : order.degrees next ≠ 0) (last : order.degrees next - 1 = 0)
    (bound : spent next + 1 ≤ incoming links done next) :
    Ranks links nodes total done (Function.update spent next (spent next + 1))
      ⟨order.queue ++ [next], Function.update order.degrees next (order.degrees next - 1)⟩ := by
  have fresh := ranks.fresh inside waits
  have balance : order.degrees next + spent next = total next := ranks.balance next inside waits
  refine ⟨?_, ?_, ⟨ranks.inside.1, ?_⟩, ?_, ranks.counted inside waits, ?_⟩
  · rw [List.nodup_append]
    refine ⟨ranks.distinct, List.nodup_singleton _, ?_⟩
    rintro node queued other single rfl
    rw [List.mem_singleton.mp single] at queued
    exact fresh.2 queued
  · intro node queued
    rcases List.mem_append.mp queued with old | single
    · exact ranks.apart node old
    · rw [List.mem_singleton.mp single]
      exact fresh.1
  · intro node queued
    rcases List.mem_append.mp queued with old | single
    · exact ranks.inside.2 node old
    · rw [List.mem_singleton.mp single]
      exact inside
  · intro node within
    by_cases same : node = next
    · subst same
      simp [last]
    · dsimp only
      rw [Function.update_of_ne same, ← ranks.freed node within]
      simp [same]
  · intro knot tied node held
    obtain ⟨unordered, unqueued⟩ := ranks.avoids knot tied node held
    refine ⟨unordered, fun queued => ?_⟩
    rcases List.mem_append.mp queued with old | single
    · exact unqueued old
    · -- The links that freed it all come from ordered nodes, which are outside the knot.
      rw [List.mem_singleton.mp single] at held
      have few := tied.tied next held
      have many := incoming_mono links (ranks.outside tied) next
      omega

theorem Ranks.lowers (ranks : Ranks links nodes total done spent order) {next : α}
    (inside : next ∈ nodes) (waits : order.degrees next ≠ 0) (more : ¬order.degrees next - 1 = 0) :
    Ranks links nodes total done (Function.update spent next (spent next + 1))
      ⟨order.queue, Function.update order.degrees next (order.degrees next - 1)⟩ := by
  refine ⟨ranks.distinct, ranks.apart, ranks.inside, ?_, ranks.counted inside waits, ranks.avoids⟩
  intro node within
  by_cases same : node = next
  · subst same
    simp only [Function.update_self, more, iff_false, not_or]
    exact ranks.fresh inside waits
  · dsimp only
    rw [Function.update_of_ne same]
    exact ranks.freed node within

theorem Ranks.relaxed (ranks : Ranks links nodes total done spent order) (next : α)
    (bound : spent next + 1 ≤ incoming links done next) :
    Ranks links nodes total done (Function.update spent next (spent next + 1))
      (relax nodes order next) := by
  unfold relax
  by_cases skipped : order.degrees next = 0 ∨ next ∉ nodes
  · rw [if_pos skipped]
    refine { ranks with balance := ?_ }
    intro node inside waiting
    have other : node ≠ next := by
      rintro rfl
      rcases skipped with freed | outside
      · exact waiting freed
      · exact outside inside
    rw [Function.update_of_ne other]
    exact ranks.balance node inside waiting
  · rw [if_neg skipped]
    rw [not_or, not_not] at skipped
    obtain ⟨waits, inside⟩ := skipped
    dsimp only
    by_cases last : order.degrees next - 1 = 0
    · rw [if_pos last]
      exact ranks.queues inside waits last bound
    · rw [if_neg last]
      exact ranks.lowers inside waits last

theorem spent_cons (spent : α → Nat) (next : α) (rest : List α) (node : α) :
    Function.update spent next (spent next + 1) node + rest.count node =
      spent node + (next :: rest).count node := by
  by_cases same : node = next
  · subst same
    rw [Function.update_self, List.count_cons_self]
    omega
  · rw [Function.update_of_ne same, List.count_cons_of_ne (Ne.symm same)]

theorem Ranks.relaxes (nexts : List α) (ranks : Ranks links nodes total done spent order)
    (bound : ∀ node, spent node + nexts.count node ≤ incoming links done node) :
    Ranks links nodes total done (fun node => spent node + nexts.count node)
      (nexts.foldl (relax nodes) order) := by
  induction nexts generalizing spent order with
  | nil => simpa using ranks
  | cons next rest ih =>
      have first := bound next
      rw [List.count_cons_self] at first
      have later := ih (ranks.relaxed next (by omega)) fun node => by
        rw [spent_cons]
        exact bound node
      rw [funext (spent_cons spent next rest)] at later
      exact later

theorem Ranks.leave {current : α} {queue : List α} {degrees : α → Nat}
    (ranks : Ranks links nodes total done spent ⟨current :: queue, degrees⟩) :
    current ∉ done ∧ current ∈ nodes ∧
      Ranks links nodes total (insert current done) spent ⟨queue, degrees⟩ := by
  have fresh : current ∉ done := ranks.apart current List.mem_cons_self
  have inside : current ∈ nodes := ranks.inside.2 current List.mem_cons_self
  obtain ⟨unqueued, distinct⟩ := List.nodup_cons.mp ranks.distinct
  refine ⟨fresh, inside, distinct, ?_, ⟨?_, ?_⟩, ?_, ranks.balance, ?_⟩
  · intro node queued
    rw [Finset.mem_insert, not_or]
    refine ⟨?_, ranks.apart node (List.mem_cons_of_mem _ queued)⟩
    rintro rfl
    exact unqueued queued
  · exact Finset.insert_subset inside ranks.inside.1
  · exact fun node queued => ranks.inside.2 node (List.mem_cons_of_mem _ queued)
  · intro node within
    rw [← ranks.freed node within, Finset.mem_insert, List.mem_cons, or_assoc, or_left_comm]
  · intro knot tied node held
    obtain ⟨unordered, unqueued⟩ := ranks.avoids knot tied node held
    rw [List.mem_cons, not_or] at unqueued
    rw [Finset.mem_insert, not_or]
    exact ⟨⟨unqueued.1, unordered⟩, unqueued.2⟩

theorem Ranks.take {current : α} {queue : List α} {degrees : α → Nat}
    (ranks : Ranks links nodes total done (incoming links done) ⟨current :: queue, degrees⟩) :
    Ranks links nodes total (insert current done) (incoming links (insert current done))
      ((links current).foldl (relax nodes) ⟨queue, degrees⟩) := by
  obtain ⟨fresh, _, left⟩ := ranks.leave
  have spent := left.relaxes (links current) fun node => by rw [incoming_insert fresh]
  rw [← funext fun node => incoming_insert fresh node] at spent
  exact spent

theorem drain_ranks (fuel : Nat)
    (ranks : Ranks links nodes total done (incoming links done) order)
    (enough : nodes.card ≤ fuel + done.card) :
    ∃ final degrees, (drain links nodes fuel order).length + done.card = final.card ∧
      Ranks links nodes total final (incoming links final) ⟨[], degrees⟩ := by
  induction fuel generalizing done order with
  | zero =>
      have all : done = nodes := Finset.eq_of_subset_of_card_le ranks.inside.1 (by omega)
      obtain ⟨queue, degrees⟩ := order
      cases queue with
      | nil => exact ⟨done, degrees, Nat.zero_add _, ranks⟩
      | cons current queue =>
          obtain ⟨fresh, inside, _⟩ := ranks.leave
          rw [all] at fresh
          exact absurd inside fresh
  | succ fuel ih =>
      obtain ⟨queue, degrees⟩ := order
      cases queue with
      | nil => exact ⟨done, degrees, Nat.zero_add _, ranks⟩
      | cons current queue =>
          have grown := Finset.card_insert_of_notMem ranks.leave.1
          obtain ⟨final, degrees, length, finished⟩ := ih ranks.take (by omega)
          refine ⟨final, degrees, ?_, finished⟩
          rw [drain, List.length_cons]
          dsimp only
          omega

theorem Ranks.leftover {degrees : α → Nat}
    (ranks : Ranks links nodes total done (incoming links done) ⟨[], degrees⟩) :
    Knot links nodes total (nodes \ done) := by
  refine ⟨Finset.sdiff_subset, ?_⟩
  intro node left
  obtain ⟨inside, unordered⟩ := Finset.mem_sdiff.mp left
  have waits : degrees node ≠ 0 := fun freed => by
    rcases (ranks.freed node inside).mpr freed with ordered | queued
    · exact unordered ordered
    · cases queued
  have balance : degrees node + incoming links done node = total node :=
    ranks.balance node inside waits
  rw [Finset.sdiff_sdiff_eq_self ranks.inside.1]
  omega

theorem Ranks.first (links : α → List α) {roots : List α} (distinct : roots.Nodup)
    (rooted : ∀ node, node ∈ roots ↔ node ∈ nodes ∧ total node = 0) :
    Ranks links nodes total ∅ (incoming links ∅) ⟨roots, total⟩ := by
  refine ⟨distinct, ?_, ⟨Finset.empty_subset _, ?_⟩, ?_, ?_, ?_⟩
  · simp
  · exact fun node queued => ((rooted node).mp queued).1
  · intro node inside
    simp [rooted, inside]
  · simp [incoming]
  · intro knot tied node held
    refine ⟨Finset.notMem_empty _, fun queued => ?_⟩
    have few := tied.tied node held
    have none := ((rooted node).mp queued).2
    omega

theorem ordered_iff {roots : List α} {fuel : Nat} (distinct : roots.Nodup)
    (rooted : ∀ node, node ∈ roots ↔ node ∈ nodes ∧ total node = 0) (enough : nodes.card ≤ fuel) :
    (drain links nodes fuel ⟨roots, total⟩).length = nodes.card ↔
      ∀ knot : Finset α, knot.Nonempty → ¬Knot links nodes total knot := by
  have first := Ranks.first links distinct rooted
  obtain ⟨final, degrees, length, finished⟩ := drain_ranks fuel first (by simpa using enough)
  rw [Finset.card_empty, Nat.add_zero] at length
  rw [length]
  constructor
  · intro all knot ⟨node, held⟩ tied
    have same : final = nodes := Finset.eq_of_subset_of_card_le finished.inside.1 (by omega)
    have ordered : node ∈ final := same ▸ tied.inside held
    exact (finished.avoids knot tied node held).1 ordered
  · intro free
    have none : nodes \ final = ∅ := by
      by_contra left
      exact free _ (Finset.nonempty_iff_ne_empty.mpr left) finished.leftover
    rw [Finset.sdiff_eq_empty_iff_subset] at none
    rw [finished.inside.1.antisymm none]

theorem Knot.pulled {counted knot : Finset α} (within : counted ⊆ nodes)
    (tied : Knot links nodes (incoming links counted) knot) {node : α} (held : node ∈ knot) :
    ∃ source ∈ counted, source ∈ knot ∧ node ∈ links source := by
  by_contra free
  push Not at free
  have outer : incoming links counted node = incoming links (counted \ knot) node := by
    refine (Finset.sum_subset Finset.sdiff_subset ?_).symm
    intro source inside left
    have held : source ∈ knot := by simpa [inside] using left
    exact List.count_eq_zero_of_not_mem (free source inside held)
  have more := incoming_mono links (Finset.sdiff_subset_sdiff within (Finset.Subset.refl knot)) node
  have fewer := tied.tied node held
  omega

theorem Knot.cycle {counted knot : Finset α} (within : counted ⊆ nodes)
    (tied : Knot links nodes (incoming links counted) knot) (nonempty : knot.Nonempty) :
    ∃ node, Relation.TransGen (fun source target => source ∈ counted ∧ target ∈ links source)
      node node := by
  by_contra acyclic
  push Not at acyclic
  have ordered : IsStrictOrder α
      (Relation.TransGen fun source target => source ∈ counted ∧ target ∈ links source) :=
    { irrefl := acyclic, trans := fun _ _ _ => Relation.TransGen.trans }
  obtain ⟨node, held, first⟩ := (knot.wellFoundedOn
    (r := Relation.TransGen fun source target => source ∈ counted ∧ target ∈ links source)).has_min
      Set.univ ⟨⟨nonempty.choose, nonempty.choose_spec⟩, trivial⟩
  obtain ⟨source, counted, inside, follows⟩ := tied.pulled within node.2
  exact first ⟨source, inside⟩ trivial (.single ⟨counted, follows⟩)

end Orderings
