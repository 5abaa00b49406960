import ArtifactPromotion.Domain.ValidGraphs
import ArtifactPromotion.Library.ArrayQueues

/-! Graph validation with every index of its fixed arrays looked at. An access outside an array and a
stage that finds no room in a queue end the computation with a fault; only an entry stage that is not
among the named ones leads to one. -/

namespace ArtifactPromotion

open ArrayQueues Orderings Searches

namespace LifecycleGraph

/-- The fixed arrays of `validate`, of `kStageCount` cells each. -/
inductive StageArray where
  | adjacency
  | reverse
  | forward
  | backward
  | frontier
  | inDegree
  | orderQueue
deriving DecidableEq

inductive Fault where
  | outside (array : StageArray) (index : Nat)
  | dropped (queue : StageArray) (stage : Stage)
  | unfinished (queue : StageArray)
deriving DecidableEq

abbrev Faulting (α : Type) := Except Fault α

def load {α : Type} (name : StageArray) (array : List α) (index : Nat) : Faulting α :=
  match array[index]? with
  | some value => .ok value
  | none => .error (.outside name index)

def store {α : Type} (name : StageArray) (array : List α) (index : Nat) (value : α) :
    Faulting (List α) :=
  if index < array.length then .ok (array.set index value) else .error (.outside name index)

def linksWithin (adjacency reverse : List (List Stage)) :
    List Edge → Faulting (Result (List (List Stage) × List (List Stage)))
  | [] => .ok (.ok (adjacency.map sortStages, reverse.map sortStages))
  | edge :: rest =>
      if edge.source.index ≥ kStageCount ∨ edge.target.index ≥ kStageCount then
        .ok (.error (.of .invalidStage (text "lifecycle graph references an unknown stage")))
      else do
        let targets ← load .adjacency adjacency edge.source.index
        let adjacency ← store .adjacency adjacency edge.source.index (targets ++ [edge.target])
        let sources ← load .reverse reverse edge.target.index
        let reverse ← store .reverse reverse edge.target.index (sources ++ [edge.source])
        linksWithin adjacency reverse rest

/-- The state of `traverse`: the visited flags, the frontier array and its tail. -/
structure Frontier where
  visited : List Bool
  cells : List Stage
  tail : Nat

/-- One successor of the current stage; a full frontier drops it. -/
def Frontier.visit (flags : StageArray) (state : Frontier) (next : Stage) : Faulting Frontier := do
  let seen ← load flags state.visited next.index
  if seen then return state
  if state.tail ≥ state.cells.length then .error (.dropped .frontier next)
  else
    let visited ← store flags state.visited next.index true
    let cells ← store .frontier state.cells state.tail next
    return ⟨visited, cells, state.tail + 1⟩

def Frontier.drain (links flags : StageArray) (lists : List (List Stage)) :
    Nat → Nat → Frontier → Faulting Frontier
  | 0, head, state => if head < state.tail then .error (.unfinished .frontier) else .ok state
  | fuel + 1, head, state =>
      if head < state.tail then do
        let current ← load .frontier state.cells head
        let nexts ← load links lists current.index
        let state ← nexts.foldlM (Frontier.visit flags) state
        Frontier.drain links flags lists fuel (head + 1) state
      else .ok state

def traverseWithin (links flags : StageArray) (start : Stage) (lists : List (List Stage))
    (visited : List Bool) (frontier : List Stage) : Faulting (List Bool × List Stage) := do
  let visited ← store flags visited start.index true
  let cells ← store .frontier frontier 0 start
  let state ← Frontier.drain links flags lists kStageCount 0 ⟨visited, cells, 1⟩
  return (state.visited, state.cells)

def backwardWithin (adjacency reverse : List (List Stage)) :
    List Stage → List Bool → List Stage → Faulting (List Bool)
  | [], backward, _ => .ok backward
  | stage :: rest, backward, frontier => do
      let nexts ← load .adjacency adjacency stage.index
      if nexts.any exitsTo then
        let (backward, frontier) ← traverseWithin .reverse .backward stage reverse backward frontier
        backwardWithin adjacency reverse rest backward frontier
      else backwardWithin adjacency reverse rest backward frontier

def checkReachWithin (adjacency reverse : List (List Stage)) (forward backward : List Bool) :
    List Stage → Faulting (Result Unit)
  | [] => .ok (.ok ())
  | stage :: rest => do
      let out ← load .adjacency adjacency stage.index
      let incoming ← load .reverse reverse stage.index
      if out.isEmpty && incoming.isEmpty then
        checkReachWithin adjacency reverse forward backward rest
      else
        let reached ← load .forward forward stage.index
        if !reached then
          return .error (.of .invalidTransition
            (text "lifecycle stage " ++ stage.name ++ text " is not reachable from the entry stage"))
        else
          let exits ← load .backward backward stage.index
          if !exits && !exitsTo stage then
            return .error (.of .invalidTransition (text "lifecycle stage " ++ stage.name ++
              text " cannot reach revocation, supersession, or retirement by any path"))
          else checkReachWithin adjacency reverse forward backward rest

def countIncomingWithin (adjacency : List (List Stage)) (forward : List Bool) :
    Faulting (List Nat) :=
  allStages.foldlM (fun degrees stage => do
    let reached ← load .forward forward stage.index
    if !reached || isHoldingStage stage then return degrees
    let nexts ← load .adjacency adjacency stage.index
    nexts.foldlM (fun degrees next => do
      let degree ← load .inDegree degrees next.index
      store .inDegree degrees next.index (degree + 1)) degrees)
    (List.replicate kStageCount 0)

structure OrderQueue where
  cells : List Stage
  size : Nat
  degrees : List Nat

def seedWithin (forward : List Bool) (state : OrderQueue) (stage : Stage) : Faulting OrderQueue := do
  let reached ← load .forward forward stage.index
  let degree ← load .inDegree state.degrees stage.index
  if reached && degree == 0 then
    let cells ← store .orderQueue state.cells state.size stage
    return { state with cells, size := state.size + 1 }
  else return state

def OrderQueue.relax (forward : List Bool) (state : OrderQueue) (next : Stage) :
    Faulting OrderQueue := do
  let degree ← load .inDegree state.degrees next.index
  let reached ← load .forward forward next.index
  if degree = 0 || !reached then return state
  let degrees ← store .inDegree state.degrees next.index (degree - 1)
  if degree - 1 = 0 then
    if state.size < state.cells.length then
      let cells ← store .orderQueue state.cells state.size next
      return ⟨cells, state.size + 1, degrees⟩
    else .error (.dropped .orderQueue next)
  else return { state with degrees }

/-- The loop `while (head < queue_size)`, counting the ordered stages. -/
def OrderQueue.drain (adjacency : List (List Stage)) (forward : List Bool) :
    Nat → Nat → OrderQueue → Nat → Faulting Nat
  | 0, head, state, ordered =>
      if head < state.size then .error (.unfinished .orderQueue) else .ok ordered
  | fuel + 1, head, state, ordered =>
      if head < state.size then do
        let current ← load .orderQueue state.cells head
        let nexts ← load .adjacency adjacency current.index
        let state ← nexts.foldlM (OrderQueue.relax forward) state
        OrderQueue.drain adjacency forward fuel (head + 1) state (ordered + 1)
      else .ok ordered

def topologicallyOrderedWithin (adjacency : List (List Stage)) (forward : List Bool) :
    Faulting Nat := do
  let degrees ← countIncomingWithin adjacency forward
  let state ← allStages.foldlM (seedWithin forward)
    ⟨List.replicate kStageCount .invalid, 0, degrees⟩
  OrderQueue.drain adjacency forward kStageCount 0 state 0

/-- `validate` with its arrays: a verdict, or the first access that leaves its array or drops a
stage. -/
def validateWithin (graph : LifecycleGraph) (entry : Stage) : Faulting (Result Unit) :=
  match graph.checkShape entry with
  | .error status => .ok (.error status)
  | .ok () => do
      let empty := List.replicate kStageCount []
      match ← linksWithin empty empty graph.edges with
      | .error status => return .error status
      | .ok (adjacency, reverse) =>
          let unmarked := List.replicate kStageCount false
          let (forward, frontier) ← traverseWithin .adjacency .forward entry adjacency unmarked
            (List.replicate kStageCount .invalid)
          let backward ← backwardWithin adjacency reverse knownStages unmarked frontier
          match ← checkReachWithin adjacency reverse forward backward knownStages with
          | .error status => return .error status
          | .ok () =>
              let ordered ← topologicallyOrderedWithin adjacency forward
              return do
                rejectWhen (ordered != forward.countP id) .invalidTransition
                  "lifecycle graph contains a cycle"
                rejectWhen (!graph.edges.any fun edge => exitsTo edge.target) .invalidTransition
                  "lifecycle graph has no quarantine, revocation, or retirement edge"

/-! ### Accesses that stay inside -/

theorem load_ok {α : Type} {array : List α} {index : Nat} {value : α} (name : StageArray)
    (held : array[index]? = some value) : load name array index = .ok value := by
  rw [load, held]

theorem store_ok {α : Type} {array : List α} {index : Nat} (name : StageArray)
    (inside : index < array.length) (value : α) :
    store name array index value = .ok (array.set index value) := if_pos inside

section Mirroring

variable {α β : Type} {faulting : Faulting α} {plain : Option α}

def Mirrors (faulting : Faulting α) (plain : Option α) : Prop :=
  ∀ value, plain = some value → faulting = .ok value

theorem mirrors_pure (value : α) : Mirrors (.ok value) (some value) := by
  rintro other ⟨⟩
  rfl

theorem mirrors_load (name : StageArray) (array : List α) (stage : Stage) :
    Mirrors (load name array stage.index) (cell array stage) := by
  intro value held
  unfold cell at held
  rw [load, held]

theorem mirrors_store (name : StageArray) (array : List α) (stage : Stage) (value : α) :
    Mirrors (store name array stage.index value) (setCell array stage value) := by
  intro changed set
  unfold setCell at set
  unfold store
  by_cases inside : stage.index < array.length
  · rw [if_pos inside, Option.some.injEq] at set
    rw [if_pos inside, set]
  · rw [if_neg inside] at set
    cases set

theorem Mirrors.bind {next : α → Faulting β} {plainNext : α → Option β}
    (mirrors : Mirrors faulting plain) (later : ∀ value, Mirrors (next value) (plainNext value)) :
    Mirrors (faulting >>= next) (plain >>= plainNext) := by
  intro value result
  obtain ⟨middle, first, second⟩ := Option.bind_eq_some_iff.mp result
  rw [mirrors middle first]
  exact later middle value second

theorem Mirrors.ite {condition : Prop} [Decidable condition] {other : Faulting α}
    {plainOther : Option α} (mirrors : Mirrors faulting plain)
    (otherwise : Mirrors other plainOther) :
    Mirrors (if condition then faulting else other) (if condition then plain else plainOther) := by
  by_cases holds : condition
  · rw [if_pos holds, if_pos holds]
    exact mirrors
  · rw [if_neg holds, if_neg holds]
    exact otherwise

theorem Mirrors.foldlM {next : α → β → Faulting α} {plainNext : α → β → Option α}
    (mirrors : ∀ value item, Mirrors (next value item) (plainNext value item)) (items : List β)
    (start : α) : Mirrors (items.foldlM next start) (items.foldlM plainNext start) := by
  induction items generalizing start with
  | nil => exact mirrors_pure start
  | cons item rest ih =>
      rw [List.foldlM_cons, List.foldlM_cons]
      exact (mirrors start item).bind fun value => ih value

end Mirroring

theorem checkReach_mirrored (adjacency reverse : List (List Stage)) (forward backward : List Bool)
    (stages : List Stage) : Mirrors (checkReachWithin adjacency reverse forward backward stages)
      (checkReach adjacency reverse forward backward stages) := by
  induction stages with
  | nil => exact mirrors_pure _
  | cons stage rest ih =>
      unfold checkReachWithin checkReach
      refine (mirrors_load _ adjacency stage).bind fun out => ?_
      refine (mirrors_load _ reverse stage).bind fun incoming => ?_
      apply Mirrors.ite ih
      refine (mirrors_load _ forward stage).bind fun reached => ?_
      apply Mirrors.ite (mirrors_pure _)
      refine (mirrors_load _ backward stage).bind fun exits => ?_
      exact Mirrors.ite (mirrors_pure _) ih

theorem countIncoming_mirrored (adjacency : List (List Stage)) (forward : List Bool) :
    Mirrors (countIncomingWithin adjacency forward) (countIncoming adjacency forward) := by
  apply Mirrors.foldlM
  intro degrees stage
  refine (mirrors_load _ forward stage).bind fun reached => ?_
  apply Mirrors.ite (mirrors_pure _)
  refine (mirrors_load _ adjacency stage).bind fun nexts => ?_
  apply Mirrors.foldlM
  intro degrees next
  exact (mirrors_load _ degrees next).bind fun degree => mirrors_store _ degrees next (degree + 1)

theorem links_mirrored {edges : List Edge}
    (known : ∀ edge ∈ edges, edge.source ∈ knownStages ∧ edge.target ∈ knownStages)
    {adjacency reverse out incoming : List (List Stage)}
    (pushed : edges.foldlM (fun lists edge => do
        let adjacency ← pushCell lists.1 edge.source edge.target
        let reverse ← pushCell lists.2 edge.target edge.source
        return (adjacency, reverse)) (adjacency, reverse) = some (out, incoming)) :
    linksWithin adjacency reverse edges =
      .ok (.ok (out.map sortStages, incoming.map sortStages)) := by
  induction edges generalizing adjacency reverse with
  | nil =>
      cases pushed
      rfl
  | cons edge rest ih =>
      obtain ⟨source, target⟩ := known edge List.mem_cons_self
      have inside : ¬(edge.source.index ≥ kStageCount ∨ edge.target.index ≥ kStageCount) := by
        rw [not_or, not_le, not_le]
        exact ⟨known_indexed source, known_indexed target⟩
      rw [List.foldlM_cons] at pushed
      simp only [pushCell, Option.bind_eq_bind, Option.bind_eq_some_iff, Option.pure_def,
        Option.some.injEq] at pushed
      obtain ⟨_, ⟨first, ⟨targets, held, set⟩, second, ⟨sources, kept, change⟩, rfl⟩, later⟩ := pushed
      rw [linksWithin, if_neg inside]
      refine (bind_eq_ok _ _ _).mpr ⟨targets, mirrors_load _ _ _ _ held, ?_⟩
      refine (bind_eq_ok _ _ _).mpr ⟨first, mirrors_store _ _ _ _ _ set, ?_⟩
      refine (bind_eq_ok _ _ _).mpr ⟨sources, mirrors_load _ _ _ _ kept, ?_⟩
      refine (bind_eq_ok _ _ _).mpr ⟨second, mirrors_store _ _ _ _ _ change, ?_⟩
      exact ih (fun other within => known other (List.mem_cons_of_mem _ within)) later

/-! ### The frontier -/

variable {graph : LifecycleGraph} {lists adjacency reverse : List (List Stage)}
  {table : Stage → List Stage} {entry stage : Stage} {search : Search Stage}
  {traversal : Traversal} {state : Frontier} {head : Nat}

structure Fronts (state : Frontier) (head : Nat) (traversal : Traversal) : Prop where
  visited : state.visited = traversal.visited
  tail : state.tail = traversal.tail
  cells : state.cells.length = kStageCount
  holds : Holds state.cells head state.tail traversal.queue

theorem visit_fronts (flags : StageArray) (tracks : Tracks traversal search) (fronts : Fronts state head traversal)
    {next : Stage} (known : next ∈ knownStages) :
    ∃ seen marked, traversal.visit next = some seen ∧ Tracks seen (search.visit next) ∧
      state.visit flags next = .ok marked ∧ Fronts marked head seen := by
  obtain ⟨seen, visit, tracked⟩ := visit_tracks tracks known
  refine ⟨seen, ?_⟩
  have room : traversal.tail < kStageCount := lt_of_le_of_lt tracks.room (stageSet_room tracks.known)
  have running := tracks.running
  have small : ¬traversal.tail ≥ kStageCount := not_le.mpr room
  have fits : ¬state.tail ≥ state.cells.length := by
    rw [fronts.tail, fronts.cells]
    exact small
  have flag := tracks.marks.cells next (known_indexed known)
  have taken := visit
  unfold Traversal.visit at taken
  simp only [running, flag, Bool.false_eq_true, if_false, Option.bind_eq_bind, Option.bind_some,
    small, Option.pure_def] at taken
  have read : load flags state.visited next.index = .ok (decide (next ∈ search.visited)) := by
    rw [fronts.visited]
    exact mirrors_load flags _ next _ flag
  by_cases old : decide (next ∈ search.visited) = true
  · rw [if_pos old, Option.some.injEq] at taken
    subst taken
    refine ⟨state, visit, tracked, (bind_eq_ok _ _ _).mpr ⟨_, read, ?_⟩, fronts⟩
    rw [if_pos old]
    rfl
  · rw [if_neg old] at taken
    obtain ⟨changed, set, same⟩ := Option.bind_eq_some_iff.mp taken
    have inside : state.tail < state.cells.length := Nat.lt_of_not_ge fits
    refine ⟨⟨changed, state.cells.set state.tail next, state.tail + 1⟩, visit, tracked, ?_, ?_⟩
    · refine (bind_eq_ok _ _ _).mpr ⟨_, read, ?_⟩
      rw [if_neg old, if_neg fits, fronts.visited]
      refine (bind_eq_ok _ _ _).mpr ⟨changed, mirrors_store flags _ next true _ set, ?_⟩
      exact (bind_eq_ok _ _ _).mpr ⟨_, store_ok .frontier inside next, rfl⟩
    cases same
    refine ⟨rfl, by rw [← fronts.tail], ?_, fronts.holds.push inside next⟩
    rw [List.length_set]
    exact fronts.cells

theorem visits_fronts (flags : StageArray) (tracks : Tracks traversal search) (fronts : Fronts state head traversal)
    {nexts : List Stage} (known : ∀ next ∈ nexts, next ∈ knownStages) :
    ∃ seen marked, nexts.foldlM Traversal.visit traversal = some seen ∧
      Tracks seen (nexts.foldl Search.visit search) ∧
      nexts.foldlM (Frontier.visit flags) state = .ok marked ∧ Fronts marked head seen := by
  induction nexts generalizing traversal search state with
  | nil => exact ⟨traversal, state, rfl, tracks, rfl, fronts⟩
  | cons next rest ih =>
      obtain ⟨first, middle, visit, tracks, marks, fronts⟩ :=
        visit_fronts flags tracks fronts (known next List.mem_cons_self)
      obtain ⟨seen, marked, later, tracked, follows, fronted⟩ :=
        ih tracks fronts fun other inside => known other (List.mem_cons_of_mem _ inside)
      refine ⟨seen, marked, ?_, tracked, ?_, fronted⟩
      · rw [List.foldlM_cons, visit]
        exact later
      · rw [List.foldlM_cons, marks]
        exact follows

/-- The loop ends before its fuel does: the head never passes the tail, which stays below the
number of stages. -/
theorem drain_fronts (links flags : StageArray) (listed : Lists lists table) (fuel : Nat)
    (tracks : Tracks traversal search) (fronts : Fronts state head traversal) (spent : head + fuel = kStageCount)
    (queued : ∀ stage ∈ search.queue, stage ∈ knownStages) :
    ∃ final drained, Traversal.drain lists fuel traversal = some final ∧
      state.drain links flags lists fuel head = .ok drained ∧
      drained.visited = final.visited ∧ drained.cells.length = kStageCount := by
  have room : state.tail < kStageCount := by
    rw [fronts.tail]
    exact lt_of_le_of_lt tracks.room (stageSet_room tracks.known)
  induction fuel generalizing head traversal search state with
  | zero =>
      refine ⟨traversal, state, rfl, ?_, fronts.visited, fronts.cells⟩
      unfold Frontier.drain
      rw [if_neg (by omega)]
  | succ fuel ih =>
      obtain ⟨marks, waiting, tail, stopped⟩ := traversal
      obtain ⟨visited, queue⟩ := search
      obtain rfl : waiting = queue := tracks.queue
      obtain rfl : stopped = false := tracks.running
      have length := fronts.holds.length
      unfold Traversal.drain Frontier.drain
      cases waiting with
      | nil =>
          rw [List.length_nil] at length
          rw [if_neg (by omega)]
          exact ⟨_, state, rfl, rfl, fronts.visited, fronts.cells⟩
      | cons current queue =>
          rw [List.length_cons] at length
          obtain ⟨front, rest⟩ := fronts.holds.front
          have known := queued current List.mem_cons_self
          have held := listed.cells.cells current (known_indexed known)
          have taken : Tracks ⟨marks, queue, tail, false⟩ ⟨visited, queue⟩ :=
            ⟨tracks.marks, rfl, rfl, tracks.room, tracks.known⟩
          have left : Fronts state (head + 1) ⟨marks, queue, tail, false⟩ :=
            ⟨fronts.visited, fronts.tail, fronts.cells, rest⟩
          obtain ⟨expanded, middle, visits, expands, follows, fronted⟩ :=
            visits_fronts flags taken left (listed.known current)
          have later : ∀ stage ∈ ((table current).foldl Search.visit ⟨visited, queue⟩).queue,
              stage ∈ knownStages := by
            intro stage inside
            rcases Search.visits_queue inside with old | next
            · exact queued stage (List.mem_cons_of_mem _ old)
            · exact listed.known current stage next
          have small : middle.tail < kStageCount := by
            rw [fronted.tail]
            exact lt_of_le_of_lt expands.room (stageSet_room expands.known)
          obtain ⟨final, drained, ends, loops, same, size⟩ :=
            ih expands fronted (by omega) later small
          refine ⟨final, drained, ?_, ?_, same, size⟩
          · simp only [Bool.false_eq_true, if_false, Option.bind_eq_bind, held, Option.bind_some,
              visits]
            exact ends
          · rw [if_pos (by omega)]
            refine (bind_eq_ok _ _ _).mpr ⟨current, load_ok _ front, ?_⟩
            refine (bind_eq_ok _ _ _).mpr ⟨_, mirrors_load _ _ _ _ held, ?_⟩
            exact (bind_eq_ok _ _ _).mpr ⟨middle, follows, loops⟩

theorem traverse_within (links flags : StageArray) (listed : Lists lists table) {marks : List Bool} {visited : Finset Stage}
    (marked : Marks marks visited) (inside : visited ⊆ stageSet) (known : stage ∈ knownStages)
    {frontier : List Stage} (size : frontier.length = kStageCount) :
    ∃ after cells, traverse stage lists marks = some after ∧
      traverseWithin links flags stage lists marks frontier = .ok (after, cells) ∧
      cells.length = kStageCount := by
  obtain ⟨changed, set, marked⟩ := Marks.setCell marked known
  have tracks : Tracks ⟨changed, [stage], 1, false⟩ ⟨insert stage visited, [stage]⟩ :=
    ⟨marked, rfl, rfl, Finset.card_pos.mpr ⟨stage, Finset.mem_insert_self _ _⟩,
      Finset.insert_subset (mem_stageSet.mpr known) inside⟩
  have first : 0 < frontier.length := by
    rw [size]
    decide
  have fronts : Fronts ⟨changed, frontier.set 0 stage, 1⟩ 0 ⟨changed, [stage], 1, false⟩ :=
    ⟨rfl, rfl, by rw [List.length_set, size], (holds_empty frontier).push first stage⟩
  obtain ⟨final, drained, ends, loops, same, length⟩ := drain_fronts links flags
    listed kStageCount tracks fronts (Nat.zero_add _) (by simpa using known)
  refine ⟨final.visited, drained.cells, ?_, ?_, length⟩
  · unfold traverse
    simp only [set, ends, Option.bind_eq_bind, Option.bind_some, Option.pure_def]
  · refine (bind_eq_ok _ _ _).mpr ⟨changed, mirrors_store flags _ _ _ _ set, ?_⟩
    refine (bind_eq_ok _ _ _).mpr ⟨_, store_ok .frontier first stage, ?_⟩
    refine (bind_eq_ok _ _ _).mpr ⟨drained, loops, ?_⟩
    rw [same]
    rfl

theorem backward_within (linked : graph.Linked adjacency reverse) {stages : List Stage}
    (known : ∀ stage ∈ stages, stage ∈ knownStages) {marks : List Bool} {before : Finset Stage}
    (marked : Marks marks before) (inside : before ⊆ stageSet) {frontier : List Stage}
    (size : frontier.length = kStageCount) :
    ∃ backward, stages.foldlM (fun backward stage => do
        let nexts ← cell adjacency stage
        if nexts.any exitsTo then traverse stage reverse backward else return backward) marks =
          some backward ∧
      backwardWithin adjacency reverse stages marks frontier = .ok backward := by
  induction stages generalizing marks before frontier with
  | nil => exact ⟨marks, rfl, rfl⟩
  | cons exit rest ih =>
      have exitKnown := known exit List.mem_cons_self
      have restKnown : ∀ stage ∈ rest, stage ∈ knownStages :=
        fun stage later => known stage (List.mem_cons_of_mem _ later)
      have held := linked.outs.cells.cells exit (known_indexed exitKnown)
      simp only [List.foldlM_cons, held, Option.bind_eq_bind, Option.bind_some]
      by_cases exits : (graph.successors exit).any exitsTo = true
      · obtain ⟨after, traversed, marks, within⟩ :=
          traverse_marks linked.ins marked inside exitKnown
        obtain ⟨same, cells, again, follows, length⟩ :=
          traverse_within .reverse .backward linked.ins marked inside exitKnown size
        obtain rfl : after = same := Option.some.inj (traversed.symm.trans again)
        obtain ⟨backward, folded, later⟩ := ih restKnown marks within length
        refine ⟨backward, ?_, ?_⟩
        · rw [if_pos exits, traversed]
          exact folded
        · refine (bind_eq_ok _ _ _).mpr ⟨_, mirrors_load _ _ _ _ held, ?_⟩
          rw [if_pos exits]
          exact (bind_eq_ok _ _ _).mpr ⟨_, follows, later⟩
      · obtain ⟨backward, folded, later⟩ := ih restKnown marked inside size
        refine ⟨backward, ?_, ?_⟩
        · rw [if_neg exits]
          exact folded
        · refine (bind_eq_ok _ _ _).mpr ⟨_, mirrors_load _ _ _ _ held, ?_⟩
          rw [if_neg exits]
          exact later

/-! ### The topological queue -/

variable {forward : List Bool} {nodes done : Finset Stage} {total spent : Stage → Nat}
  {order : Order Stage} {queued : OrderQueue} {plain : TopologicalQueue}

structure Orders (queued : OrderQueue) (head : Nat) (plain : TopologicalQueue) : Prop where
  degrees : queued.degrees = plain.degrees
  size : queued.size = plain.size
  cells : queued.cells.length = kStageCount
  holds : Holds queued.cells head queued.size plain.queue

theorem seeds_held (marks : Marks forward nodes) (tabulated : Tabulates queued.degrees total)
    {stages found : List Stage} (indexed : ∀ stage ∈ stages, stage.index < kStageCount)
    (size : queued.cells.length = kStageCount) (holds : Holds queued.cells 0 queued.size found)
    (room : queued.size + stages.length ≤ kStageCount) :
    ∃ seeded, stages.foldlM (seedWithin forward) queued = .ok seeded ∧
      seeded.degrees = queued.degrees ∧ seeded.cells.length = kStageCount ∧
      Holds seeded.cells 0 seeded.size
        (found ++ stages.filter fun stage => decide (stage ∈ nodes) && total stage == 0) := by
  induction stages generalizing queued found with
  | nil =>
      refine ⟨queued, rfl, rfl, size, ?_⟩
      rw [List.filter_nil, List.append_nil]
      exact holds
  | cons stage rest ih =>
      have within := indexed stage List.mem_cons_self
      have later : ∀ stage ∈ rest, stage.index < kStageCount :=
        fun other inside => indexed other (List.mem_cons_of_mem _ inside)
      rw [List.length_cons] at room
      have flag := mirrors_load .forward _ _ _ (marks.cells stage within)
      have degree := mirrors_load .inDegree _ _ _ (tabulated.cells stage within)
      by_cases root : (decide (stage ∈ nodes) && total stage == 0) = true
      · have inside : queued.size < queued.cells.length := by omega
        obtain ⟨seeded, folded, degrees, length, held⟩ :=
          @ih ⟨queued.cells.set queued.size stage, queued.size + 1, queued.degrees⟩ tabulated
            (found ++ [stage]) later (by rw [List.length_set, size]) (holds.push inside stage)
            (by dsimp only; omega)
        refine ⟨seeded, ?_, degrees, length, ?_⟩
        · rw [List.foldlM_cons]
          refine (bind_eq_ok _ _ _).mpr ⟨_, ?_, folded⟩
          refine (bind_eq_ok _ _ _).mpr ⟨_, flag, (bind_eq_ok _ _ _).mpr ⟨_, degree, ?_⟩⟩
          rw [if_pos root]
          exact (bind_eq_ok _ _ _).mpr ⟨_, store_ok .orderQueue inside stage, rfl⟩
        · rwa [List.filter_cons, if_pos root, List.append_cons]
      · obtain ⟨seeded, folded, degrees, length, held⟩ :=
          ih tabulated later size holds (by omega)
        refine ⟨seeded, ?_, degrees, length, ?_⟩
        · rw [List.foldlM_cons]
          refine (bind_eq_ok _ _ _).mpr ⟨queued, ?_, folded⟩
          refine (bind_eq_ok _ _ _).mpr ⟨_, flag, (bind_eq_ok _ _ _).mpr ⟨_, degree, ?_⟩⟩
          rw [if_neg root]
          rfl
        · rwa [List.filter_cons, if_neg root]

theorem relax_orders (ranked : Ranked plain done order)
    (ranks : Ranks graph.successors nodes total done spent order) (inside : nodes ⊆ stageSet)
    (marks : Marks forward nodes) (orders : Orders queued head plain) {next : Stage}
    (known : next ∈ knownStages) :
    ∃ relaxed moved, plain.relax forward next = some relaxed ∧
      Ranked relaxed done (Orderings.relax nodes order next) ∧
      queued.relax forward next = .ok moved ∧ Orders moved head relaxed := by
  obtain ⟨relaxed, taken, after⟩ := relax_ranked ranked ranks inside marks known
  have indexed := known_indexed known
  have room := ranked.room ranks inside
  have fits : queued.size < queued.cells.length := by
    rw [orders.size, orders.cells]
    exact room
  have flag := marks.cells next indexed
  have held := ranked.degrees.cells next indexed
  have degree := mirrors_load .inDegree _ _ _ held
  rw [← orders.degrees] at degree
  have steps := taken
  unfold TopologicalQueue.relax at steps
  simp only [held, flag, Option.bind_eq_bind, Option.bind_some, Option.pure_def] at steps
  refine ⟨relaxed, ?_⟩
  by_cases skipped : (order.degrees next = 0 || !decide (next ∈ nodes)) = true
  · rw [if_pos skipped, Option.some.injEq] at steps
    subst steps
    refine ⟨queued, taken, after, ?_, orders⟩
    refine (bind_eq_ok _ _ _).mpr ⟨_, degree, (bind_eq_ok _ _ _).mpr ⟨_, mirrors_load _ _ _ _ flag, ?_⟩⟩
    rw [if_pos skipped]
    rfl
  · rw [if_neg skipped] at steps
    obtain ⟨degrees, set, same⟩ := Option.bind_eq_some_iff.mp steps
    have stored := mirrors_store .inDegree _ _ _ _ set
    rw [← orders.degrees] at stored
    by_cases last : order.degrees next - 1 = 0
    · rw [if_pos (by simp [last, room]), Option.some.injEq] at same
      subst same
      refine ⟨⟨queued.cells.set queued.size next, queued.size + 1, degrees⟩, taken, after, ?_, ?_⟩
      · refine (bind_eq_ok _ _ _).mpr ⟨_, degree,
          (bind_eq_ok _ _ _).mpr ⟨_, mirrors_load _ _ _ _ flag, ?_⟩⟩
        rw [if_neg skipped]
        refine (bind_eq_ok _ _ _).mpr ⟨degrees, stored, ?_⟩
        rw [if_pos last, if_pos fits]
        exact (bind_eq_ok _ _ _).mpr ⟨_, store_ok .orderQueue fits next, rfl⟩
      · refine ⟨rfl, by rw [← orders.size], ?_, orders.holds.push fits next⟩
        rw [List.length_set]
        exact orders.cells
    · rw [if_neg (by simp [last]), Option.some.injEq] at same
      subst same
      refine ⟨⟨queued.cells, queued.size, degrees⟩, taken, after, ?_, rfl, orders.size,
        orders.cells, orders.holds⟩
      refine (bind_eq_ok _ _ _).mpr ⟨_, degree,
        (bind_eq_ok _ _ _).mpr ⟨_, mirrors_load _ _ _ _ flag, ?_⟩⟩
      rw [if_neg skipped]
      refine (bind_eq_ok _ _ _).mpr ⟨degrees, stored, ?_⟩
      rw [if_neg last]
      rfl

theorem relaxes_orders (inside : nodes ⊆ stageSet) (marks : Marks forward nodes)
    {nexts : List Stage} (known : ∀ next ∈ nexts, next ∈ knownStages)
    (ranked : Ranked plain done order)
    (ranks : Ranks graph.successors nodes total done spent order)
    (bound : ∀ stage, spent stage + nexts.count stage ≤ incoming graph.successors done stage)
    (orders : Orders queued head plain) :
    ∃ relaxed moved, nexts.foldlM (TopologicalQueue.relax forward) plain = some relaxed ∧
      Ranked relaxed done (nexts.foldl (Orderings.relax nodes) order) ∧
      nexts.foldlM (OrderQueue.relax forward) queued = .ok moved ∧ Orders moved head relaxed := by
  induction nexts generalizing plain spent order queued with
  | nil => exact ⟨plain, queued, rfl, ranked, rfl, orders⟩
  | cons next rest ih =>
      obtain ⟨first, middle, relaxed, ranked, moved, orders⟩ :=
        relax_orders ranked ranks inside marks orders (known next List.mem_cons_self)
      have least := bound next
      rw [List.count_cons_self] at least
      obtain ⟨after, final, later, ranked, follows, orders⟩ :=
        ih (fun other within => known other (List.mem_cons_of_mem _ within)) ranked
          (ranks.relaxed next (by omega)) (fun stage => by
            rw [spent_cons]
            exact bound stage) orders
      refine ⟨after, final, ?_, ranked, ?_, orders⟩
      · rw [List.foldlM_cons, relaxed]
        exact later
      · rw [List.foldlM_cons, moved]
        exact follows

theorem drain_orders (listed : Lists adjacency graph.successors) (inside : nodes ⊆ stageSet)
    (marks : Marks forward nodes) (fuel : Nat) (ranked : Ranked plain done order)
    (ranks : Ranks graph.successors nodes total done (incoming graph.successors done) order)
    (orders : Orders queued head plain) (spare : head + fuel = kStageCount) (ordered : Nat) :
    ∃ count, TopologicalQueue.drain adjacency forward fuel plain ordered = some count ∧
      queued.drain adjacency forward fuel head ordered = .ok count := by
  induction fuel generalizing done plain order queued head ordered with
  | zero =>
      have room := ranked.room ranks inside
      rw [← orders.size] at room
      refine ⟨ordered, rfl, ?_⟩
      unfold OrderQueue.drain
      rw [if_neg (by omega)]
  | succ fuel ih =>
      obtain ⟨waiting, size, degrees⟩ := plain
      obtain ⟨queue, values⟩ := order
      obtain rfl : waiting = queue := ranked.queue
      have length := orders.holds.length
      unfold TopologicalQueue.drain OrderQueue.drain
      cases waiting with
      | nil =>
          rw [List.length_nil] at length
          rw [if_neg (by omega)]
          exact ⟨ordered, rfl, rfl⟩
      | cons current queue =>
          rw [List.length_cons] at length
          obtain ⟨front, rest⟩ := orders.holds.front
          obtain ⟨fresh, within, left⟩ := ranks.leave
          have known := mem_stageSet.mp (inside within)
          have held := listed.cells.cells current (known_indexed known)
          have moved : Orders queued (head + 1) ⟨queue, size, degrees⟩ :=
            ⟨orders.degrees, orders.size, orders.cells, rest⟩
          obtain ⟨relaxed, middle, folded, later, follows, orders⟩ := relaxes_orders inside marks
            (listed.known current) (ranked.leave fresh) left
            (fun stage => by rw [incoming_insert fresh]) moved
          obtain ⟨count, counted, loops⟩ := ih later ranks.take orders (by omega) (ordered + 1)
          refine ⟨count, ?_, ?_⟩
          · simp only [held, Option.bind_eq_bind, Option.bind_some, folded]
            exact counted
          · rw [if_pos (by omega)]
            refine (bind_eq_ok _ _ _).mpr ⟨current, load_ok _ front, ?_⟩
            refine (bind_eq_ok _ _ _).mpr ⟨_, mirrors_load _ _ _ _ held, ?_⟩
            exact (bind_eq_ok _ _ _).mpr ⟨middle, follows, loops⟩

theorem topologicallyOrdered_within (listed : Lists adjacency graph.successors)
    (marks : Marks forward nodes) (inside : nodes ⊆ stageSet) :
    ∃ ordered, topologicallyOrdered adjacency forward = some ordered ∧
      topologicallyOrderedWithin adjacency forward = .ok ordered := by
  obtain ⟨degrees, counts, tabulated⟩ := countIncoming_tabulated listed marks inside
  let accept (stage : Stage) : Bool := decide (stage ∈ nodes) &&
    incoming graph.successors (counted nodes) stage == 0
  have filtered : (allStages.filterM fun stage => do
      let reached ← cell forward stage
      let degree ← cell degrees stage
      return reached && degree == 0) = some (allStages.filter accept) := by
    apply filterM_some
    intro stage listed
    have indexed := allStages_indexed stage listed
    simp only [marks.cells stage indexed, tabulated.cells stage indexed, Option.bind_eq_bind,
      Option.bind_some, Option.pure_def]
    rfl
  have rooted (stage : Stage) : stage ∈ allStages.filter accept ↔
      stage ∈ nodes ∧ incoming graph.successors (counted nodes) stage = 0 := by
    simp only [accept, List.mem_filter, Bool.and_eq_true, decide_eq_true_eq, beq_iff_eq]
    refine and_iff_right_of_imp fun held => ?_
    exact List.mem_cons_of_mem _ (mem_stageSet.mp (inside held.1))
  have first := Ranks.first graph.successors (allStages_nodup.filter _) rooted
  obtain ⟨seeded, folded, same, length, holds⟩ := @seeds_held forward nodes _
    ⟨List.replicate kStageCount .invalid, 0, degrees⟩ marks tabulated allStages [] allStages_indexed
    List.length_replicate (holds_empty _) (show 0 + allStages.length ≤ kStageCount by decide)
  have ranked : Ranked ⟨allStages.filter accept, (allStages.filter accept).length, degrees⟩ ∅
      ⟨allStages.filter accept, incoming graph.successors (counted nodes)⟩ :=
    ⟨rfl, tabulated, by rw [Finset.card_empty, Nat.zero_add]⟩
  have size := holds.length
  rw [Nat.zero_add] at size
  have orders : Orders seeded 0 ⟨allStages.filter accept, (allStages.filter accept).length, degrees⟩ :=
    ⟨same, size.symm, length, holds⟩
  obtain ⟨ordered, counted, loops⟩ := drain_orders listed inside marks kStageCount ranked first
    orders (Nat.zero_add _) 0
  refine ⟨ordered, ?_, ?_⟩
  · unfold topologicallyOrdered
    simp only [Option.bind_eq_bind] at filtered ⊢
    rw [counts, Option.bind_some, filtered, Option.bind_some]
    exact counted
  · refine (bind_eq_ok _ _ _).mpr ⟨degrees, countIncoming_mirrored _ _ _ counts, ?_⟩
    exact (bind_eq_ok _ _ _).mpr ⟨seeded, folded, loops⟩

/-! ### The whole validation -/

theorem links_within (staged : graph.Staged) {adjacency reverse : List (List Stage)}
    (linked : LifecycleGraph.links graph.edges = some (adjacency, reverse)) :
    linksWithin (List.replicate kStageCount []) (List.replicate kStageCount []) graph.edges =
      .ok (.ok (adjacency, reverse)) := by
  unfold LifecycleGraph.links at linked
  simp only [Option.bind_eq_bind, Option.pure_def, Option.bind_eq_some_iff, Option.some.injEq,
    Prod.mk.injEq] at linked
  obtain ⟨⟨out, incoming⟩, pushed, rfl, rfl⟩ := linked
  exact links_mirrored staged pushed

theorem validateWithin_named (shaped : graph.Shaped entry) (known : entry ∈ knownStages) :
    ∃ verdict, graph.validate entry = some verdict ∧
      graph.validateWithin entry = .ok verdict := by
  have staged := shaped.staged
  obtain ⟨adjacency, reverse, linked, arrays⟩ := links_linked staged
  have blank : Marks (List.replicate kStageCount false) ∅ :=
    (tabulates_replicate false).congr fun stage => by simp
  have none : (∅ : Finset Stage) ⊆ stageSet := Finset.empty_subset _
  obtain ⟨forward, reached, traversed, forwards, inside, _⟩ := forward_marks arrays known
  obtain ⟨same, frontier, again, follows, length⟩ := traverse_within .adjacency .forward arrays.outs
    blank none known (List.length_replicate (a := Stage.invalid))
  obtain rfl : forward = same := Option.some.inj (traversed.symm.trans again)
  obtain ⟨backward, exiting, searched, backwards, _⟩ := backward_marks arrays
  obtain ⟨found, folded, back⟩ := backward_within arrays (fun _ known => known) blank none length
  obtain rfl : backward = found := Option.some.inj (searched.symm.trans folded)
  obtain ⟨placed, checked, _⟩ := checkReach_verdict arrays forwards backwards
    fun stage (known : stage ∈ knownStages) => known
  obtain ⟨ordered, counted, loops⟩ := topologicallyOrdered_within arrays.outs forwards inside
  have checks := checkReach_mirrored _ _ _ _ _ _ checked
  have shape := checkShape_iff.mpr shaped
  unfold validate validateWithin
  rw [shape]
  simp only [linked, traversed, searched, checked, counted, links_within staged linked, follows, back,
    checks, loops, Option.bind_some, bind, Except.bind, pure, Except.pure]
  cases placed with
  | error status => exact ⟨_, rfl, rfl⟩
  | ok value => exact ⟨_, rfl, rfl⟩

theorem validateWithin_unnamed (shaped : graph.Shaped entry) (outside : kStageCount ≤ entry.index) :
    graph.validate entry = none ∧
      graph.validateWithin entry = .error (.outside .forward entry.index) := by
  have staged := shaped.staged
  obtain ⟨adjacency, reverse, linked, _⟩ := links_linked staged
  have short : ¬entry.index < (List.replicate kStageCount false).length := by
    rw [List.length_replicate]
    omega
  have shape := checkShape_iff.mpr shaped
  constructor
  · unfold validate
    rw [shape]
    simp only [linked, traverse, setCell, if_neg short, Option.bind_eq_bind, Option.bind_none,
      Option.bind_some]
  · unfold validateWithin
    rw [shape]
    simp only [links_within staged linked, traverseWithin, store, if_neg short, bind, Except.bind]

theorem validateWithin_refused {status : Status} (refused : graph.checkShape entry = .error status) :
    graph.validate entry = some (.error status) ∧
      graph.validateWithin entry = .ok (.error status) := by
  unfold validate validateWithin
  rw [refused]
  exact ⟨rfl, rfl⟩

theorem validateWithin_iff {verdict : Result Unit} :
    graph.validateWithin entry = .ok verdict ↔ graph.validate entry = some verdict := by
  cases shape : graph.checkShape entry with
  | error status =>
      obtain ⟨plain, within⟩ := validateWithin_refused shape
      rw [plain, within, Except.ok.injEq, Option.some.injEq]
  | ok value =>
      have shaped := checkShape_iff.mp shape
      by_cases inside : entry.index < kStageCount
      · have known := mem_knownStages.mpr (isValidStageValue_of_small shaped.named inside)
        obtain ⟨other, plain, within⟩ := validateWithin_named shaped known
        rw [plain, within, Except.ok.injEq, Option.some.injEq]
      · obtain ⟨plain, within⟩ := validateWithin_unnamed shaped (Nat.le_of_not_lt inside)
        rw [plain, within]
        simp

/-- Validation stays inside its arrays and keeps every stage in its queues if and only if the checks
before the traversals reject the graph or the entry stage has a cell in the arrays. -/
theorem validate_inside_iff (graph : LifecycleGraph) (entry : Stage) :
    (∃ verdict, graph.validateWithin entry = .ok verdict) ↔
      (graph.checkShape entry = .ok () → entry.index < kStageCount) := by
  constructor
  · rintro ⟨verdict, within⟩ shape
    by_contra outside
    have fault := (validateWithin_unnamed (checkShape_iff.mp shape) (Nat.le_of_not_lt outside)).2
    rw [fault] at within
    cases within
  · intro inside
    cases shape : graph.checkShape entry with
    | error status => exact ⟨_, (validateWithin_refused shape).2⟩
    | ok value =>
        have shaped := checkShape_iff.mp shape
        have known := mem_knownStages.mpr (isValidStageValue_of_small shaped.named (inside shape))
        obtain ⟨verdict, _, within⟩ := validateWithin_named shaped known
        exact ⟨verdict, within⟩

def strayEntryPolicy : PromotionPolicy where
  id := ⟨0, 1⟩
  generation := ⟨1⟩
  name := text "policy"
  graph := reference
  entryStage := .unnamed 11 (by decide)

/-- The reference graph with the entry stage 11 is written outside the forward array, and a policy
made of the two is validated no better. -/
theorem entry_outside_arrays :
    (¬∀ (graph : LifecycleGraph) (entry : Stage), ∃ verdict,
      graph.validateWithin entry = .ok verdict) ∧
    reference.validateWithin strayEntryPolicy.entryStage = .error (.outside .forward 11) ∧
    strayEntryPolicy.validate = none := by
  have fault : reference.validateWithin strayEntryPolicy.entryStage =
      .error (.outside .forward 11) := by decide +kernel
  refine ⟨fun inside => ?_, fault, by decide +kernel⟩
  obtain ⟨verdict, within⟩ := inside reference strayEntryPolicy.entryStage
  rw [fault] at within
  cases within

end LifecycleGraph

end ArtifactPromotion
