import ArtifactPromotion.Core.Wire
import Mathlib.Data.List.Sort

/-! Lifecycle stages and the explicit transition graph with its topology validation. -/

namespace ArtifactPromotion

/-- A value of the stage byte. The named stages are the bytes 0 to 10; `unnamed` holds the
other bytes a caller can cast into the enumeration. -/
inductive Stage where
  | invalid
  | candidate
  | verified
  | qualified
  | staged
  | approved
  | promoted
  | quarantined
  | revoked
  | superseded
  | retired
  | unnamed (raw : UInt8) (outside : 10 < raw)
deriving DecidableEq

namespace Stage

def toByte : Stage → UInt8
  | invalid => 0
  | candidate => 1
  | verified => 2
  | qualified => 3
  | staged => 4
  | approved => 5
  | promoted => 6
  | quarantined => 7
  | revoked => 8
  | superseded => 9
  | retired => 10
  | unnamed raw _ => raw

def ofByte (raw : UInt8) : Stage :=
  if outside : 10 < raw then .unnamed raw outside
  else match raw.toNat with
    | 1 => candidate
    | 2 => verified
    | 3 => qualified
    | 4 => staged
    | 5 => approved
    | 6 => promoted
    | 7 => quarantined
    | 8 => revoked
    | 9 => superseded
    | 10 => retired
    | _ => invalid

@[simp] theorem ofByte_toByte (stage : Stage) : ofByte stage.toByte = stage := by
  cases stage with
  | unnamed raw outside => simp [toByte, ofByte, outside]
  | _ => rfl

theorem toByte_injective : Function.Injective toByte := by
  intro left right same
  rw [← ofByte_toByte left, same, ofByte_toByte]

def index (stage : Stage) : Nat := stage.toByte.toNat

def name : Stage → Text
  | invalid => text "INVALID"
  | candidate => text "CANDIDATE"
  | verified => text "VERIFIED"
  | qualified => text "QUALIFIED"
  | staged => text "STAGED"
  | approved => text "APPROVED"
  | promoted => text "PROMOTED"
  | quarantined => text "QUARANTINED"
  | revoked => text "REVOKED"
  | superseded => text "SUPERSEDED"
  | retired => text "RETIRED"
  | unnamed _ _ => text "INVALID"

end Stage

def kStageMin : Nat := 1
def kStageMax : Nat := 10
def kStageCount : Nat := kStageMax + 1

def isValidStageValue (raw : Nat) : Bool := kStageMin ≤ raw && raw ≤ kStageMax

def isTerminalFailureStage (stage : Stage) : Bool :=
  stage == .revoked || stage == .retired || stage == .superseded

def isHoldingStage (stage : Stage) : Bool := stage == .quarantined

def knownStages : List Stage :=
  [.candidate, .verified, .qualified, .staged, .approved, .promoted, .quarantined, .revoked,
    .superseded, .retired]

structure Edge where
  source : Stage := .invalid
  target : Stage := .invalid
deriving DecidableEq

def Edge.le (left right : Edge) : Bool :=
  if left.source = right.source then left.target.index ≤ right.target.index
  else left.source.index ≤ right.source.index

def Edge.lt (left right : Edge) : Bool := !right.le left

structure LifecycleGraph where
  edges : List Edge := []
deriving DecidableEq

/-- `std::unique`: drops an element equal to its successor. -/
def dropRepeats {α : Type} [DecidableEq α] : List α → List α
  | [] => []
  | [value] => [value]
  | first :: second :: rest =>
      if first = second then dropRepeats (second :: rest)
      else first :: dropRepeats (second :: rest)

namespace LifecycleGraph

def kMaxEdges : Nat := 64

def hasEdge (graph : LifecycleGraph) (source target : Stage) : Bool :=
  graph.edges.any fun edge => edge.source == source && edge.target == target

def addEdge (graph : LifecycleGraph) (source target : Stage) : Bool × LifecycleGraph :=
  if source = .invalid || target = .invalid then (false, graph)
  else if source = target then (false, graph)
  else if graph.hasEdge source target then (false, graph)
  else if graph.edges.length ≥ kMaxEdges then (false, graph)
  else (true, ⟨graph.edges ++ [⟨source, target⟩]⟩)

def canonicalize (graph : LifecycleGraph) : LifecycleGraph :=
  ⟨dropRepeats (graph.edges.insertionSort fun left right => left.le right = true)⟩

/-- `std::is_sorted` together with the absence of adjacent equal edges. -/
def isCanonical (graph : LifecycleGraph) : Bool := strictlySorted graph.edges
where
  strictlySorted : List Edge → Bool
    | first :: second :: rest =>
        !second.lt first && first != second && strictlySorted (second :: rest)
    | _ => true

def reference : LifecycleGraph :=
  let pairs : List (Stage × Stage) := [
    (.candidate, .verified), (.verified, .qualified), (.qualified, .staged), (.staged, .approved),
    (.approved, .promoted), (.candidate, .quarantined), (.verified, .quarantined),
    (.qualified, .quarantined), (.staged, .quarantined), (.approved, .quarantined),
    (.promoted, .quarantined), (.quarantined, .candidate), (.promoted, .revoked),
    (.staged, .revoked), (.approved, .revoked), (.promoted, .superseded), (.staged, .superseded),
    (.approved, .superseded), (.promoted, .retired), (.superseded, .retired), (.revoked, .retired)]
  (pairs.foldl (fun (graph : LifecycleGraph) pair => (graph.addEdge pair.1 pair.2).2) {}).canonicalize

def graphDigest (graph : LifecycleGraph) : Digest :=
  sha256 (graph.edges.flatMap fun edge => [edge.source.toByte, edge.target.toByte])

/-! Validation works on fixed arrays of `kStageCount` cells indexed by the stage byte. An access
outside them is undefined in the source; here it makes the whole computation `none`. -/

def cell {α : Type} (array : List α) (stage : Stage) : Option α := array[stage.index]?

def setCell {α : Type} (array : List α) (stage : Stage) (value : α) : Option (List α) :=
  if stage.index < array.length then some (array.set stage.index value) else none

def pushCell (array : List (List Stage)) (position value : Stage) : Option (List (List Stage)) := do
  let current ← cell array position
  setCell array position (current ++ [value])

def sortStages (stages : List Stage) : List Stage :=
  stages.insertionSort fun left right => left.index ≤ right.index

def links (edges : List Edge) : Option (List (List Stage) × List (List Stage)) := do
  let empty := List.replicate kStageCount []
  let (adjacency, reverse) ← edges.foldlM (fun lists edge => do
    let adjacency ← pushCell lists.1 edge.source edge.target
    let reverse ← pushCell lists.2 edge.target edge.source
    return (adjacency, reverse)) (empty, empty)
  return (adjacency.map sortStages, reverse.map sortStages)

/-- The breadth-first queue: `queue` is what lies between head and tail, `tail` counts every
stage ever enqueued, and `stopped` records the early return on a full frontier. -/
structure Traversal where
  visited : List Bool
  queue : List Stage
  tail : Nat
  stopped : Bool

def Traversal.visit (state : Traversal) (next : Stage) : Option Traversal := do
  if state.stopped then return state
  let seen ← cell state.visited next
  if seen then return state
  if state.tail ≥ kStageCount then return { state with stopped := true }
  let visited ← setCell state.visited next true
  return { state with visited, queue := state.queue ++ [next], tail := state.tail + 1 }

def Traversal.drain (lists : List (List Stage)) : Nat → Traversal → Option Traversal
  | 0, state => some state
  | fuel + 1, state =>
      match state.queue with
      | [] => some state
      | current :: queue => do
          if state.stopped then return state
          let nexts ← cell lists current
          let state ← nexts.foldlM Traversal.visit { state with queue }
          Traversal.drain lists fuel state

def traverse (start : Stage) (lists : List (List Stage)) (visited : List Bool) :
    Option (List Bool) := do
  let visited ← setCell visited start true
  let final ← Traversal.drain lists kStageCount ⟨visited, [start], 1, false⟩
  return final.visited

def exitsTo (stage : Stage) : Bool := isTerminalFailureStage stage || stage == .retired

def backwardReach (adjacency reverse : List (List Stage)) : Option (List Bool) :=
  knownStages.foldlM (fun backward stage => do
    let nexts ← cell adjacency stage
    if nexts.any exitsTo then traverse stage reverse backward else return backward)
    (List.replicate kStageCount false)

def checkReach (adjacency reverse : List (List Stage)) (forward backward : List Bool) :
    List Stage → Option (Result Unit)
  | [] => some (.ok ())
  | stage :: rest => do
      let out ← cell adjacency stage
      let incoming ← cell reverse stage
      if out.isEmpty && incoming.isEmpty then checkReach adjacency reverse forward backward rest
      else
        let reached ← cell forward stage
        if !reached then
          return .error (.of .invalidTransition
            (text "lifecycle stage " ++ stage.name ++ text " is not reachable from the entry stage"))
        else
          let exits ← cell backward stage
          if !exits && !exitsTo stage then
            return .error (.of .invalidTransition (text "lifecycle stage " ++ stage.name ++
              text " cannot reach revocation, supersession, or retirement by any path"))
          else checkReach adjacency reverse forward backward rest

def allStages : List Stage := .invalid :: knownStages

def countIncoming (adjacency : List (List Stage)) (forward : List Bool) : Option (List Nat) :=
  allStages.foldlM (fun degrees stage => do
    let reached ← cell forward stage
    if !reached || isHoldingStage stage then return degrees
    let nexts ← cell adjacency stage
    nexts.foldlM (fun degrees next => do
      let degree ← cell degrees next
      setCell degrees next (degree + 1)) degrees)
    (List.replicate kStageCount 0)

/-- The topological queue: pending stages, the number ever enqueued, and the in-degrees. -/
structure TopologicalQueue where
  queue : List Stage
  size : Nat
  degrees : List Nat

def TopologicalQueue.relax (forward : List Bool) (state : TopologicalQueue) (next : Stage) : Option TopologicalQueue := do
  let degree ← cell state.degrees next
  let reached ← cell forward next
  if degree = 0 || !reached then return state
  let degrees ← setCell state.degrees next (degree - 1)
  if degree - 1 = 0 && state.size < kStageCount then
    return ⟨state.queue ++ [next], state.size + 1, degrees⟩
  else return { state with degrees }

def TopologicalQueue.drain (adjacency : List (List Stage)) (forward : List Bool) :
    Nat → TopologicalQueue → Nat → Option Nat
  | 0, _, ordered => some ordered
  | fuel + 1, state, ordered =>
      match state.queue with
      | [] => some ordered
      | current :: queue => do
          let nexts ← cell adjacency current
          let state ← nexts.foldlM (TopologicalQueue.relax forward) { state with queue }
          TopologicalQueue.drain adjacency forward fuel state (ordered + 1)

def topologicallyOrdered (adjacency : List (List Stage)) (forward : List Bool) : Option Nat := do
  let degrees ← countIncoming adjacency forward
  let roots ← allStages.filterM fun stage => do
    let reached ← cell forward stage
    let degree ← cell degrees stage
    return reached && degree == 0
  TopologicalQueue.drain adjacency forward kStageCount ⟨roots, roots.length, degrees⟩ 0

def checkEdge (edge : Edge) : Result Unit := do
  rejectWhen (edge.source = .invalid || edge.target = .invalid || edge.source = edge.target)
    .invalidTransition "lifecycle graph contains an invalid edge"
  rejectWhen (!isValidStageValue edge.source.index || !isValidStageValue edge.target.index)
    .invalidStage "lifecycle graph references an unknown stage"

def checkShape (graph : LifecycleGraph) (entry : Stage) : Result Unit := do
  rejectWhen (entry = .invalid) .invalidStage "entry stage is INVALID"
  rejectWhen graph.edges.isEmpty .invalidTransition "lifecycle graph has no transitions"
  rejectWhen (graph.edges.length > kMaxEdges) .invalidCount
    "lifecycle graph exceeds the configured edge bound"
  rejectWhen (!graph.isCanonical) .invalidTransition "lifecycle graph is not in canonical order"
  checkEach checkEdge graph.edges

/-- `validate`: `none` when an array access leaves its bounds, which is undefined in the source. -/
def validate (graph : LifecycleGraph) (entry : Stage) : Option (Result Unit) :=
  match graph.checkShape entry with
  | .error status => some (.error status)
  | .ok () => do
      let (adjacency, reverse) ← links graph.edges
      let forward ← traverse entry adjacency (List.replicate kStageCount false)
      let backward ← backwardReach adjacency reverse
      match ← checkReach adjacency reverse forward backward knownStages with
      | .error status => return .error status
      | .ok () =>
          let ordered ← topologicallyOrdered adjacency forward
          return do
            rejectWhen (ordered != forward.countP id) .invalidTransition
              "lifecycle graph contains a cycle"
            rejectWhen (!graph.edges.any fun edge => exitsTo edge.target) .invalidTransition
              "lifecycle graph has no quarantine, revocation, or retirement edge"

example : reference.validate .candidate = some (.ok ()) := by decide +kernel

end LifecycleGraph

end ArtifactPromotion
