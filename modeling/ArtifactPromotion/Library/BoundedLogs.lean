import ArtifactPromotion.Library.OrderedMaps
import Mathlib.Logic.Relation

/-! Logs with a bound: entries are written once under new keys, and a full log drops its smallest
entry. -/

namespace BoundedLogs

variable {κ ν : Type} [Ord κ] [Std.TransOrd κ] [Std.LawfulEqOrd κ]

/-- A new entry is written above the floor, or the smallest entry of a full log is dropped. -/
inductive Move (bound : Nat) (floor : κ) (log : Std.ExtTreeMap κ ν compare) :
    Std.ExtTreeMap κ ν compare → Prop
  | write {key : κ} {value : ν} (above : compare floor key = .lt) (fresh : log[key]? = none) :
      Move bound floor log (log.insert key value)
  | drop {key : κ} (full : bound ≤ log.size) (smallest : log.minKey? = some key) :
      Move bound floor log (log.erase key)

abbrev Moves (bound : Nat) (floor : κ) :
    Std.ExtTreeMap κ ν compare → Std.ExtTreeMap κ ν compare → Prop :=
  Relation.ReflTransGen (Move bound floor)

variable {bound : Nat} {floor : κ} {log later : Std.ExtTreeMap κ ν compare}

theorem Moves.unmodified (moves : Moves bound floor log later) {key : κ} {value : ν}
    (below : compare floor key ≠ .lt) (held : later[key]? = some value) : log[key]? = some value := by
  induction moves with
  | refl => exact held
  | tail _ move ih =>
      cases move with
      | write above fresh =>
          rcases OrderedMaps.insert_cases held with ⟨rfl, _⟩ | ⟨_, before⟩
          · exact absurd above below
          · exact ih before
      | drop full smallest => exact ih (OrderedMaps.erase_cases held).2

end BoundedLogs
