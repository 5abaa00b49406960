import Mathlib.Data.List.Basic

/-! Writers that show where their output ends, whatever is written after it. What two values written
alike have in common is what the view of them keeps. -/

namespace Delimiting

variable {α β γ δ : Type}

/-- From what is written first, one can tell the view of the value and what follows. -/
def Delimited (write : α → List β) (view : α → γ) : Prop :=
  ∀ first second rest other, write first ++ rest = write second ++ other →
    view first = view second ∧ rest = other

theorem Delimited.of_load {write : α → List β} {view : α → γ} {size : Nat} (load : List β → γ)
    (sized : ∀ value, (write value).length = size)
    (loads : ∀ value rest, load (write value ++ rest) = view value) : Delimited write view := by
  intro first second rest other same
  constructor
  · rw [← loads first rest, same, loads second other]
  · exact (List.append_inj same ((sized first).trans (sized second).symm)).2

theorem Delimited.append {write : α → List β} {view : α → γ} {later : α → List β} {look : α → δ}
    (delimited : Delimited write view) (ends : Delimited later look) :
    Delimited (fun value => write value ++ later value) fun value => (view value, look value) := by
  intro first second rest other same
  rw [List.append_assoc, List.append_assoc] at same
  obtain ⟨viewed, same⟩ := delimited first second _ _ same
  obtain ⟨looked, same⟩ := ends first second rest other same
  exact ⟨Prod.ext viewed looked, same⟩

theorem Delimited.comp {write : α → List β} {view : α → γ} (delimited : Delimited write view)
    (part : δ → α) : Delimited (fun value => write (part value)) fun value => view (part value) :=
  fun first second => delimited (part first) (part second)

/-- What is written never begins with an encoded value. -/
def Stops (write : α → List β) (rest : List β) : Prop := ∀ value more, rest ≠ write value ++ more

theorem Delimited.flatMap {write : α → List β} {view : α → γ} (delimited : Delimited write view)
    {left right : List α} {rest other : List β} (stops : Stops write rest)
    (otherStops : Stops write other) (same : left.flatMap write ++ rest = right.flatMap write ++ other) :
    left.map view = right.map view ∧ rest = other := by
  induction left generalizing right with
  | nil =>
      cases right with
      | nil => exact ⟨rfl, same⟩
      | cons first later =>
          rw [List.flatMap_cons, List.append_assoc] at same
          exact absurd same (stops first _)
  | cons first later ih =>
      cases right with
      | nil =>
          rw [List.flatMap_cons, List.append_assoc] at same
          exact absurd same.symm (otherStops first _)
      | cons second remaining =>
          rw [List.flatMap_cons, List.flatMap_cons, List.append_assoc, List.append_assoc] at same
          obtain ⟨viewed, same⟩ := delimited first second _ _ same
          obtain ⟨views, same⟩ := ih same
          exact ⟨by rw [List.map_cons, List.map_cons, viewed, views], same⟩

theorem Delimited.counted {write : α → List β} {view : α → γ} (delimited : Delimited write view)
    {left right : List α} {rest other : List β} (length : left.length = right.length)
    (same : left.flatMap write ++ rest = right.flatMap write ++ other) :
    left.map view = right.map view ∧ rest = other := by
  induction left generalizing right with
  | nil =>
      obtain rfl := List.eq_nil_of_length_eq_zero length.symm
      exact ⟨rfl, same⟩
  | cons first later ih =>
      cases right with
      | nil => cases length
      | cons second remaining =>
          rw [List.flatMap_cons, List.flatMap_cons, List.append_assoc, List.append_assoc] at same
          obtain ⟨viewed, same⟩ := delimited first second _ _ same
          obtain ⟨views, same⟩ := ih (Nat.succ.inj length) same
          exact ⟨by rw [List.map_cons, List.map_cons, viewed, views], same⟩

end Delimiting
