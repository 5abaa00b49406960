import Mathlib.Data.List.Basic

/-! A queue kept in a fixed array between a head and a tail index. Taking from the front and adding
at the back move the indices; no cell is used twice. -/

namespace ArrayQueues

variable {α : Type} {cells : List α} {head tail : Nat} {queue : List α}

structure Holds (cells : List α) (head tail : Nat) (queue : List α) : Prop where
  ordered : head ≤ tail
  within : tail ≤ cells.length
  window : (cells.take tail).drop head = queue

theorem Holds.length (holds : Holds cells head tail queue) : head + queue.length = tail := by
  have size := congrArg List.length holds.window
  rw [List.length_drop, List.length_take, Nat.min_eq_left holds.within] at size
  have ordered := holds.ordered
  omega

theorem holds_empty (cells : List α) : Holds cells 0 0 [] :=
  ⟨Nat.le_refl 0, Nat.zero_le _, rfl⟩

theorem take_set_succ (cells : List α) (value : α) (tail : Nat) (room : tail < cells.length) :
    (cells.set tail value).take (tail + 1) = cells.take tail ++ [value] := by
  induction cells generalizing tail with
  | nil => simp at room
  | cons first rest ih =>
      cases tail with
      | zero => simp
      | succ tail =>
          rw [List.set_cons_succ, List.take_succ_cons, List.take_succ_cons, List.cons_append,
            ih tail (by simpa using room)]

theorem Holds.push (holds : Holds cells head tail queue) (room : tail < cells.length) (value : α) :
    Holds (cells.set tail value) head (tail + 1) (queue ++ [value]) := by
  refine ⟨Nat.le_succ_of_le holds.ordered, ?_, ?_⟩
  · rw [List.length_set]
    exact room
  · have size : head ≤ (cells.take tail).length := by
      rw [List.length_take, Nat.min_eq_left holds.within]
      exact holds.ordered
    rw [take_set_succ cells value tail room, List.drop_append_of_le_length size, holds.window]

theorem Holds.front {first : α} (holds : Holds cells head tail (first :: queue)) :
    cells[head]? = some first ∧ Holds cells (head + 1) tail queue := by
  have size := holds.length
  have within := holds.within
  rw [List.length_cons] at size
  have inside : head < (cells.take tail).length := by
    rw [List.length_take]
    omega
  have window := holds.window
  rw [List.drop_eq_getElem_cons inside, List.cons.injEq] at window
  refine ⟨?_, by omega, within, window.2⟩
  rw [← window.1, List.getElem_take]
  exact List.getElem?_eq_getElem (by omega)

end ArrayQueues
