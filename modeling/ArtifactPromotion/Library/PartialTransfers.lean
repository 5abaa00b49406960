import Mathlib.Data.List.Basic

/-! Transfers that move less than they are asked to: a loop that reads until it has the items it
wants, and one that writes until nothing is left. -/

namespace PartialTransfers

variable {α ε : Type}

/-- What is still to arrive: the pieces in which it comes, and how it ends. -/
structure Incoming (α ε : Type) where
  pieces : List (List α)
  ending : ε
  full : ∀ piece ∈ pieces, piece ≠ []

namespace Incoming

def content (incoming : Incoming α ε) : List α := incoming.pieces.flatten

def read (limit : Nat) : Incoming α ε → Except ε (List α × Incoming α ε)
  | ⟨[], ending, _⟩ => .error ending
  | ⟨piece :: rest, ending, full⟩ =>
      have later : ∀ other ∈ rest, other ≠ [] := fun other inside =>
        full other (List.mem_cons_of_mem _ inside)
      if shorter : limit < piece.length then
        .ok (piece.take limit, ⟨piece.drop limit :: rest, ending, by
          rintro other (_ | ⟨_, inside⟩)
          · simpa using shorter
          · exact later other inside⟩)
      else .ok (piece, ⟨rest, ending, later⟩)

variable {incoming next : Incoming α ε} {limit : Nat} {items : List α}

theorem read_ok (got : incoming.read limit = .ok (items, next)) :
    incoming.content = items ++ next.content ∧ next.ending = incoming.ending ∧
      items.length ≤ limit ∧ (0 < limit → 0 < items.length) := by
  obtain ⟨pieces, ending, full⟩ := incoming
  cases pieces with
  | nil => cases got
  | cons piece rest =>
      have present : 0 < piece.length :=
        List.length_pos_iff.mpr (full piece List.mem_cons_self)
      simp only [read] at got
      split at got
      · rename_i shorter
        cases got
        refine ⟨?_, rfl, List.length_take_le .., fun positive => ?_⟩
        · simp [content, ← List.append_assoc]
        · rw [List.length_take]
          omega
      · rename_i whole
        cases got
        exact ⟨by simp [content], rfl, by omega, fun _ => present⟩

theorem read_error {ending : ε} (failed : incoming.read limit = .error ending) :
    incoming.content = [] ∧ ending = incoming.ending := by
  obtain ⟨pieces, last, full⟩ := incoming
  cases pieces with
  | nil =>
      cases failed
      exact ⟨rfl, rfl⟩
  | cons piece rest =>
      simp only [read] at failed
      split at failed <;> cases failed

variable (cap : Nat) (room : 0 < cap)

def readExactly (incoming : Incoming α ε) (count : Nat) : Except ε (List α × Incoming α ε) :=
  if wanted : count = 0 then .ok ([], incoming)
  else
    match got : incoming.read (min count cap) with
    | .error ending => .error ending
    | .ok (items, next) =>
        have _progress : count - items.length < count := by
          have positive := (read_ok got).2.2.2
            (Nat.lt_min.mpr ⟨Nat.pos_of_ne_zero wanted, room⟩)
          omega
        (readExactly next (count - items.length)).map fun (more, last) => (items ++ more, last)
termination_by count
decreasing_by exact _progress

/-- The pieces do not matter: the loop returns the first `count` items, or how it ended. -/
theorem readExactly_spec (incoming : Incoming α ε) (count : Nat) :
    (count ≤ incoming.content.length → ∃ next,
      readExactly cap room incoming count = .ok (incoming.content.take count, next) ∧
        next.content = incoming.content.drop count ∧ next.ending = incoming.ending) ∧
    (incoming.content.length < count →
      readExactly cap room incoming count = .error incoming.ending) := by
  induction count using Nat.strongRecOn generalizing incoming with
  | ind count ih =>
      rw [readExactly]
      by_cases wanted : count = 0
      · subst wanted
        refine ⟨fun _ => ⟨incoming, by simp⟩, fun few => ?_⟩
        exact absurd few (Nat.not_lt_zero _)
      rw [dif_neg wanted]
      split
      · rename_i ending failed
        obtain ⟨empty, rfl⟩ := read_error failed
        rw [empty]
        refine ⟨fun enough => ?_, fun _ => rfl⟩
        exact absurd (Nat.le_zero.mp enough) wanted
      · rename_i items next got
        obtain ⟨split, same, bounded, positive⟩ := read_ok got
        have some : 0 < items.length := positive
          (Nat.lt_min.mpr ⟨Nat.pos_of_ne_zero wanted, room⟩)
        have fits : items.length ≤ count := Nat.le_trans bounded (Nat.min_le_left ..)
        obtain ⟨completes, fails⟩ := ih (count - items.length) (by omega) next
        rw [split, List.length_append]
        constructor
        · intro enough
          obtain ⟨last, read, rest, ended⟩ := completes (by omega)
          refine ⟨last, ?_, ?_, ended.trans same⟩
          · rw [read, List.take_append, List.take_of_length_le fits]
            rfl
          · rw [rest, List.drop_append, List.drop_of_length_le fits, List.nil_append]
        · intro few
          rw [fails (by omega), ← same]
          rfl

end Incoming

def writeAll (cap : Nat) : List Nat → List α → List α × Bool
  | _, [] => ([], true)
  | [], _ => ([], false)
  | ready :: later, items =>
      let taken := min ready (min items.length cap)
      if taken = 0 then ([], false)
      else
        let (written, complete) := writeAll cap later (items.drop taken)
        (items.take taken ++ written, complete)

theorem writeAll_spec (cap : Nat) (ready : List Nat) (items : List α) :
    ∃ left, items = (writeAll cap ready items).1 ++ left ∧
      ((writeAll cap ready items).2 = true ↔ left = []) := by
  induction ready generalizing items with
  | nil =>
      cases items with
      | nil => exact ⟨[], rfl, by simp [writeAll]⟩
      | cons first rest => exact ⟨first :: rest, rfl, by simp [writeAll]⟩
  | cons count later ih =>
      cases items with
      | nil => exact ⟨[], rfl, by simp [writeAll]⟩
      | cons first rest =>
          simp only [writeAll]
          split
          · exact ⟨first :: rest, rfl, by simp⟩
          · obtain ⟨left, split, done⟩ :=
              ih ((first :: rest).drop (min count (min (first :: rest).length cap)))
            refine ⟨left, ?_, done⟩
            rw [List.append_assoc, ← split, List.take_append_drop]

theorem writeAll_at_once {cap : Nat} {items : List α} (fits : items.length ≤ cap)
    (later : List Nat) : writeAll cap (items.length :: later) items = (items, true) := by
  cases items with
  | nil => rfl
  | cons first rest =>
      rw [writeAll.eq_def]
      dsimp only
      rw [Nat.min_eq_left fits, Nat.min_self, if_neg (by simp), List.drop_length, List.take_length]
      cases later <;> simp [writeAll]

end PartialTransfers
