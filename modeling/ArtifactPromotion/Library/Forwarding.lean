import Mathlib.Logic.Relation

/-! Nodes that forward to at most one other node: where following the links comes to an end, and
what relinking one node does to that. -/

namespace Forwarding

variable {α : Type}

def Follows (link : α → Option α) (node other : α) : Prop := link node = some other

/-- Following the links from the node comes to an end. -/
inductive Ends (link : α → Option α) : α → Prop
  | here {node} (last : link node = none) : Ends link node
  | next {node other} (linked : link node = some other) (ends : Ends link other) : Ends link node

variable {link relinked : α → Option α} {node source target : α}

theorem Ends.never_returns (ends : Ends link node) :
    ¬Relation.TransGen (Follows link) node node := by
  induction ends with
  | here last =>
      intro returns
      obtain ⟨other, linked, _⟩ := Relation.TransGen.head'_iff.mp returns
      rw [Follows, last] at linked
      cases linked
  | next linked _ ih =>
      intro returns
      obtain ⟨other, follows, rest⟩ := Relation.TransGen.head'_iff.mp returns
      have same := Option.some.inj (linked.symm.trans follows)
      subst same
      exact ih (Relation.TransGen.tail' rest linked)

theorem Ends.exists_last (ends : Ends link node) :
    ∃ last, Relation.ReflTransGen (Follows link) node last ∧ link last = none := by
  induction ends with
  | here last => exact ⟨_, .refl, last⟩
  | next linked _ ih =>
      obtain ⟨last, path, final⟩ := ih
      exact ⟨last, .head linked path, final⟩

theorem Ends.elsewhere (others : ∀ node, node ≠ source → relinked node = link node)
    (ends : Ends link node) (apart : ¬Relation.ReflTransGen (Follows link) node source) :
    Ends relinked node := by
  induction ends with
  | @here node last =>
      have different : node ≠ source := fun same => apart (same ▸ .refl)
      exact .here ((others node different).trans last)
  | @next node other linked _ ih =>
      have different : node ≠ source := fun same => apart (same ▸ .refl)
      exact .next ((others node different).trans linked) (ih fun path => apart (.head linked path))

theorem ends_relinked (others : ∀ node, node ≠ source → relinked node = link node)
    (changed : relinked source = some target) (all : ∀ node, Ends link node)
    (apart : ¬Relation.ReflTransGen (Follows link) target source) (node : α) :
    Ends relinked node := by
  induction all node with
  | @here node last =>
      by_cases same : node = source
      · rw [same]
        exact .next changed ((all target).elsewhere others apart)
      · exact .here ((others node same).trans last)
  | @next node other linked _ ih =>
      by_cases same : node = source
      · rw [same]
        exact .next changed ((all target).elsewhere others apart)
      · exact .next ((others node same).trans linked) ih

theorem relinked_returns (others : ∀ node, node ≠ source → relinked node = link node)
    (last : link source = none) (changed : relinked source = some target)
    (leads : Relation.ReflTransGen (Follows link) target source) :
    Relation.TransGen (Follows relinked) source source := by
  refine .head' changed (Relation.ReflTransGen.mono ?_ _ _ leads)
  intro node other follows
  have different : node ≠ source := by
    rintro rfl
    rw [Follows, last] at follows
    cases follows
  exact (others node different).trans follows

end Forwarding
