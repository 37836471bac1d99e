import TaggedContent.Proofs.Entries.Alike
import TaggedContent.Proofs.Tree

namespace TaggedContent
namespace Tree

/-!
# Trees that differ in the order of entries

One tree is the other rearranged when both are equal up to the order of the entries of
their mappings, at every depth.  Scalars are the same, floating-point numbers bit by bit.
-/

inductive Rearranged : Tree → Tree → Prop where
  | scalar {tree : Tree} (isScalar : tree.IsScalar) : Rearranged tree tree
  | sequence {items items' : List Tree} (values : List.Forall₂ Rearranged items items') :
      Rearranged (.sequence items) (.sequence items')
  | mapping {entries middle entries' : Mapping} (reordered : entries.Perm middle)
      (keys : Entries.keys middle = Entries.keys entries')
      (values : List.Forall₂ (fun entry entry' => Rearranged entry.2 entry'.2) middle entries') :
      Rearranged (.mapping entries) (.mapping entries')

theorem Rearranged.isSequence_eq {left right : Tree} (rearranged : Rearranged left right) :
    left.isSequence = right.isSequence := by
  cases rearranged <;> rfl

/-- Items at the same positions are entries with the same keys. -/
theorem alike_positioned {related : Tree → Tree → Prop} {items items' : List Tree}
    (values : List.Forall₂ related items items') (start : Nat) :
    Entries.Alike related (positioned items start) (positioned items' start) := by
  induction values generalizing start with
  | nil => exact .nil
  | cons here rest inductionHypothesis =>
      rw [positioned_cons, positioned_cons]
      exact .cons ⟨rfl, here⟩ (inductionHypothesis (start + 1))

/-- Mappings that hold rearranged values under every key are rearranged. -/
theorem Rearranged.of_alikeByKey {left right : Mapping} (distinct : (Entries.keys left).Nodup)
    (distinct' : (Entries.keys right).Nodup) (alike : Entries.AlikeByKey Rearranged left right) :
    Rearranged (.mapping left) (.mapping right) := by
  rcases alike.exists_perm_alike distinct distinct' with ⟨middle, reordered, entries⟩
  rcases Entries.alike_iff.mp entries with ⟨keys, values⟩
  exact .mapping reordered keys values

end Tree
end TaggedContent
