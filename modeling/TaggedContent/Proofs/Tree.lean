import Mathlib.Algebra.Group.Nat.Defs
import Mathlib.Data.List.Basic
import TaggedContent.Proofs.Entries
import TaggedContent.Tree

namespace TaggedContent
namespace Tree

/-!
# Induction over content trees

A property of trees follows from its being passed on from the values of a mapping and
from the items of a sequence.  The items of a sequence are also seen as entries whose
keys are their positions.
-/

def IsScalar : Tree → Prop
  | mapping _ => False
  | sequence _ => False
  | _ => True

/-- The items as entries, keyed by their positions from `start` on. -/
def positioned (items : List Tree) (start : Nat) : List (Key × Tree) :=
  (items.zipIdx start).map fun item => (.index (.ofNat item.2), item.1)

theorem positioned_cons (item : Tree) (items : List Tree) (start : Nat) :
    positioned (item :: items) start =
      (.index (.ofNat start), item) :: positioned items (start + 1) := by
  simp [positioned]

theorem map_snd_positioned (items : List Tree) (start : Nat) :
    (positioned items start).map Prod.snd = items := by
  rw [positioned, List.map_map]
  exact List.zipIdx_map_fst start items

theorem mem_of_mem_positioned {items : List Tree} {start : Nat} {entry : Key × Tree}
    (member : entry ∈ positioned items start) : entry.2 ∈ items := by
  rcases List.mem_map.mp member with ⟨⟨item, position⟩, placed, same⟩
  subst same
  exact List.fst_mem_of_mem_zipIdx placed

theorem ofNat_inj_of_lt {position other : Nat} (small : position < 2 ^ 64) (fits : other < 2 ^ 64)
    (same : Int64.ofNat position = Int64.ofNat other) : position = other := by
  have words := congrArg (fun word => word.toBitVec.toNat) same
  simp only [Int64.toBitVec_ofNat', BitVec.toNat_ofNat] at words
  omega

/-- As long as there are no more than machine words, different positions have different
keys. -/
theorem nodup_keys_positioned {items : List Tree} {start : Nat}
    (fits : start + items.length ≤ 2 ^ 64) : (Entries.keys (positioned items start)).Nodup := by
  induction items generalizing start with
  | nil => exact List.nodup_nil
  | cons item items inductionHypothesis =>
      rw [List.length_cons] at fits
      rw [positioned_cons, Entries.keys_cons, List.nodup_cons]
      refine ⟨?_, inductionHypothesis (by omega)⟩
      intro member
      rcases List.mem_map.mp member with ⟨entry, placed, isKey⟩
      rcases List.mem_map.mp placed with ⟨⟨other, position⟩, there, same⟩
      subst same
      have after := List.le_snd_of_mem_zipIdx there
      have before := List.snd_lt_add_of_mem_zipIdx there
      have samePosition := ofNat_inj_of_lt (by omega) (by omega) (Key.index.inj isKey)
      omega

/-- Induction with the hypothesis for every value of a mapping and for every item of a
sequence. -/
@[elab_as_elim]
theorem induction {motive : Tree → Prop}
    (mapping : ∀ entries : Mapping, (∀ entry ∈ entries, motive entry.2) →
      motive (.mapping entries))
    (sequence : ∀ items, (∀ item ∈ items, motive item) → motive (.sequence items))
    (scalar : ∀ tree : Tree, tree.IsScalar → motive tree) (tree : Tree) : motive tree := by
  refine @Tree.rec motive (fun items => ∀ item ∈ items, motive item)
    (fun entries => ∀ entry ∈ entries, motive entry.2) (fun entry => motive entry.2)
    (scalar _ trivial) (fun _ => scalar _ trivial) (fun _ => scalar _ trivial)
    (fun _ => scalar _ trivial) (fun _ => scalar _ trivial) sequence mapping
    ?noItem ?item ?noEntry ?entry (fun _ _ value => value) tree
  case noItem | noEntry =>
      intro element member
      cases member
  case item | entry =>
      intro head tail holds others element member
      rcases List.mem_cons.mp member with here | later
      · exact here ▸ holds
      · exact others element later

end Tree
end TaggedContent
