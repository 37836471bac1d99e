import TaggedContent.Proofs.Path
import TaggedContent.Proofs.Tree

namespace TaggedContent
namespace Tree

/-!
# Following a path

A path leads from the root of a tree to one of its nodes, by the keys of mappings and by
the positions in sequences.  In an addressable tree it leads to one node at most: the keys
of a mapping are distinct, and every position is the key that is made from it.
-/

/-- The value under a key of a mapping or at a position of a sequence. -/
def child? : Tree → Key → Option Tree
  | mapping entries, key => Entries.get? entries key
  | sequence items, .index position =>
      if 0 ≤ position.toInt then items[position.toInt.toNat]? else none
  | _, _ => none

/-- The node that the path leads to. -/
def follow? (tree : Tree) (path : Path) : Option Tree :=
  path.keys.foldlM child? tree

/-- At every depth the keys of a mapping are distinct, and a sequence has only positions
that an index can give. -/
inductive Addressable : Tree → Prop where
  | scalar {tree : Tree} (isScalar : tree.IsScalar) : Addressable tree
  | sequence {items : List Tree} (short : items.length < 2 ^ 63)
      (values : ∀ item ∈ items, Addressable item) : Addressable (.sequence items)
  | mapping {entries : Mapping} (distinct : (Entries.keys entries).Nodup)
      (values : ∀ entry ∈ entries, Addressable entry.2) : Addressable (.mapping entries)

@[simp] theorem follow?_root (tree : Tree) : tree.follow? .root = some tree :=
  rfl

/-- A path that begins with a child goes on in that child. -/
theorem follow?_child_below {tree value : Tree} {key : Key} (found : tree.child? key = some value)
    (rest : Path) : tree.follow? ((Path.root.child key).below rest) = value.follow? rest := by
  have split : ((Path.root.child key).below rest).keys = key :: rest.keys := rfl
  rw [follow?, split, List.foldlM_cons, found]
  rfl

/-- The items of a sequence stand at their positions. -/
theorem child?_of_mem_positioned {items : List Tree} (short : items.length < 2 ^ 63)
    {entry : Key × Tree} (member : entry ∈ positioned items 0) :
    (Tree.sequence items).child? entry.1 = some entry.2 := by
  rcases List.mem_map.mp member with ⟨⟨item, position⟩, placed, same⟩
  subst same
  have found : items[position]? = some item := List.mk_mem_zipIdx_iff_getElem?.mp placed
  have small : position < 2 ^ 63 := by
    have before := (List.getElem?_eq_some_iff.mp found).1
    omega
  rw [child?, Int64.toInt_ofNat_of_lt small, if_pos (Int.natCast_nonneg position),
    Int.toNat_natCast, found]

end Tree
end TaggedContent
