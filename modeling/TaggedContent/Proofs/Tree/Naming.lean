import TaggedContent.Proofs.Entries
import TaggedContent.Proofs.Tree

namespace TaggedContent

/-!
# Trees with names for all keys

A format that has only names for keys turns every index into the name that displays it.
Keys of one mapping may then coincide, and their entries are merged.  A tree that has
names for keys already, and none of them twice in a mapping, stays as it is.
-/

/-- The name that displays the key. -/
def Key.asName (key : Key) : Key :=
  .name key.display

namespace Tree

mutual

/-- The tree with names for all keys.  Of entries that come to have the same name the
first gives the place and the last the value. -/
def keyedByNames : Tree → Tree
  | .mapping entries => .mapping (Entries.ofPairs (entriesByNames entries))
  | .sequence items => .sequence (itemsByNames items)
  | scalar => scalar

def itemsByNames : List Tree → List Tree
  | [] => []
  | item :: items => item.keyedByNames :: itemsByNames items

def entriesByNames : List (Key × Tree) → List (Key × Tree)
  | [] => []
  | (key, value) :: rest => (key.asName, value.keyedByNames) :: entriesByNames rest

end

mutual

/-- How many sequences and mappings are nested in the tree, the empty ones included. -/
def depth : Tree → Nat
  | .mapping entries => depthOfEntries entries + 1
  | .sequence items => depthOfItems items + 1
  | _ => 0

def depthOfItems : List Tree → Nat
  | [] => 0
  | item :: items => max item.depth (depthOfItems items)

def depthOfEntries : List (Key × Tree) → Nat
  | [] => 0
  | (_, value) :: rest => max value.depth (depthOfEntries rest)

end

/-- No scalar is a floating-point number. -/
inductive Floatless : Tree → Prop where
  | null : Floatless .null
  | bool (value : Bool) : Floatless (.bool value)
  | int (value : Int64) : Floatless (.int value)
  | string (value : String) : Floatless (.string value)
  | sequence {items : List Tree} (values : ∀ item ∈ items, Floatless item) :
      Floatless (.sequence items)
  | mapping {entries : Mapping} (values : ∀ entry ∈ entries, Floatless entry.2) :
      Floatless (.mapping entries)

/-- At every depth the keys of a mapping are names, and distinct. -/
inductive NameKeyed : Tree → Prop where
  | scalar {tree : Tree} (isScalar : tree.IsScalar) : NameKeyed tree
  | sequence {items : List Tree} (values : ∀ item ∈ items, NameKeyed item) :
      NameKeyed (.sequence items)
  | mapping {entries : Mapping} (distinct : (Entries.keys entries).Nodup)
      (names : ∀ entry ∈ entries, ∃ name, entry.1 = .name name)
      (values : ∀ entry ∈ entries, NameKeyed entry.2) : NameKeyed (.mapping entries)

theorem itemsByNames_eq_map (items : List Tree) : itemsByNames items = items.map keyedByNames := by
  induction items with
  | nil => rfl
  | cons item items inductionHypothesis =>
      rw [itemsByNames, inductionHypothesis, List.map_cons]

theorem entriesByNames_eq_map (entries : Mapping) :
    entriesByNames entries = entries.map fun entry => (entry.1.asName, entry.2.keyedByNames) := by
  induction entries with
  | nil => rfl
  | cons entry rest inductionHypothesis =>
      rw [← Prod.eta entry, entriesByNames, inductionHypothesis, List.map_cons]

theorem depth_le_of_mem_items {items : List Tree} {item : Tree} (member : item ∈ items) :
    item.depth ≤ depthOfItems items := by
  induction items with
  | nil => cases member
  | cons head items inductionHypothesis =>
      rcases List.mem_cons.mp member with here | later
      · exact here ▸ Nat.le_max_left _ _
      · exact Nat.le_trans (inductionHypothesis later) (Nat.le_max_right _ _)

theorem depth_le_of_mem_entries {entries : Mapping} {entry : Key × Tree}
    (member : entry ∈ entries) : entry.2.depth ≤ depthOfEntries entries := by
  induction entries with
  | nil => cases member
  | cons head entries inductionHypothesis =>
      rcases List.mem_cons.mp member with here | later
      · exact here ▸ Nat.le_max_left _ _
      · exact Nat.le_trans (inductionHypothesis later) (Nat.le_max_right _ _)

theorem keyedByNames_of_isScalar {tree : Tree} (scalar : tree.IsScalar) :
    tree.keyedByNames = tree := by
  cases tree <;> first | rfl | cases scalar

/-- Distinct names stay as they are. -/
theorem NameKeyed.keyedByNames_eq {tree : Tree} (named : tree.NameKeyed) :
    tree.keyedByNames = tree := by
  induction named with
  | scalar isScalar => exact keyedByNames_of_isScalar isScalar
  | sequence values inductionHypothesis =>
      rw [keyedByNames, itemsByNames_eq_map, List.map_congr_left inductionHypothesis, List.map_id']
  | @mapping entries distinct names values inductionHypothesis =>
      have same : ∀ entry ∈ entries, (entry.1.asName, entry.2.keyedByNames) = entry := by
        intro entry member
        rcases names entry member with ⟨name, isName⟩
        rw [inductionHypothesis entry member, isName, Key.asName, Key.display, ← isName]
      rw [keyedByNames, entriesByNames_eq_map, List.map_congr_left same, List.map_id',
        Entries.ofPairs_of_nodup distinct]

/-- What the entries of a mapping are merged to: the names stand where they come first, and
each holds the value of the last key that it displays. -/
theorem keyedByNames_mapping (entries : Mapping) :
    ∃ merged : Mapping, (Tree.mapping entries).keyedByNames = .mapping merged ∧
      Entries.keys merged = ((Entries.keys entries).map Key.asName).eraseDups ∧
      ∀ name : String, Entries.get? merged (.name name) =
        (entries.reverse.find? fun entry => entry.1.display == name).map (·.2.keyedByNames) := by
  refine ⟨_, rfl, ?_, fun name => ?_⟩
  · rw [Entries.keys_ofPairs, entriesByNames_eq_map, Entries.keys, Entries.keys, List.map_map,
      List.map_map]
    rfl
  · rw [Entries.get?_ofPairs, entriesByNames_eq_map, ← List.map_reverse]
    generalize entries.reverse = entries
    induction entries with
    | nil => rfl
    | cons entry entries inductionHypothesis =>
        rw [List.map_cons, Entries.get?_cons, List.find?_cons, inductionHypothesis, Key.asName]
        by_cases same : entry.1.display = name
        · simp [same]
        · simp [same, beq_false_of_ne same]

end Tree
end TaggedContent
