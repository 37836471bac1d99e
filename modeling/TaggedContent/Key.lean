namespace TaggedContent

/-!
# Keys

A key addresses a child of a content node.  Only names can carry tags; sequence
positions and integer mapping keys are indices, which resolution never touches.
-/

inductive Key where
  | name (text : String)
  | index (position : Int64)
  deriving DecidableEq, Inhabited

namespace Key

def name? : Key → Option String
  | name text => some text
  | index _ => none

def display : Key → String
  | name text => text
  | index position => position.toInt.repr

/-- An unsigned machine word addresses the index with the same 64 bits. -/
def ofWord (word : UInt64) : Key :=
  .index word.toInt64

/-- Names come before indices; names are ordered by code point, indices by value. -/
def le : Key → Key → Bool
  | name left, name right => decide (¬ right < left)
  | name _, index _ => true
  | index _, name _ => false
  | index left, index right => decide (left ≤ right)

end Key
end TaggedContent
