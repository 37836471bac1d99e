import TaggedContent.Entries
import TaggedContent.Key

namespace TaggedContent

/-!
# Content trees

A content tree is a scalar, a sequence of trees or a mapping from keys to trees.
The entries of a mapping keep their insertion order, which resolution and
printing show, while `Tree.same` compares mappings without regard to it.
-/

inductive Tree where
  | null
  | bool (value : Bool)
  | int (value : Int64)
  | float (value : Float)
  | string (value : String)
  | sequence (items : List Tree)
  | mapping (entries : List (Key × Tree))
  deriving Inhabited

abbrev Mapping :=
  Entries Key Tree

namespace Tree

def isSequence : Tree → Bool
  | sequence _ => true
  | _ => false

def mapping? : Tree → Option Mapping
  | mapping entries => some entries
  | _ => none

/-- The value under a name of a mapping node. -/
def get? (tree : Tree) (field : String) : Option Tree :=
  tree.mapping?.bind fun entries => Entries.get? entries (.name field)

mutual

/-- Equality of contents.  Floating-point scalars are compared as numbers, so NaN
differs from itself and the two zeros agree; scalars of different kinds never
agree; mappings agree when they have equally many entries and every entry of the
left one has its like on the right. -/
def same : Tree → Tree → Bool
  | null, null => true
  | bool left, bool right => left == right
  | int left, int right => left == right
  | float left, float right => left == right
  | string left, string right => left == right
  | sequence left, sequence right => sameItems left right
  | mapping left, mapping right => left.length == right.length && includes right left
  | _, _ => false

def sameItems : List Tree → List Tree → Bool
  | [], [] => true
  | left :: lefts, right :: rights => same left right && sameItems lefts rights
  | _, _ => false

def includes (whole : List (Key × Tree)) : List (Key × Tree) → Bool
  | [] => true
  | (key, value) :: rest =>
      (match Entries.get? whole key with
        | some other => same value other
        | none => false) && includes whole rest

end

end Tree
end TaggedContent
