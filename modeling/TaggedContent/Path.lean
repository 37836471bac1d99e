import TaggedContent.Key

namespace TaggedContent

/-!
# Paths

A path lists the keys that lead from the root of a tree to one of its nodes.
-/

structure Path where
  keys : List Key
  deriving DecidableEq, Inhabited

namespace Path

def root : Path :=
  ⟨[]⟩

def child (path : Path) (key : Key) : Path :=
  ⟨path.keys ++ [key]⟩

/-- Every key follows a slash; the root is a slash alone. -/
def display (path : Path) : String :=
  match path.keys with
  | [] => "/"
  | keys => String.join (keys.map fun key => "/" ++ key.display)

end Path
end TaggedContent
