import TaggedContent.Path

namespace TaggedContent
namespace Path

/-!
# Paths below a path

The paths below a node are its own path followed by any other.  Below distinct
children of one node no path is shared.
-/

/-- The path that goes on from `path` as `rest` goes on from the root. -/
def below (path rest : Path) : Path :=
  ⟨path.keys ++ rest.keys⟩

@[simp] theorem below_root (path : Path) : path.below root = path := by
  rcases path with ⟨keys⟩
  simp [below, root]

theorem below_child (path rest : Path) (key : Key) :
    path.below (rest.child key) = (path.below rest).child key := by
  simp [below, child]

theorem child_eq_below (path : Path) (key : Key) :
    path.child key = path.below (root.child key) := by
  simp [below, child, root]

theorem below_below (path middle rest : Path) :
    (path.below middle).below rest = path.below (middle.below rest) := by
  simp [below]

theorem below_inj {path first second : Path} :
    path.below first = path.below second ↔ first = second := by
  rcases first with ⟨firstKeys⟩
  rcases second with ⟨secondKeys⟩
  simp [below]

theorem child_below_ne_self (path rest : Path) (key : Key) :
    (path.child key).below rest ≠ path := by
  intro same
  have lengths := congrArg (fun path : Path => path.keys.length) same
  simp [below, child] at lengths

/-- Different children have nothing below them in common. -/
theorem child_below_inj {path first second : Path} {key other : Key}
    (same : (path.child key).below first = (path.child other).below second) :
    key = other ∧ first = second := by
  rcases first with ⟨firstKeys⟩
  rcases second with ⟨secondKeys⟩
  simpa [below, child] using same

end Path
end TaggedContent
