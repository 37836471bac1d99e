import TaggedContent.Proofs.Path
import TaggedContent.Proofs.Resolution.LocksAndMarks
import TaggedContent.Proofs.Resolution.Mirroring

namespace TaggedContent
namespace Resolution

/-!
# Walks below a path

A walk that starts at some path of a larger walk is compared with one of the same
subtree alone, which starts at the root.  What the first has locked and marked at or
below its path is what the second has at the path that is left when the base is taken
off.  At all other paths the first keeps what it started from.
-/

/-- The same failure, of a tree that stands at `path` of a larger one. -/
def InvalidPattern.under (path : Path) (error : InvalidPattern) : InvalidPattern :=
  { error with path := path.below error.path }

/-- The first has below `base` what the second has, and elsewhere what it had at the
start; both caches are sound. -/
structure Shifted (base : Path) (start first second : Progress) : Prop where
  sound : first.patterns.Sound ∧ second.patterns.Sound
  locked (rest : Path) (key : String) :
    first.locks.isLocked (base.below rest) key = second.locks.isLocked rest key
  marked (rest : Path) : first.marks.keysAt (base.below rest) = second.marks.keysAt rest
  lockedElsewhere {path : Path} (apart : ∀ rest, base.below rest ≠ path) (key : String) :
    first.locks.isLocked path key = start.locks.isLocked path key
  markedElsewhere {path : Path} (apart : ∀ rest, base.below rest ≠ path) :
    first.marks.keysAt path = start.marks.keysAt path

namespace Shifted

variable {base : Path} {start first second : Progress}

theorem idle (shifted : Shifted base start first second) {third fourth : Progress}
    (left : first.Idle third) (right : second.Idle fourth) : Shifted base start third fourth where
  sound := ⟨left.patterns shifted.sound.1, right.patterns shifted.sound.2⟩
  locked rest key := by rw [left.locks, right.locks, shifted.locked]
  marked rest := by rw [left.marks, right.marks, shifted.marked]
  lockedElsewhere apart key := by rw [left.locks, shifted.lockedElsewhere apart]
  markedElsewhere apart := by rw [left.marks, shifted.markedElsewhere apart]

theorem lock (shifted : Shifted base start first second) (path : Path) (key : String) :
    Shifted base start { first with locks := first.locks.lock (base.below path) key }
      { second with locks := second.locks.lock path key } where
  sound := shifted.sound
  locked rest name := by
    simp only [Locks.isLocked_lock, shifted.locked, Path.below_inj]
  marked := shifted.marked
  lockedElsewhere apart name := by
    dsimp only
    rw [Locks.isLocked_lock_of_ne _ (apart path), shifted.lockedElsewhere apart]
  markedElsewhere := shifted.markedElsewhere

theorem mark (shifted : Shifted base start first second) (path : Path) (key : String) :
    Shifted base start { first with marks := first.marks.mark (base.below path) key }
      { second with marks := second.marks.mark path key } where
  sound := shifted.sound
  locked := shifted.locked
  marked rest := by
    simp only [Marks.keysAt_mark, shifted.marked, Path.below_inj]
  lockedElsewhere := shifted.lockedElsewhere
  markedElsewhere apart := by
    dsimp only
    rw [Marks.keysAt_mark_of_ne _ (apart path), shifted.markedElsewhere apart]

theorem forget (shifted : Shifted base start first second) (path : Path) :
    Shifted base start { first with marks := first.marks.forget (base.below path) }
      { second with marks := second.marks.forget path } where
  sound := shifted.sound
  locked := shifted.locked
  marked rest := by
    simp only [Marks.keysAt_forget, shifted.marked, Path.below_inj]
  lockedElsewhere := shifted.lockedElsewhere
  markedElsewhere apart := by
    dsimp only
    rw [Marks.keysAt_forget_of_ne _ (apart path), shifted.markedElsewhere apart]

/-- Corresponding paths are mirrored. -/
theorem mirrors (base : Path) (start : Progress) (path : Path) :
    Mirrors (Shifted base start) (base.below path) path where
  sound holds := holds.sound
  locked holds key := holds.locked path key
  marked holds := holds.marked path
  idle holds left right := holds.idle left right
  lock holds key := holds.lock path key
  mark holds key := holds.mark path key
  forget holds := holds.forget path

end Shifted

/-- Nothing is locked or marked at or below the path, and the cache is sound. -/
structure Progress.FreshBelow (progress : Progress) (base : Path) : Prop where
  sound : progress.patterns.Sound
  unlocked (rest : Path) (key : String) : progress.locks.isLocked (base.below rest) key = false
  unmarked (rest : Path) : progress.marks.keysAt (base.below rest) = []

theorem Progress.freshBelow_initial (base : Path) : Progress.initial.FreshBelow base :=
  ⟨Pattern.Cache.sound_empty, fun rest => Locks.isLocked_empty (base.below rest),
    fun rest => Marks.keysAt_empty (base.below rest)⟩

/-- A walk alone starts like one that has not been below the path yet. -/
theorem Progress.FreshBelow.shifted {progress : Progress} {base : Path}
    (fresh : progress.FreshBelow base) : Shifted base progress progress .initial where
  sound := ⟨fresh.sound, Pattern.Cache.sound_empty⟩
  locked rest key := by rw [fresh.unlocked]; rfl
  marked rest := by rw [fresh.unmarked]; rfl
  lockedElsewhere _ _ := rfl
  markedElsewhere _ := rfl

end Resolution
end TaggedContent
