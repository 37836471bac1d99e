import TaggedContent.Proofs.Entries
import TaggedContent.Resolution.LocksAndMarks

namespace TaggedContent
namespace Resolution

/-!
# Laws of locks and marks

Locking adds one key at one path.  Marking appends a key at one path unless it is
there, and forgetting a path empties it.  Neither is seen at any other path.
-/

namespace Locks

theorem isLocked_empty (path : Path) (key : String) : empty.isLocked path key = false :=
  rfl

theorem isLocked_eq_true_iff (locks : Locks) (path : Path) (key : String) :
    locks.isLocked path key = true ↔ (path, key) ∈ locks.claimed := by
  rw [isLocked, List.contains_iff_mem]

/-- What is locked afterwards was locked before or is what has just been locked. -/
theorem isLocked_lock (locks : Locks) (path other : Path) (key name : String) :
    (locks.lock path key).isLocked other name =
      (locks.isLocked other name || decide (path = other ∧ key = name)) := by
  apply Bool.eq_iff_iff.mpr
  rw [Bool.or_eq_true, decide_eq_true_eq]
  by_cases already : locks.isLocked path key = true
  · rw [lock, if_pos already]
    constructor
    · exact Or.inl
    · intro locked
      rcases locked with before | ⟨here, this⟩
      · exact before
      · rw [← here, ← this]
        exact already
  · rw [lock, if_neg already, isLocked_eq_true_iff, isLocked_eq_true_iff, List.mem_cons,
      Prod.mk.injEq]
    constructor
    · rintro (⟨here, this⟩ | before)
      · exact Or.inr ⟨here.symm, this.symm⟩
      · exact Or.inl before
    · rintro (before | ⟨here, this⟩)
      · exact Or.inr before
      · exact Or.inl ⟨here.symm, this.symm⟩

theorem isLocked_lock_of_ne (locks : Locks) {path other : Path} (apart : path ≠ other)
    (key name : String) : (locks.lock path key).isLocked other name = locks.isLocked other name := by
  rw [isLocked_lock, decide_eq_false (fun same => apart same.1), Bool.or_false]

end Locks

namespace Marks

theorem keysAt_empty (path : Path) : empty.keysAt path = [] :=
  rfl

theorem keysAt_mark (marks : Marks) (path other : Path) (key : String) :
    (marks.mark path key).keysAt other =
      if path = other ∧ key ∉ marks.keysAt path then marks.keysAt path ++ [key]
      else marks.keysAt other := by
  by_cases already : key ∈ marks.keysAt path
  · rw [mark, if_pos already, if_neg fun fresh => fresh.2 already]
  · rw [mark, if_neg already, keysAt, Entries.get?_insert]
    by_cases here : path = other
    · rw [if_pos here, if_pos ⟨here, already⟩]
      rfl
    · rw [if_neg here, if_neg fun fresh => here fresh.1]
      rfl

theorem keysAt_mark_of_ne (marks : Marks) {path other : Path} (apart : path ≠ other)
    (key : String) : (marks.mark path key).keysAt other = marks.keysAt other := by
  rw [keysAt_mark, if_neg fun same => apart same.1]

theorem mem_keysAt_mark (marks : Marks) (path : Path) (key name : String) :
    name ∈ (marks.mark path key).keysAt path ↔ name ∈ marks.keysAt path ∨ name = key := by
  rw [keysAt_mark]
  split
  case isTrue fresh => rw [List.mem_append, List.mem_singleton]
  case isFalse known =>
      constructor
      · exact Or.inl
      · rintro (before | same)
        · exact before
        · by_contra missing
          exact known ⟨rfl, same ▸ missing⟩

theorem nodup_keysAt_mark (marks : Marks) (path : Path) (key : String)
    (distinct : (marks.keysAt path).Nodup) : ((marks.mark path key).keysAt path).Nodup := by
  rw [keysAt_mark]
  split
  case isTrue fresh =>
      apply List.nodup_append.mpr
      refine ⟨distinct, List.nodup_singleton key, ?_⟩
      intro name before last isKey same
      rw [List.mem_singleton.mp isKey] at same
      exact fresh.2 (same ▸ before)
  case isFalse => exact distinct

theorem keysAt_forget (marks : Marks) (path other : Path) :
    (marks.forget path).keysAt other = if path = other then [] else marks.keysAt other := by
  rcases marks with ⟨pending⟩
  simp only [forget, keysAt]
  induction pending with
  | nil => simp
  | cons entry rest inductionHypothesis =>
      rcases entry with ⟨head, keys⟩
      by_cases forgotten : head = path
      · rw [List.filter_cons_of_neg (by simpa using forgotten), inductionHypothesis,
          Entries.get?_cons]
        by_cases here : path = other
        · rw [if_pos here, if_pos here]
        · rw [if_neg here, if_neg here, if_neg fun same => here (forgotten ▸ same)]
      · rw [List.filter_cons_of_pos (by simpa using forgotten), Entries.get?_cons,
          Entries.get?_cons]
        by_cases found : head = other
        · rw [if_pos found, if_pos found, if_neg fun same => forgotten (found.trans same.symm)]
        · rw [if_neg found, if_neg found, inductionHypothesis]

theorem keysAt_forget_of_ne (marks : Marks) {path other : Path} (apart : path ≠ other) :
    (marks.forget path).keysAt other = marks.keysAt other := by
  rw [keysAt_forget, if_neg apart]

/-! ## Paths with pending marks -/

theorem mem_paths_mark {marks : Marks} {path other : Path} {key : String}
    (member : other ∈ Entries.keys (marks.mark path key).pending) :
    other = path ∨ other ∈ Entries.keys marks.pending := by
  rw [mark] at member
  split at member
  · exact Or.inr member
  · exact (Entries.mem_keys_insert _ _ _ _).mp member

theorem mem_paths_forget {marks : Marks} {path other : Path}
    (member : other ∈ Entries.keys (marks.forget path).pending) :
    other ≠ path ∧ other ∈ Entries.keys marks.pending := by
  rcases List.mem_map.mp member with ⟨entry, kept, same⟩
  rw [forget, List.mem_filter, decide_eq_true_eq] at kept
  subst same
  exact ⟨kept.2, List.mem_map.mpr ⟨entry, kept.1, rfl⟩⟩

end Marks
end Resolution
end TaggedContent
