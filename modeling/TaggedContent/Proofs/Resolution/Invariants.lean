import TaggedContent.Proofs.Resolution.LocksAndMarks
import TaggedContent.Proofs.Resolution.Passes

namespace TaggedContent
namespace Resolution

/-!
# Invariants of successful walks

A property of the state that survives a lock or a mark at the path of a mapping
survives both of its passes, if the walks over its values preserve it.  Two properties
of whole walks follow by induction on the tree: the cache stays sound, and the only
paths with pending marks are those that had some before.
-/

namespace Walk

variable {settings : Settings} {path : Path} {holds : Progress → Prop}

/-- A property that is not lost by what the passes do at their path. -/
structure Invariant (settings : Settings) (path : Path) (entries : Mapping)
    (holds : Progress → Prop) : Prop where
  sound {progress : Progress} : holds progress → progress.patterns.Sound
  idle {first second : Progress} : first.Idle second → holds first → holds second
  lock {progress : Progress} (key : String) :
    holds progress → holds { progress with locks := progress.locks.lock path key }
  mark {progress : Progress} {entry : Key × Tree} (member : entry ∈ entries) {node : Mapping}
    {locked : String → Bool} {base : String}
    (target : settings.secondTarget? node locked entry.1 = some base) :
    holds progress → holds { progress with marks := progress.marks.mark path base }

namespace Invariant

variable {entries : Mapping} {entry : Key × Tree} {below : Walk Tree}

theorem preserves_firstEntry (invariant : Invariant settings path entries holds)
    (value : Preserves holds below) : Preserves holds (firstEntry settings path entry.1 below) := by
  intro start kept last success initially
  have step := firstEntry_success (invariant.sound initially) success
  cases step with
  | passed target idle => exact invariant.idle idle initially
  | index isIndex resolved => exact value resolved initially
  | selected isName target claimed resolved =>
      exact value resolved (invariant.idle claimed.idle (invariant.lock _ initially))

theorem preserves_secondEntry (invariant : Invariant settings path entries holds)
    (member : entry ∈ entries) {node : Mapping}
    (keeps : Preserves (fun progress => progress.patterns.Sound) below)
    (value : Preserves holds below) :
    Preserves holds (secondEntry settings path node entry.1 entry.2 below) := by
  intro start kept last success initially
  have step := secondEntry_success (invariant.sound initially) keeps success
  cases step with
  | passed target idle => exact invariant.idle idle initially
  | rejected target idle resolved dropped =>
      exact invariant.idle dropped (value resolved (invariant.idle idle initially))
  | kept isName target idle resolved marked =>
      have after := value resolved (invariant.idle idle initially)
      cases marking : settings.marks entry.1 && entry.2.isSequence with
      | true =>
          rw [marking] at marked
          exact invariant.idle marked.idle (invariant.mark member target after)
      | false =>
          rw [marking] at marked
          exact invariant.idle marked.idle_of_unmarked after

end Invariant

/-- Both passes succeed, and the aliases are restored for what has been marked then. -/
theorem resolveEntries_success {below : Key × Tree → Walk Tree} {entries result : Mapping}
    {start last : Progress}
    (success : (resolveEntries settings path below entries).outcome start = (.ok result, last)) :
    ∃ early middle late after,
      Steps (fun entry => firstEntry settings path entry.1 (below entry)) entries start early
        middle ∧
      Steps (fun entry => secondEntry settings path entries entry.1 entry.2 (below entry)) entries
        middle late after ∧
      result = (addAliases (after.marks.keysAt path) (assemble early late)).1 ∧
      { after with marks := after.marks.forget path }.Idle last := by
  rcases outcome_bind_eq_ok success with ⟨early, middle, first, success⟩
  rcases outcome_bind_eq_ok success with ⟨late, after, second, success⟩
  rcases outcome_restoreAliases path (assemble early late) after with ⟨reached, restored, idle⟩
  rw [restored] at success
  cases success
  exact ⟨early, middle, late, after, steps_of_outcome_mapM first, steps_of_outcome_mapM second,
    rfl, idle⟩

theorem resolveTree_mapping_success {entries : Mapping} {result : Tree} {start last : Progress}
    (success : (resolveTree settings path (.mapping entries)).outcome start = (.ok result, last)) :
    ∃ kept, result = .mapping kept ∧
      (resolveEntries settings path (resolveChild settings path) entries).outcome start =
        (.ok kept, last) := by
  rw [resolveTree_mapping, map_eq_pure_bind] at success
  rcases outcome_bind_eq_ok success with ⟨kept, after, passes, success⟩
  cases success
  exact ⟨kept, rfl, passes⟩

theorem resolveTree_sequence_success {items : List Tree} {result : Tree} {start last : Progress}
    (success : (resolveTree settings path (.sequence items)).outcome start = (.ok result, last)) :
    ∃ values, result = .sequence values ∧
      Steps (resolveChild settings path) (Tree.positioned items 0) start values last := by
  rw [resolveTree_sequence, map_eq_pure_bind] at success
  rcases outcome_bind_eq_ok success with ⟨values, after, steps, success⟩
  cases success
  exact ⟨values, rfl, steps_of_outcome_mapM steps⟩

/-- Both passes preserve what is not lost at their path. -/
theorem Invariant.passes {below : Key × Tree → Walk Tree} {entries : Mapping}
    (invariant : Invariant settings path entries holds)
    (sound : ∀ entry ∈ entries, Preserves (fun progress => progress.patterns.Sound) (below entry))
    (values : ∀ entry ∈ entries, Preserves holds (below entry)) {start middle after : Progress}
    {early late : List (Option (Key × Tree))}
    (first : Steps (fun entry => firstEntry settings path entry.1 (below entry)) entries start
      early middle)
    (second : Steps (fun entry => secondEntry settings path entries entry.1 entry.2 (below entry))
      entries middle late after) (initially : holds start) :
    holds middle ∧ holds after := by
  have between := first.preserves
    (fun entry member => invariant.preserves_firstEntry (values entry member)) initially
  have finally_ := second.preserves (fun entry member =>
    invariant.preserves_secondEntry member (sound entry member) (values entry member)) between
  exact ⟨between, finally_⟩

/-! ## One step of the recursion over a tree -/

theorem preserves_scalar (holds : Progress → Prop) {tree : Tree} (scalar : tree.IsScalar) :
    Preserves holds (resolveTree settings path tree) := by
  intro start value last success initially
  rw [resolveTree_scalar settings path scalar] at success
  cases success
  exact initially

theorem preserves_sequence (holds : Progress → Prop) {items : List Tree}
    (values : ∀ item ∈ items, ∀ path, Preserves holds (resolveTree settings path item)) :
    Preserves holds (resolveTree settings path (.sequence items)) := by
  intro start value last success initially
  rcases resolveTree_sequence_success success with ⟨found, _, steps⟩
  apply steps.preserves _ initially
  intro element member
  exact values element.2 (Tree.mem_of_mem_positioned member) _

/-- What holds before a mapping is resolved may give way, meanwhile, to something that its
passes preserve, if it is back when the marks of the mapping have been used up. -/
theorem preserves_mapping (holds : Progress → Prop) {meanwhile : Progress → Prop} {entries : Mapping}
    (invariant : Invariant settings path entries meanwhile)
    (enter : ∀ {progress}, holds progress → meanwhile progress)
    (leave : ∀ {progress last : Progress}, meanwhile progress →
      { progress with marks := progress.marks.forget path }.Idle last → holds last)
    (sound : ∀ entry ∈ entries,
      Preserves (fun progress => progress.patterns.Sound) (resolveChild settings path entry))
    (values : ∀ entry ∈ entries, Preserves meanwhile (resolveChild settings path entry)) :
    Preserves holds (resolveTree settings path (.mapping entries)) := by
  intro start value last success initially
  rcases resolveTree_mapping_success success with ⟨kept, _, passes⟩
  rcases resolveEntries_success passes with ⟨early, middle, late, after, first, second, _, idle⟩
  have reached := invariant.passes sound values first second (enter initially)
  exact leave reached.2 idle

/-! ## The cache -/

theorem resolveTree_sound (settings : Settings) (path : Path) (tree : Tree) :
    Preserves (fun progress => progress.patterns.Sound) (resolveTree settings path tree) := by
  induction tree using Tree.induction generalizing path with
  | scalar tree scalar =>
      exact preserves_scalar (fun progress => progress.patterns.Sound) scalar
  | sequence items inductionHypothesis =>
      exact preserves_sequence (fun progress => progress.patterns.Sound) inductionHypothesis
  | mapping entries inductionHypothesis =>
      have invariant : Invariant settings path entries fun progress => progress.patterns.Sound :=
        ⟨id, fun idle => idle.patterns, fun _ => id, fun _ _ _ _ _ => id⟩
      have values : ∀ entry ∈ entries, Preserves (fun progress => progress.patterns.Sound)
          (resolveChild settings path entry) :=
        fun entry member => inductionHypothesis entry member _
      apply preserves_mapping (fun progress => progress.patterns.Sound) invariant
      · exact id
      · exact fun sound idle => idle.patterns sound
      · exact values
      · exact values

/-! ## Pending marks -/

/-- Marks are pending at these paths only, and the cache is sound. -/
structure PendingWithin (paths : Path → Prop) (progress : Progress) : Prop where
  sound : progress.patterns.Sound
  within {path : Path} (pending : path ∈ Entries.keys progress.marks.pending) : paths path

/-- While a mapping is resolved its own path may have marks as well. -/
theorem PendingWithin.invariant (settings : Settings) (path : Path) (paths : Path → Prop)
    (entries : Mapping) :
    Invariant settings path entries (PendingWithin fun other => other = path ∨ paths other) where
  sound holds := holds.sound
  idle idle holds := ⟨idle.patterns holds.sound, fun pending => holds.within (idle.marks ▸ pending)⟩
  lock _ holds := ⟨holds.sound, holds.within⟩
  mark _ _ _ _ _ holds := by
    refine ⟨holds.sound, fun pending => ?_⟩
    rcases Marks.mem_paths_mark pending with here | before
    · exact Or.inl here
    · exact holds.within before

/-- When its marks have been used up nothing is left at the path of a mapping. -/
theorem PendingWithin.forget {paths : Path → Prop} {progress last : Progress}
    (holds : PendingWithin (fun other => other = path ∨ paths other) progress)
    (idle : { progress with marks := progress.marks.forget path }.Idle last) :
    PendingWithin paths last := by
  refine ⟨idle.patterns holds.sound, fun pending => ?_⟩
  rw [idle.marks] at pending
  rcases Marks.mem_paths_forget pending with ⟨elsewhere, before⟩
  exact (holds.within before).resolve_left elsewhere

theorem resolveTree_pendingWithin (settings : Settings) (path : Path) (paths : Path → Prop)
    (tree : Tree) : Preserves (PendingWithin paths) (resolveTree settings path tree) := by
  induction tree using Tree.induction generalizing path paths with
  | scalar tree scalar => exact preserves_scalar (PendingWithin paths) scalar
  | sequence items inductionHypothesis =>
      exact preserves_sequence (PendingWithin paths)
        fun item member path => inductionHypothesis item member path paths
  | mapping entries inductionHypothesis =>
      apply preserves_mapping (PendingWithin paths)
        (PendingWithin.invariant settings path paths entries)
      · exact fun initially => ⟨initially.sound, fun pending => Or.inr (initially.within pending)⟩
      · exact PendingWithin.forget
      · exact fun entry _ => resolveTree_sound settings _ entry.2
      · exact fun entry member => inductionHypothesis entry member _ _

end Walk
end Resolution
end TaggedContent
