import TaggedContent.Proofs.Resolution.Aliases
import TaggedContent.Proofs.Resolution.Invariants

namespace TaggedContent

/-!
# Resolved trees are in normal form

In a normal mapping the indices and the names without `@` come first, and what follows
are aliases of such names, each with the sequence that its name holds.  A tree whose
names have at most one tag each resolves to a normal tree: the passes keep entries under
clean keys only, and aliases are added for keys that have been marked, once each.
-/

/-- An index, or a name without `@`. -/
def Key.IsClean : Key → Prop
  | .name text => '@' ∉ text.toList
  | .index _ => True

namespace Tree

/-- At every depth the names have at most one tag each, or are comments. -/
inductive Simple : Tree → Prop where
  | scalar {tree : Tree} (isScalar : tree.IsScalar) : Simple tree
  | sequence {items : List Tree} (values : ∀ item ∈ items, Simple item) : Simple (.sequence items)
  | mapping {entries : Mapping} (keys : Resolution.SimpleKeys entries)
      (values : ∀ entry ∈ entries, Simple entry.2) : Simple (.mapping entries)

/-- At every depth the clean keys come first, and all others are the aliases of clean
names that hold the same sequence. -/
inductive Normal : Tree → Prop where
  | scalar {tree : Tree} (isScalar : tree.IsScalar) : Normal tree
  | sequence {items : List Tree} (values : ∀ item ∈ items, Normal item) : Normal (.sequence items)
  | mapping {plain aliases : Mapping} (distinct : (Entries.keys (plain ++ aliases)).Nodup)
      (clean : ∀ entry ∈ plain, entry.1.IsClean)
      (aliased : ∀ entry ∈ aliases, ∃ name items, '@' ∉ name.toList ∧
        entry = (.name (Resolution.aliasOf name), .sequence items) ∧
        (.name name, .sequence items) ∈ plain)
      (values : ∀ entry ∈ plain, Normal entry.2) : Normal (.mapping (plain ++ aliases))

end Tree

namespace Resolution

/-- Distinct keys have distinct aliases. -/
theorem nodup_keys_aliases {keys : List String} (distinct : keys.Nodup) (entries : Mapping) :
    (Entries.keys (keys.filterMap (alias? entries))).Nodup := by
  rw [Entries.keys, List.map_filterMap]
  apply distinct.filterMap
  intro key other added here there
  rcases Option.map_eq_some_iff.mp here with ⟨entry, found, isKey⟩
  rcases Option.map_eq_some_iff.mp there with ⟨entry', found', isKey'⟩
  rcases alias?_eq_some_iff.mp found with ⟨_, _, same⟩
  rcases alias?_eq_some_iff.mp found' with ⟨_, _, same'⟩
  rw [same] at isKey
  rw [same'] at isKey'
  exact aliasOf_inj (Key.name.inj (isKey.trans isKey'.symm))

/-- Restoring the aliases of clean keys makes a normal mapping of one with clean keys. -/
theorem normal_addAliases {entries : Mapping} {keys : List String}
    (distinctKeys : keys.Nodup) (cleanKeys : ∀ key ∈ keys, '@' ∉ key.toList)
    (distinct : (Entries.keys entries).Nodup) (clean : ∀ entry ∈ entries, entry.1.IsClean)
    (values : ∀ entry ∈ entries, entry.2.Normal) :
    (Tree.mapping (addAliases keys entries).1).Normal := by
  have aliased : ∀ entry ∈ keys.filterMap (alias? entries), ∃ name items, '@' ∉ name.toList ∧
      entry = (.name (aliasOf name), .sequence items) ∧
      (.name name, .sequence items) ∈ entries := by
    intro entry member
    rcases List.mem_filterMap.mp member with ⟨key, listed, found⟩
    rcases alias?_eq_some_iff.mp found with ⟨items, held, same⟩
    exact ⟨key, items, cleanKeys key listed, same, Entries.mem_of_get? held⟩
  have apart : (Entries.keys (entries ++ keys.filterMap (alias? entries))).Nodup := by
    rw [Entries.keys_append, List.nodup_append]
    refine ⟨distinct, nodup_keys_aliases distinctKeys entries, ?_⟩
    intro key isPlain other isAlias same
    rcases List.mem_map.mp isPlain with ⟨entry, member, isKey⟩
    rcases List.mem_map.mp isAlias with ⟨added, listed, isOther⟩
    rcases aliased added listed with ⟨name, items, _, isAdded, _⟩
    have cleanKey := clean entry member
    rw [isKey, same, ← isOther, isAdded] at cleanKey
    exact absurd (mem_toList_aliasOf name) cleanKey
  rw [addAliases_eq_foldl (isolated_of_clean cleanKeys), Entries.foldl_insert_of_nodup _ _ apart]
  exact .mapping apart clean aliased values

namespace Walk

variable {settings : Settings} {path : Path} {entries : Mapping}

/-- The cache is sound, and the keys that are marked at any path are clean and listed
once. -/
structure WellMarked (progress : Progress) : Prop where
  sound : progress.patterns.Sound
  distinct (path : Path) : (progress.marks.keysAt path).Nodup
  clean (path : Path) {key : String} (mark : key ∈ progress.marks.keysAt path) : '@' ∉ key.toList

theorem WellMarked.idle {first last : Progress} (holds : WellMarked first) (idle : first.Idle last) :
    WellMarked last where
  sound := idle.patterns holds.sound
  distinct path := by rw [idle.marks]; exact holds.distinct path
  clean path _ mark := holds.clean path (idle.marks ▸ mark)

theorem WellMarked.selected {base : String} {chosen : Bool} {first last : Progress}
    (holds : WellMarked first) (selected : Selected path base chosen first last) :
    WellMarked last where
  sound := selected.patterns holds.sound
  distinct path := by rw [selected.marks]; exact holds.distinct path
  clean path _ mark := holds.clean path (selected.marks ▸ mark)

theorem WellMarked.mark {progress : Progress} (holds : WellMarked progress) {key : String}
    (clean : '@' ∉ key.toList) (path : Path) :
    WellMarked { progress with marks := progress.marks.mark path key } where
  sound := holds.sound
  distinct other := by
    by_cases here : path = other
    · exact here ▸ Marks.nodup_keysAt_mark progress.marks path key (holds.distinct path)
    · dsimp only
      rw [Marks.keysAt_mark_of_ne progress.marks here]
      exact holds.distinct other
  clean other name mark := by
    by_cases here : path = other
    · subst here
      rcases (Marks.mem_keysAt_mark _ _ _ _).mp mark with before | same
      · exact holds.clean path before
      · exact same ▸ clean
    · dsimp only at mark
      rw [Marks.keysAt_mark_of_ne progress.marks here] at mark
      exact holds.clean other mark

theorem WellMarked.forget {progress : Progress} (holds : WellMarked progress) (path : Path) :
    WellMarked { progress with marks := progress.marks.forget path } where
  sound := holds.sound
  distinct other := by
    dsimp only
    rw [Marks.keysAt_forget]
    split
    · exact List.nodup_nil
    · exact holds.distinct other
  clean other name mark := by
    dsimp only at mark
    rw [Marks.keysAt_forget] at mark
    split at mark
    · cases mark
    · exact holds.clean other mark

/-- In a mapping with simple names only clean keys are marked. -/
theorem WellMarked.invariant (simple : SimpleKeys entries) :
    Invariant settings path entries WellMarked where
  sound holds := holds.sound
  idle idle holds := holds.idle idle
  lock _ holds := ⟨holds.sound, holds.distinct, holds.clean⟩
  mark member _ _ _ target holds :=
    holds.mark (simple.base_clean member (Settings.base?_of_secondTarget? target)) _

theorem resolveTree_wellMarked (settings : Settings) (path : Path) {tree : Tree}
    (simple : tree.Simple) : Preserves WellMarked (resolveTree settings path tree) := by
  induction simple generalizing path with
  | scalar isScalar => exact preserves_scalar WellMarked isScalar
  | sequence values inductionHypothesis =>
      exact preserves_sequence WellMarked inductionHypothesis
  | mapping keys values inductionHypothesis =>
      apply preserves_mapping WellMarked (WellMarked.invariant keys)
      · exact id
      · exact fun reached idle => (reached.forget path).idle idle
      · exact fun entry _ => resolveTree_sound settings _ entry.2
      · exact fun entry member => inductionHypothesis entry member _

/-! ## Values -/

/-- What is kept of an entry, if anything, is a normal tree under a clean key. -/
def KeptNormal (kept : Option (Key × Tree)) : Prop :=
  ∀ entry, kept = some entry → entry.1.IsClean ∧ entry.2.Normal

theorem mem_assemble {early late : List (Option (Key × Tree))} {entry : Key × Tree}
    (member : entry ∈ assemble early late) : some entry ∈ early ∨ some entry ∈ late := by
  have paired : (entry.1, entry.2) ∈ (List.zipWith Option.or early late).filterMap id :=
    Entries.mem_of_mem_ofPairs member
  rcases List.mem_filterMap.mp paired with ⟨kept, zipped, isKept⟩
  rw [← List.map_uncurry_zip_eq_zipWith] at zipped
  rcases List.mem_map.mp zipped with ⟨⟨first, second⟩, both, same⟩
  have members := List.of_mem_zip both
  rw [id_eq] at isKept
  subst isKept
  cases first with
  | none => exact Or.inr (same ▸ members.2)
  | some found => exact Or.inl (same ▸ members.1)

/-- The values that a mapping keeps are normal if its own values resolve to such. -/
theorem keptNormal_firstEntry {entry : Key × Tree} (simple : SimpleKeys entries)
    (member : entry ∈ entries) {below : Walk Tree}
    (values : ∀ start value last, below.outcome start = (.ok value, last) → WellMarked start →
      value.Normal)
    {start last : Progress} {kept : Option (Key × Tree)}
    (success : (firstEntry settings path entry.1 below).outcome start = (.ok kept, last))
    (initially : WellMarked start) : KeptNormal kept := by
  intro result isKept
  cases firstEntry_success initially.sound success with
  | passed target idle => cases isKept
  | index isIndex resolved =>
      cases isKept
      rw [isIndex]
      exact ⟨trivial, values _ _ _ resolved initially⟩
  | selected isName target claimed resolved =>
      cases isKept
      have clean := simple.base_clean member (Settings.base?_of_firstTarget? target)
      exact ⟨clean, values _ _ _ resolved (initially.selected claimed)⟩

theorem keptNormal_secondEntry {entry : Key × Tree} (simple : SimpleKeys entries)
    (member : entry ∈ entries) {node : Mapping} {below : Walk Tree}
    (sound : Preserves (fun progress => progress.patterns.Sound) below)
    (values : ∀ start value last, below.outcome start = (.ok value, last) → WellMarked start →
      value.Normal)
    {start last : Progress} {kept : Option (Key × Tree)}
    (success : (secondEntry settings path node entry.1 entry.2 below).outcome start =
      (.ok kept, last))
    (initially : WellMarked start) : KeptNormal kept := by
  intro result isKept
  cases secondEntry_success initially.sound sound success with
  | passed target idle => cases isKept
  | rejected target idle resolved dropped => cases isKept
  | kept isName target idle resolved marked =>
      cases isKept
      have clean := simple.base_clean member (Settings.base?_of_secondTarget? target)
      exact ⟨clean, values _ _ _ resolved (initially.idle idle)⟩

theorem resolveTree_normal (settings : Settings) {tree : Tree} (simple : tree.Simple)
    (path : Path) (start : Progress) (result : Tree) (last : Progress)
    (success : (resolveTree settings path tree).outcome start = (.ok result, last))
    (initially : WellMarked start) : result.Normal := by
  induction simple generalizing path start result last with
  | scalar isScalar =>
      rw [resolveTree_scalar settings path isScalar] at success
      cases success
      exact .scalar isScalar
  | sequence values inductionHypothesis =>
      rcases resolveTree_sequence_success success with ⟨found, isResult, steps⟩
      rw [isResult]
      apply Tree.Normal.sequence
      refine steps.forall_values (fun element member => ?_) (fun element member => ?_) initially
      · exact resolveTree_wellMarked settings _ (values _ (Tree.mem_of_mem_positioned member))
      · exact inductionHypothesis _ (Tree.mem_of_mem_positioned member) _
  | @mapping entries keys values inductionHypothesis =>
      rcases resolveTree_mapping_success success with ⟨kept, isResult, passes⟩
      rcases resolveEntries_success passes with
        ⟨early, middle, late, after, first, second, isKept, _⟩
      have sound : ∀ entry ∈ entries, Preserves (fun progress => progress.patterns.Sound)
          (resolveChild settings path entry) := fun entry _ => resolveTree_sound settings _ entry.2
      have marks : ∀ entry ∈ entries, Preserves WellMarked (resolveChild settings path entry) :=
        fun entry member => resolveTree_wellMarked settings _ (values entry member)
      have invariant : Invariant settings path entries WellMarked := WellMarked.invariant keys
      have reached := invariant.passes sound marks first second initially
      have earlyNormal : ∀ kept ∈ early, KeptNormal kept := by
        refine first.forall_values (fun entry member => ?_) (fun entry member => ?_) initially
        · exact invariant.preserves_firstEntry (marks entry member)
        · intro start kept last success
          exact keptNormal_firstEntry keys member (inductionHypothesis entry member _) success
      have lateNormal : ∀ kept ∈ late, KeptNormal kept := by
        refine second.forall_values (fun entry member => ?_) (fun entry member => ?_) reached.1
        · exact invariant.preserves_secondEntry member (sound entry member) (marks entry member)
        · intro start kept last success
          exact keptNormal_secondEntry keys member (sound entry member)
            (inductionHypothesis entry member _) success
      have assembled : ∀ entry ∈ assemble early late, entry.1.IsClean ∧ entry.2.Normal := by
        intro entry member
        rcases mem_assemble member with kept | kept
        · exact earlyNormal _ kept entry rfl
        · exact lateNormal _ kept entry rfl
      rw [isResult, isKept]
      exact normal_addAliases (reached.2.distinct path) (fun _ mark => reached.2.clean path mark)
        (Entries.nodup_keys_ofPairs _) (fun entry member => (assembled entry member).1)
        fun entry member => (assembled entry member).2

theorem WellMarked.initial : WellMarked .initial :=
  ⟨Pattern.Cache.sound_empty, fun _ => List.nodup_nil, fun _ _ mark => nomatch mark⟩

end Walk

theorem Settings.resolve_normal {settings : Settings} {tree result : Tree} (simple : tree.Simple)
    (success : settings.resolve tree = .ok result) : result.Normal := by
  rw [Settings.resolve_eq_outcome] at success
  rcases walked : (Walk.resolveTree settings .root tree).outcome .initial with ⟨found, last⟩
  rw [walked] at success
  dsimp only at success
  rw [success] at walked
  exact Walk.resolveTree_normal settings simple .root _ _ _ walked .initial

end Resolution
end TaggedContent
