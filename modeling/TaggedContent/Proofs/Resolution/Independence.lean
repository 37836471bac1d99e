import TaggedContent.Proofs.Resolution.Invariants
import TaggedContent.Proofs.Resolution.Thinning

namespace TaggedContent

/-!
# Subtrees are resolved independently

All mappings of a tree share one set of locks, one table of marks and one cache.  Yet
the walk over a subtree comes to what resolving this subtree alone comes to: when it is
reached nothing has been locked or marked at or below its path, and afterwards only
there.  The keys of one mapping, and the positions of one sequence, are distinct, so no
subtree is reached twice.
-/

theorem Tree.without_nothing (tree : Tree) : tree.without (fun _ => false) = tree := by
  have stays : ∀ key : Key, (!key.isAmong fun _ => false) = true := by
    intro key
    cases key <;> rfl
  induction tree using Tree.induction with
  | scalar tree scalar => exact without_of_isScalar _ scalar
  | sequence items inductionHypothesis =>
      rw [without, withoutItems_eq_map, List.map_congr_left inductionHypothesis, List.map_id']
  | mapping entries inductionHypothesis =>
      have same : ∀ entry ∈ entries, (entry.1, entry.2.without fun _ => false) = entry := by
        intro entry member
        rw [inductionHypothesis entry member]
      rw [without, withoutEntries_eq_map, List.filter_eq_self.mpr (fun entry _ => stays entry.1),
        List.map_congr_left same, List.map_id']

namespace Resolution

/-- What an entry of the node at `path` comes to when its value is resolved as a tree of
its own.  A failure is then one below the key of the entry. -/
def Settings.resolveApart (settings : Settings) (path : Path) (entry : Key × Tree) :
    Except InvalidPattern Tree :=
  (settings.resolve entry.2).mapError (·.under (path.child entry.1))

theorem Settings.resolveApart_eq_ok {settings : Settings} {path : Path} {entry : Key × Tree}
    {value : Tree} (resolved : settings.resolveApart path entry = .ok value) :
    settings.resolve entry.2 = .ok value := by
  rw [Settings.resolveApart] at resolved
  cases alone : settings.resolve entry.2 with
  | error error =>
      rw [alone] at resolved
      cases resolved
  | ok found =>
      rw [alone] at resolved
      cases resolved
      rfl

/-- A value that is resolved apart leaves the walk where it was. -/
theorem resolved_apart {settings : Settings} {path : Path} {entry : Key × Tree} {value : Tree}
    {start last : Progress}
    (resolved : (Walk.ofExcept (settings.resolveApart path entry)).outcome start =
      (.ok value, last)) :
    settings.resolve entry.2 = .ok value ∧ last = start := by
  rw [Walk.outcome_ofExcept] at resolved
  rcases Prod.mk.inj resolved with ⟨found, same⟩
  exact ⟨Settings.resolveApart_eq_ok found, same.symm⟩

/-! ## Fresh paths stay fresh -/

namespace Progress
namespace FreshBelow

variable {progress : Progress} {base path : Path}

theorem idle (fresh : progress.FreshBelow base) {last : Progress} (idle : progress.Idle last) :
    last.FreshBelow base where
  sound := idle.patterns fresh.sound
  unlocked rest key := by rw [idle.locks, fresh.unlocked]
  unmarked rest := by rw [idle.marks, fresh.unmarked]

theorem lock (fresh : progress.FreshBelow base) (apart : ∀ rest, base.below rest ≠ path)
    (key : String) : FreshBelow { progress with locks := progress.locks.lock path key } base where
  sound := fresh.sound
  unlocked rest name := by
    dsimp only
    rw [Locks.isLocked_lock_of_ne _ (apart rest).symm, fresh.unlocked]
  unmarked := fresh.unmarked

theorem mark (fresh : progress.FreshBelow base) (apart : ∀ rest, base.below rest ≠ path)
    (key : String) : FreshBelow { progress with marks := progress.marks.mark path key } base where
  sound := fresh.sound
  unlocked := fresh.unlocked
  unmarked rest := by
    dsimp only
    rw [Marks.keysAt_mark_of_ne _ (apart rest).symm, fresh.unmarked]

theorem forget (fresh : progress.FreshBelow base) (apart : ∀ rest, base.below rest ≠ path) :
    FreshBelow { progress with marks := progress.marks.forget path } base where
  sound := fresh.sound
  unlocked := fresh.unlocked
  unmarked rest := by
    dsimp only
    rw [Marks.keysAt_forget_of_ne _ (apart rest).symm, fresh.unmarked]

end FreshBelow
end Progress

/-! ## The children of one node -/

/-- The states agree at the path, and the first has not been below the children that
are still to be visited. -/
structure Apart (path : Path) (unvisited : Key → Prop) (first second : Progress) : Prop where
  sound : first.patterns.Sound ∧ second.patterns.Sound
  locked (key : String) : first.locks.isLocked path key = second.locks.isLocked path key
  marked : first.marks.keysAt path = second.marks.keysAt path
  fresh {key : Key} (ahead : unvisited key) : first.FreshBelow (path.child key)

namespace Apart

variable {path : Path} {unvisited : Key → Prop}

theorem mirrors (path : Path) (unvisited : Key → Prop) :
    Mirrors (Apart path unvisited) path path where
  sound holds := holds.sound
  locked holds key := holds.locked key
  marked holds := holds.marked
  idle holds left right :=
    { sound := ⟨left.patterns holds.sound.1, right.patterns holds.sound.2⟩
      locked := fun key => by rw [left.locks, right.locks, holds.locked]
      marked := by rw [left.marks, right.marks, holds.marked]
      fresh := fun ahead => (holds.fresh ahead).idle left }
  lock holds key :=
    { sound := holds.sound
      locked := fun name => by simp only [Locks.isLocked_lock, holds.locked]
      marked := holds.marked
      fresh := fun ahead =>
        (holds.fresh ahead).lock (fun rest => Path.child_below_ne_self path rest _) key }
  mark holds key :=
    { sound := holds.sound
      locked := holds.locked
      marked := by simp only [Marks.keysAt_mark, holds.marked]
      fresh := fun ahead =>
        (holds.fresh ahead).mark (fun rest => Path.child_below_ne_self path rest _) key }
  forget holds :=
    { sound := holds.sound
      locked := holds.locked
      marked := by simp only [Marks.keysAt_forget, if_true]
      fresh := fun ahead =>
        (holds.fresh ahead).forget fun rest => Path.child_below_ne_self path rest _ }

theorem weaken {fewer : Key → Prop} (smaller : ∀ key, fewer key → unvisited key)
    (first second : Progress) (holds : Apart path unvisited first second) :
    Apart path fewer first second :=
  ⟨holds.sound, holds.locked, holds.marked, fun ahead => holds.fresh (smaller _ ahead)⟩

theorem initial (path : Path) (unvisited : Key → Prop) :
    Apart path unvisited .initial .initial :=
  ⟨⟨Pattern.Cache.sound_empty, Pattern.Cache.sound_empty⟩, fun _ => rfl, rfl,
    fun _ => Progress.freshBelow_initial _⟩

end Apart

namespace Walk

variable {settings : Settings} {path : Path}

/-- Wherever a tree stands, the walk over it is in lockstep with the one over it alone. -/
theorem resolveTree_relocated (settings : Settings) (base : Path) (start : Progress)
    (tree : Tree) :
    Agree (Shifted base start) (resolveTree settings base tree) (resolveTree settings .root tree)
      (Shifted base start) fun failure other => failure = other.under base := by
  have thins : settings.Thins settings fun _ => false :=
    ⟨fun among => absurd among Bool.false_ne_true, fun _ => .refl settings _⟩
  have agree := resolveTree_without thins base start tree .root
  rwa [Path.below_root, Tree.without_nothing] at agree

/-- The walk over the value of an entry comes to what the value comes to alone, and
leaves the other children as they were. -/
theorem resolveChild_apart {entry : Key × Tree} {before after : Key → Prop}
    (ahead : before entry.1) (smaller : ∀ key, after key → before key ∧ key ≠ entry.1) :
    Agree (Apart path before) (resolveChild settings path entry)
      (ofExcept (settings.resolveApart path entry)) (Apart path after) Eq := by
  intro first second holds
  have agree := resolveTree_relocated settings (path.child entry.1) first entry.2 first .initial
    (holds.fresh ahead).shifted
  rw [outcome_ofExcept, Settings.resolveApart, Settings.resolve_eq_outcome]
  unfold resolveChild
  revert agree
  rcases (resolveTree settings (path.child entry.1) entry.2).outcome first with ⟨_ | value, last⟩ <;>
    rcases (resolveTree settings .root entry.2).outcome .initial with ⟨_ | other, reached⟩
  · exact id
  · exact False.elim
  · exact False.elim
  · rintro ⟨same, shifted⟩
    have self : ∀ rest, (path.child entry.1).below rest ≠ path :=
      fun rest => Path.child_below_ne_self path rest entry.1
    have sibling : ∀ key, after key → ∀ rest below,
        (path.child entry.1).below below ≠ (path.child key).below rest := by
      intro key later rest below shared
      exact (smaller key later).2 (Path.child_below_inj shared).1.symm
    refine ⟨same, ⟨shifted.sound.1, holds.sound.2⟩, fun key => ?_, ?_, fun later => ?_⟩
    · rw [shifted.lockedElsewhere self, holds.locked]
    · rw [shifted.markedElsewhere self, holds.marked]
    · have fresh := holds.fresh (smaller _ later).1
      refine ⟨shifted.sound.1, fun rest key => ?_, fun rest => ?_⟩
      · rw [shifted.lockedElsewhere (sibling _ later rest), fresh.unlocked]
      · rw [shifted.markedElsewhere (sibling _ later rest), fresh.unmarked]

/-- With distinct keys the key of an entry does not come again after it. -/
theorem not_mem_keys_of_suffix {entries tail : List (Key × Tree)} {head : Key × Tree}
    (distinct : (Entries.keys entries).Nodup) (suffix : head :: tail <:+ entries) :
    head.1 ∉ Entries.keys tail := by
  have here := distinct.sublist (suffix.map Prod.fst).sublist
  rw [List.map_cons, List.nodup_cons] at here
  exact here.1

/-- Entries with distinct keys are visited one after the other. -/
theorem mapM_apart (settings : Settings) (path : Path) {entries : List (Key × Tree)}
    (distinct : (Entries.keys entries).Nodup) :
    Agree (Apart path (· ∈ Entries.keys entries)) (entries.mapM (resolveChild settings path))
      (entries.mapM fun entry => ofExcept (settings.resolveApart path entry))
      (Apart path (· ∈ Entries.keys ([] : Mapping))) Eq := by
  apply Agree.mapM fun rest => Apart path (· ∈ Entries.keys rest)
  intro head tail suffix
  apply resolveChild_apart List.mem_cons_self
  intro key later
  refine ⟨List.mem_cons_of_mem _ later, fun same => ?_⟩
  exact not_mem_keys_of_suffix distinct suffix (same ▸ later)

/-- The keys that the first pass has still to visit when `rest` is left of it, and all
those that it leaves to the second. -/
def AheadOfFirst (settings : Settings) (entries rest : List (Key × Tree)) (key : Key) : Prop :=
  if settings.decidesFirst key then key ∈ Entries.keys rest else key ∈ Entries.keys entries

/-- The keys that the second pass has still to visit when `rest` is left of it. -/
def AheadOfSecond (settings : Settings) (rest : List (Key × Tree)) (key : Key) : Prop :=
  settings.decidesFirst key = false ∧ key ∈ Entries.keys rest

/-- One step of the first pass, when `head` and `tail` are left of the entries. -/
theorem firstEntry_apart (settings : Settings) (path : Path) {entries tail : Mapping}
    {head : Key × Tree} (distinct : (Entries.keys entries).Nodup)
    (suffix : head :: tail <:+ entries) :
    Agree (Apart path (AheadOfFirst settings entries (head :: tail)))
      (firstEntry settings path head.1 (resolveChild settings path head))
      (firstEntry settings path head.1 (ofExcept (settings.resolveApart path head)))
      (Apart path (AheadOfFirst settings entries tail)) Eq := by
  have smaller : ∀ key, AheadOfFirst settings entries tail key →
      AheadOfFirst settings entries (head :: tail) key := by
    intro key later
    unfold AheadOfFirst at later ⊢
    by_cases decided : settings.decidesFirst key = true
    · rw [if_pos decided] at later ⊢
      exact List.mem_cons_of_mem _ later
    · rw [if_neg decided] at later ⊢
      exact later
  apply (Apart.mirrors path _).agree_firstEntry (fun _ _ => rfl) (Apart.weaken smaller) head.1
    fun name _ => .refl settings name
  intro visited
  apply resolveChild_apart
  · rw [AheadOfFirst, if_pos visited]
    exact List.mem_cons_self
  · intro key later
    refine ⟨smaller key later, fun same => ?_⟩
    rw [AheadOfFirst, same, if_pos visited] at later
    exact not_mem_keys_of_suffix distinct suffix later

theorem firstPass_apart (settings : Settings) (path : Path) {entries : Mapping}
    (distinct : (Entries.keys entries).Nodup) :
    Agree (Apart path (AheadOfFirst settings entries entries))
      (entries.mapM fun entry => firstEntry settings path entry.1 (resolveChild settings path entry))
      (entries.mapM fun entry => firstEntry settings path entry.1
        (ofExcept (settings.resolveApart path entry)))
      (Apart path (AheadOfFirst settings entries [])) Eq := by
  apply Agree.mapM fun rest => Apart path (AheadOfFirst settings entries rest)
  intro head tail suffix
  exact firstEntry_apart settings path distinct suffix

/-- One step of the second pass. -/
theorem secondEntry_apart (settings : Settings) (path : Path) {entries tail : Mapping}
    {head : Key × Tree} (distinct : (Entries.keys entries).Nodup)
    (suffix : head :: tail <:+ entries) :
    Agree (Apart path (AheadOfSecond settings (head :: tail)))
      (secondEntry settings path entries head.1 head.2 (resolveChild settings path head))
      (secondEntry settings path entries head.1 head.2
        (ofExcept (settings.resolveApart path head)))
      (Apart path (AheadOfSecond settings tail)) Eq := by
  have smaller : ∀ key, AheadOfSecond settings tail key → AheadOfSecond settings (head :: tail) key :=
    fun key later => ⟨later.1, List.mem_cons_of_mem _ later.2⟩
  apply (Apart.mirrors path _).agree_secondEntry (Apart.mirrors path _) (fun _ _ => rfl)
    (Apart.weaken smaller) (fun _ _ => rfl) head.1 (fun name _ => .refl settings name) rfl
  intro visited
  apply resolveChild_apart ⟨visited, List.mem_cons_self⟩
  intro key later
  refine ⟨smaller key later, fun same => ?_⟩
  exact not_mem_keys_of_suffix distinct suffix (same ▸ later.2)

theorem secondPass_apart (settings : Settings) (path : Path) {entries : Mapping}
    (distinct : (Entries.keys entries).Nodup) :
    Agree (Apart path (AheadOfSecond settings entries))
      (entries.mapM fun entry => secondEntry settings path entries entry.1 entry.2
        (resolveChild settings path entry))
      (entries.mapM fun entry => secondEntry settings path entries entry.1 entry.2
        (ofExcept (settings.resolveApart path entry)))
      (Apart path (AheadOfSecond settings [])) Eq := by
  apply Agree.mapM fun rest => Apart path (AheadOfSecond settings rest)
  intro head tail suffix
  exact secondEntry_apart settings path distinct suffix

/-- Before the passes begin all children are ahead of the first. -/
theorem mem_keys_of_aheadOfFirst {settings : Settings} {entries : Mapping} {key : Key}
    (ahead : AheadOfFirst settings entries entries key) : key ∈ Entries.keys entries := by
  unfold AheadOfFirst at ahead
  split at ahead <;> exact ahead

/-- What the first pass has left out is ahead of the second. -/
theorem aheadOfFirst_of_aheadOfSecond {settings : Settings} {entries : Mapping} {key : Key}
    (ahead : AheadOfSecond settings entries key) : AheadOfFirst settings entries [] key := by
  rw [AheadOfFirst, if_neg (by simp [ahead.1])]
  exact ahead.2

/-- A mapping with distinct keys is resolved as if each value were resolved alone. -/
theorem resolveEntries_apart (settings : Settings) (path : Path) {entries : Mapping}
    (distinct : (Entries.keys entries).Nodup) :
    Agree (Apart path (· ∈ Entries.keys entries))
      (resolveEntries settings path (resolveChild settings path) entries)
      (resolveEntries settings path
        (fun entry => ofExcept (settings.resolveApart path entry)) entries)
      (Apart path (AheadOfSecond settings [])) Eq := by
  have first := (firstPass_apart settings path distinct).mono
    (Apart.weaken fun _ => mem_keys_of_aheadOfFirst)
    (Apart.weaken fun _ => aheadOfFirst_of_aheadOfSecond)
  refine first.bind fun early => ?_
  refine (secondPass_apart settings path distinct).bind fun late => ?_
  exact (Apart.mirrors path _).agree_restoreAliases _

end Walk

theorem Settings.resolve_sequence_apart (settings : Settings) {items : List Tree}
    (fits : items.length < 2 ^ 64) :
    settings.resolve (.sequence items) =
      ((Tree.positioned items 0).mapM (settings.resolveApart .root)).map .sequence := by
  have noMore : 0 + items.length ≤ 2 ^ 64 := by omega
  have positions := Tree.nodup_keys_positioned noMore
  have agree := Walk.mapM_apart settings .root positions
  rw [Settings.resolve_eq_outcome, Walk.resolveTree_sequence, Walk.outcome_map,
    agree.outcome_fst_eq (Apart.initial .root _), Walk.outcome_mapM_ofExcept]

theorem Settings.resolve_mapping_apart (settings : Settings) {entries : Mapping}
    (distinct : (Entries.keys entries).Nodup) :
    settings.resolve (.mapping entries) =
      ((Walk.resolveEntries settings .root
        (fun entry => Walk.ofExcept (settings.resolveApart .root entry)) entries).outcome
          .initial).1.map .mapping := by
  have agree := Walk.resolveEntries_apart settings .root distinct
  rw [Settings.resolve_eq_outcome, Walk.resolveTree_mapping, Walk.outcome_map,
    agree.outcome_fst_eq (Apart.initial .root _)]

/-- A sequence comes to its items resolved alone, one by one up to the first failure;
a mapping to what its passes make of its values resolved alone; and no mark is pending
when a tree has been resolved. -/
theorem Settings.subtrees_independent (settings : Settings) :
    (∀ items : List Tree, items.length < 2 ^ 64 →
      settings.resolve (.sequence items) =
        ((Tree.positioned items 0).mapM (settings.resolveApart .root)).map .sequence) ∧
    (∀ entries : Mapping, (Entries.keys entries).Nodup →
      settings.resolve (.mapping entries) =
        ((Walk.resolveEntries settings .root
          (fun entry => Walk.ofExcept (settings.resolveApart .root entry)) entries).outcome
            .initial).1.map .mapping) ∧
    ∀ (tree result : Tree) (last : Progress),
      (Walk.resolveTree settings .root tree).outcome .initial = (.ok result, last) →
        last.marks.pending = [] := by
  refine ⟨fun items fits => settings.resolve_sequence_apart fits,
    fun entries distinct => settings.resolve_mapping_apart distinct,
    fun tree result last success => ?_⟩
  have kept := Walk.resolveTree_pendingWithin settings .root (fun _ => False) tree success
    ⟨Pattern.Cache.sound_empty, fun pending => nomatch pending⟩
  apply List.eq_nil_iff_forall_not_mem.mpr
  intro entry pending
  exact kept.within (Entries.mem_keys_of_mem pending)

/-- A sequence of two mappings that lock the same key, a mapping with a broken pattern
below one of its entries, and one with an extraction mark. -/
theorem Settings.subtrees_independent_locked :
    let settings : Settings := ⟨some "fr", none⟩
    let titles : Mapping := [(.name "title@fr", .string "Bonjour"), (.name "title", .string "Hello")]
    let items : List Tree := [.mapping titles, .mapping titles]
    let broken : Mapping :=
      [(.name "title@fr", .null), (.name "body", .mapping [(.name "x@(", .null)])]
    let marked : Tree := .mapping [(.name "tags@", .sequence [.string "a"])]
    (items.length < 2 ^ 64 ∧ settings.resolve (.sequence items) =
      ((Tree.positioned items 0).mapM (settings.resolveApart .root)).map .sequence) ∧
    ((Entries.keys broken).Nodup ∧ settings.resolve (.mapping broken) =
      ((Walk.resolveEntries settings .root
        (fun entry => Walk.ofExcept (settings.resolveApart .root entry)) broken).outcome
          .initial).1.map .mapping) ∧
    ∃ result last, (Walk.resolveTree settings .root marked).outcome .initial = (.ok result, last) ∧
      last.marks.pending = [] := by
  intro settings titles items broken marked
  have independent := Settings.subtrees_independent settings
  refine ⟨⟨by decide, independent.1 items (by decide)⟩,
    ⟨by decide, independent.2.1 broken (by decide)⟩, ?_⟩
  exact ⟨_, _, rfl, independent.2.2 marked _ _ rfl⟩

end Resolution
end TaggedContent
