import TaggedContent.Proofs.Resolution.Invariants

namespace TaggedContent
namespace Resolution

/-!
# Assembling what both passes keep

Locks are never released.  A name that the first pass keeps was free before and is
locked afterwards, and the second pass keeps no locked name, so the passes do not compete
for a key.  What is assembled holds under every key what either pass keeps last under
it, in whatever way the entries of the two passes are interleaved.
-/

/-! ## Both passes by key -/

theorem get?_reverse_kept (entry : Key × Tree) (others : List (Option (Key × Tree))) (key : Key) :
    Entries.get? ((some entry :: others).filterMap id).reverse key =
      (Entries.get? (others.filterMap id).reverse key).or (Entries.get? [entry] key) := by
  have split : (some entry :: others).filterMap id = entry :: others.filterMap id := rfl
  rw [split, List.reverse_cons, Entries.get?_append]

/-- When the passes do not compete for a key it holds what either of them keeps last. -/
theorem get?_assemble {early late : List (Option (Key × Tree))}
    (disjoint : List.Forall₂ (fun kept later => kept = none ∨ later = none) early late) {key : Key}
    (apart : Entries.get? (early.filterMap id).reverse key = none ∨
      Entries.get? (late.filterMap id).reverse key = none) :
    Entries.get? (Walk.assemble early late) key =
      (Entries.get? (early.filterMap id).reverse key).or
        (Entries.get? (late.filterMap id).reverse key) := by
  have passed : ∀ others : List (Option (Key × Tree)),
      (none :: others).filterMap id = others.filterMap id := fun _ => rfl
  rw [Walk.assemble, Entries.get?_ofPairs]
  induction disjoint with
  | nil => rfl
  | @cons kept later early late either rest inductionHypothesis =>
      cases kept with
      | none =>
          rw [passed] at apart ⊢
          rw [List.zipWith_cons_cons, Option.none_or]
          cases later with
          | none => exact inductionHypothesis apart
          | some entry =>
              rw [get?_reverse_kept, Option.or_eq_none_iff] at apart
              rw [get?_reverse_kept, get?_reverse_kept,
                inductionHypothesis (apart.imp_right And.left), Option.or_assoc]
      | some entry =>
          have nothing := either.resolve_left (Option.some_ne_none entry)
          subst nothing
          rw [passed] at apart ⊢
          rw [get?_reverse_kept, Option.or_eq_none_iff] at apart
          rw [List.zipWith_cons_cons, Option.or_none, get?_reverse_kept, get?_reverse_kept,
            inductionHypothesis (apart.imp_left And.left)]
          rcases apart with ⟨absent, here⟩ | absent
          · rw [absent, here, Option.or_none, Option.or_none, Option.none_or]
          · rw [absent, Option.or_none, Option.or_none]

theorem Settings.unlocked_of_firstTarget? {settings : Settings} {locked : String → Bool} {key : Key}
    {base : String} (target : settings.firstTarget? locked key = some (.name base)) :
    locked base = false := by
  rcases key with name | position
  · rw [firstTarget?] at target
    split at target
    case h_1 read =>
        split at target
        case isTrue free =>
            cases target
            simp only [Bool.and_eq_true, Bool.not_eq_true'] at free
            exact free.2
        case isFalse => cases target
    case h_2 => cases target
  · cases target

theorem Settings.unlocked_of_secondTarget? {settings : Settings} {node : Mapping}
    {locked : String → Bool} {key : Key} {base : String}
    (target : settings.secondTarget? node locked key = some base) : locked base = false := by
  rcases key with name | position
  · rw [secondTarget?] at target
    split at target
    case h_1 read =>
        split at target
        case isTrue => cases target
        case isFalse free =>
            cases target
            simp only [Bool.or_eq_true, not_or, Bool.not_eq_true] at free
            exact free.2
    case h_2 read =>
        split at target
        case isTrue => cases target
        case isFalse free =>
            split at target
            case isTrue =>
                cases target
                simp only [Bool.or_eq_true, not_or, Bool.not_eq_true] at free
                exact free.2
            case isFalse => cases target
    case h_3 => cases target
  · cases target

namespace Walk

variable {settings : Settings} {path : Path} {entries : Mapping}

/-! ## Locks are never released -/

/-- The cache is sound, and at the path no less than these keys is locked. -/
structure LocksAtLeast (path : Path) (locked : String → Bool) (progress : Progress) : Prop where
  sound : progress.patterns.Sound
  locked {key : String} (claimed : locked key = true) : progress.locks.isLocked path key = true

theorem LocksAtLeast.of_sound {progress : Progress} (sound : progress.patterns.Sound)
    (path : Path) : LocksAtLeast path (progress.locks.isLocked path) progress :=
  ⟨sound, id⟩

theorem LocksAtLeast.idle {locked : String → Bool} {first last : Progress}
    (holds : LocksAtLeast path locked first) (idle : first.Idle last) :
    LocksAtLeast path locked last :=
  ⟨idle.patterns holds.sound, fun claimed => by rw [idle.locks, holds.locked claimed]⟩

theorem LocksAtLeast.lock {locked : String → Bool} {progress : Progress}
    (holds : LocksAtLeast path locked progress) (place : Path) (key : String) :
    LocksAtLeast path locked { progress with locks := progress.locks.lock place key } :=
  ⟨holds.sound, fun claimed => by rw [Locks.isLocked_lock, holds.locked claimed, Bool.true_or]⟩

theorem LocksAtLeast.invariant (settings : Settings) (place path : Path) (locked : String → Bool)
    (entries : Mapping) : Invariant settings place entries (LocksAtLeast path locked) where
  sound holds := holds.sound
  idle idle holds := holds.idle idle
  lock key holds := holds.lock place key
  mark _ _ _ _ _ holds := ⟨holds.sound, holds.locked⟩

theorem resolveTree_locksAtLeast (settings : Settings) (place path : Path)
    (locked : String → Bool) (tree : Tree) :
    Preserves (LocksAtLeast path locked) (resolveTree settings place tree) := by
  induction tree using Tree.induction generalizing place with
  | scalar tree scalar => exact preserves_scalar (LocksAtLeast path locked) scalar
  | sequence items inductionHypothesis =>
      exact preserves_sequence (LocksAtLeast path locked) inductionHypothesis
  | mapping entries inductionHypothesis =>
      apply preserves_mapping (LocksAtLeast path locked)
        (LocksAtLeast.invariant settings place path locked entries)
      · exact id
      · exact fun holds => LocksAtLeast.idle ⟨holds.sound, holds.locked⟩
      · exact fun entry _ => resolveTree_sound settings _ entry.2
      · exact fun entry member => inductionHypothesis entry member _

/-- No walk over the value of an entry releases a lock at the path. -/
def KeepsLocks (path : Path) (entries : Mapping) (below : Key × Tree → Walk Tree) : Prop :=
  ∀ entry ∈ entries, ∀ locked, Preserves (LocksAtLeast path locked) (below entry)

theorem KeepsLocks.sound {below : Key × Tree → Walk Tree} (keeps : KeepsLocks path entries below)
    {entry : Key × Tree} (member : entry ∈ entries) :
    Preserves (fun progress => progress.patterns.Sound) (below entry) := by
  intro start value last success sound
  exact (keeps entry member (fun _ => false) success ⟨sound, fun claimed => nomatch claimed⟩).sound

theorem KeepsLocks.tail {below : Key × Tree → Walk Tree} {head : Key × Tree}
    (keeps : KeepsLocks path (head :: entries) below) : KeepsLocks path entries below :=
  fun entry member => keeps entry (List.mem_cons_of_mem _ member)

theorem keepsLocks_resolveChild (settings : Settings) (path : Path) (entries : Mapping) :
    KeepsLocks path entries (resolveChild settings path) :=
  fun entry _ locked => resolveTree_locksAtLeast settings _ path locked entry.2

/-! ## The keys that the passes keep -/

theorem LocksAtLeast.trans {first middle last : Progress}
    (before : LocksAtLeast path (first.locks.isLocked path) middle)
    (after : LocksAtLeast path (middle.locks.isLocked path) last) :
    LocksAtLeast path (first.locks.isLocked path) last :=
  ⟨after.sound, fun claimed => after.locked (before.locked claimed)⟩

theorem LocksAtLeast.free {first last : Progress} {key : String}
    (grows : LocksAtLeast path (first.locks.isLocked path) last)
    (free : last.locks.isLocked path key = false) : first.locks.isLocked path key = false := by
  rw [Bool.eq_false_iff] at free ⊢
  exact fun claimed => free (grows.locked claimed)

/-- The base of a selected entry is still locked when its value has been resolved. -/
theorem KeepsLocks.locked_base {below : Key × Tree → Walk Tree} (keeps : KeepsLocks path entries below)
    {entry : Key × Tree} (member : entry ∈ entries) {base : String} {value : Tree}
    {start middle last : Progress} (sound : start.patterns.Sound)
    (claimed : Selected path base true start middle)
    (resolved : (below entry).outcome middle = (.ok value, last)) :
    last.locks.isLocked path base = true := by
  have locked : LocksAtLeast path (· == base) middle := by
    refine ⟨claimed.patterns sound, fun isBase => ?_⟩
    rw [claimed.locks, if_pos rfl, Locks.isLocked_lock, beq_iff_eq.mp isBase]
    simp
  exact (keeps entry member _ resolved locked).locked (beq_self_eq_true base)

/-- The names that the first pass keeps are free before and locked afterwards, and what
was locked before still is.  It keeps no key twice, as long as no index comes twice. -/
structure FirstKeys (path : Path) (entries : Mapping) (start : Progress)
    (early : List (Option (Key × Tree))) (last : Progress) : Prop where
  grows : LocksAtLeast path (start.locks.isLocked path) last
  free {name : String} (kept : .name name ∈ Entries.keys (early.filterMap id)) :
    start.locks.isLocked path name = false
  taken {name : String} (kept : .name name ∈ Entries.keys (early.filterMap id)) :
    last.locks.isLocked path name = true
  index {position : Int64} (kept : .index position ∈ Entries.keys (early.filterMap id)) :
    .index position ∈ Entries.keys entries
  nodup (distinct : (Entries.keys entries).Nodup) : (Entries.keys (early.filterMap id)).Nodup

namespace FirstKeys

variable {head : Key × Tree} {tail : Mapping} {start middle last : Progress}
  {early : List (Option (Key × Tree))}

theorem nil {progress : Progress} (sound : progress.patterns.Sound) :
    FirstKeys path [] progress [] progress where
  grows := .of_sound sound path
  free kept := nomatch kept
  taken kept := nomatch kept
  index kept := nomatch kept
  nodup _ := List.nodup_nil

theorem cons_passed (grows : LocksAtLeast path (start.locks.isLocked path) middle)
    (rest : FirstKeys path tail middle early last) :
    FirstKeys path (head :: tail) start (none :: early) last where
  grows := grows.trans rest.grows
  free kept := grows.free (rest.free kept)
  taken kept := rest.taken kept
  index kept := List.mem_cons_of_mem _ (rest.index kept)
  nodup distinct := rest.nodup (List.nodup_cons.mp distinct).2

theorem cons_index {position : Int64} {value content : Tree}
    (grows : LocksAtLeast path (start.locks.isLocked path) middle)
    (rest : FirstKeys path tail middle early last) :
    FirstKeys path ((.index position, content) :: tail) start
      (some (.index position, value) :: early) last where
  grows := grows.trans rest.grows
  free kept := grows.free (rest.free ((List.mem_cons.mp kept).resolve_left Key.noConfusion))
  taken kept := rest.taken ((List.mem_cons.mp kept).resolve_left Key.noConfusion)
  index kept := by
    rcases List.mem_cons.mp kept with here | there
    · exact here ▸ List.mem_cons_self
    · exact List.mem_cons_of_mem _ (rest.index there)
  nodup distinct := by
    rw [Entries.keys_cons, List.nodup_cons] at distinct
    exact List.nodup_cons.mpr ⟨fun again => distinct.1 (rest.index again), rest.nodup distinct.2⟩

theorem cons_selected {base : String} {value : Tree}
    (grows : LocksAtLeast path (start.locks.isLocked path) middle)
    (free : start.locks.isLocked path base = false) (locked : middle.locks.isLocked path base = true)
    (rest : FirstKeys path tail middle early last) :
    FirstKeys path (head :: tail) start (some (.name base, value) :: early) last where
  grows := grows.trans rest.grows
  free kept := by
    rcases List.mem_cons.mp kept with here | there
    · rwa [Key.name.inj here]
    · exact grows.free (rest.free there)
  taken kept := by
    rcases List.mem_cons.mp kept with here | there
    · rw [Key.name.inj here]
      exact rest.grows.locked locked
    · exact rest.taken there
  index kept :=
    List.mem_cons_of_mem _ (rest.index ((List.mem_cons.mp kept).resolve_left Key.noConfusion))
  nodup distinct := by
    refine List.nodup_cons.mpr ⟨fun again => ?_, rest.nodup (List.nodup_cons.mp distinct).2⟩
    rw [rest.free again] at locked
    cases locked

end FirstKeys

theorem firstKeys_of_steps {below : Key × Tree → Walk Tree}
    (keeps : KeepsLocks path entries below) {start last : Progress}
    {early : List (Option (Key × Tree))} (sound : start.patterns.Sound)
    (steps : Steps (fun entry => firstEntry settings path entry.1 (below entry)) entries start
      early last) : FirstKeys path entries start early last := by
  induction steps with
  | nil progress => exact .nil sound
  | @cons head tail start middle last kept early first rest inductionHypothesis =>
      have grows : LocksAtLeast path (start.locks.isLocked path) middle :=
        (LocksAtLeast.invariant settings path path _ (head :: tail)).preserves_firstEntry
          (keeps head List.mem_cons_self _) first (.of_sound sound path)
      have later := inductionHypothesis keeps.tail grows.sound
      rcases head with ⟨key, content⟩
      cases firstEntry_success sound first with
      | passed target idle => exact later.cons_passed grows
      | index isIndex resolved =>
          dsimp only at isIndex
          subst isIndex
          exact later.cons_index grows
      | selected isName target claimed resolved =>
          have locked := keeps.locked_base List.mem_cons_self sound claimed resolved
          exact later.cons_selected grows (Settings.unlocked_of_firstTarget? target) locked

/-- The second pass keeps names only, and none that is locked when it begins. -/
theorem unlocked_of_secondSteps {node : Mapping} {below : Key × Tree → Walk Tree}
    (keeps : KeepsLocks path entries below) {start last : Progress}
    {late : List (Option (Key × Tree))} (sound : start.patterns.Sound)
    (steps : Steps (fun entry => secondEntry settings path node entry.1 entry.2 (below entry))
      entries start late last) :
    ∀ key ∈ Entries.keys (late.filterMap id), ∃ name, key = .name name ∧
      start.locks.isLocked path name = false := by
  induction steps with
  | nil progress => exact fun _ kept => nomatch kept
  | @cons head tail start middle last kept late first rest inductionHypothesis =>
      have keepsSound : Preserves (fun progress => progress.patterns.Sound) (below head) :=
        keeps.sound List.mem_cons_self
      have step := secondEntry_success sound keepsSound first
      have grows : LocksAtLeast path (start.locks.isLocked path) middle :=
        (LocksAtLeast.invariant settings path path _ (head :: tail)).preserves_secondEntry
          List.mem_cons_self keepsSound (keeps head List.mem_cons_self _) first (.of_sound sound path)
      have later : ∀ key ∈ Entries.keys (late.filterMap id), ∃ name, key = .name name ∧
          start.locks.isLocked path name = false := by
        intro key kept
        rcases inductionHypothesis keeps.tail grows.sound key kept with ⟨name, isName, free⟩
        exact ⟨name, isName, grows.free free⟩
      cases step with
      | passed target idle => exact later
      | rejected target idle resolved dropped => exact later
      | kept isName target idle resolved marked =>
          intro key kept
          rcases List.mem_cons.mp kept with here | there
          · exact ⟨_, here, Settings.unlocked_of_secondTarget? target⟩
          · exact later key there

/-- What both passes keep is assembled key by key. -/
theorem get?_assemble_of_steps {below : Key × Tree → Walk Tree}
    (keeps : KeepsLocks path entries below) {start middle last : Progress}
    {early late : List (Option (Key × Tree))} (sound : start.patterns.Sound)
    (first : Steps (fun entry => firstEntry settings path entry.1 (below entry)) entries start
      early middle)
    (second : Steps (fun entry => secondEntry settings path entries entry.1 entry.2 (below entry))
      entries middle late last) (key : Key) :
    Entries.get? (assemble early late) key =
      (Entries.get? (early.filterMap id).reverse key).or
        (Entries.get? (late.filterMap id).reverse key) := by
  have names := firstKeys_of_steps keeps sound first
  have free := unlocked_of_secondSteps keeps names.grows.sound second
  apply get?_assemble (forall₂_kept_of_steps first second)
  rw [or_iff_not_imp_right, Entries.get?_eq_none_iff, Entries.get?_eq_none_iff, not_not]
  intro late early
  simp only [Entries.keys, List.map_reverse, List.mem_reverse] at late early
  rcases free key late with ⟨name, isName, unlocked⟩
  subst isName
  rw [names.taken early] at unlocked
  cases unlocked

end Walk
end Resolution
end TaggedContent
