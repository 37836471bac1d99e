import Mathlib.Data.List.Perm.Basic
import TaggedContent.Proofs.Resolution.Extraction
import TaggedContent.Proofs.Resolution.Reporting

namespace TaggedContent
namespace Resolution

/-!
# The trace as an audit

Which mappings a walk comes to, and what it decides about their entries, is computed
without the walk: an entry is entered when a pass resolves its value, whether or not a
resolver rejects it afterwards.  The events of a walk that succeeds tell of the decisions
for exactly these mappings, each once.  A dropped entry is reported once, unless it has a
locale tag without a mark and no locale is given.
-/

namespace Settings

/-! ## The mappings that are visited -/

/-- Whether a pass resolves the value of the entry with this key. -/
def enters (settings : Settings) (node : Mapping) (key : Key) : Bool :=
  (settings.firstTarget? (settings.lockedBefore node key) key).isSome ||
    settings.attempts (settings.lockedBy (fun _ => false) node) key

mutual

/-- The mappings that the walk over the tree comes to, with their paths. -/
def visited (settings : Settings) (path : Path) : Tree → List (Path × Mapping)
  | .mapping entries => (path, entries) :: settings.visitedEntries path entries entries
  | .sequence items => settings.visitedItems path 0 items
  | _ => []

def visitedItems (settings : Settings) (path : Path) (position : Nat) :
    List Tree → List (Path × Mapping)
  | [] => []
  | item :: items =>
      settings.visited (path.child (.index (.ofNat position))) item ++
        settings.visitedItems path (position + 1) items

def visitedEntries (settings : Settings) (path : Path) (node : Mapping) :
    List (Key × Tree) → List (Path × Mapping)
  | [] => []
  | (key, value) :: rest =>
      (if settings.enters node key then settings.visited (path.child key) value else []) ++
        settings.visitedEntries path node rest

end

theorem visitedItems_eq_flatMap (settings : Settings) (path : Path) (items : List Tree)
    (position : Nat) :
    settings.visitedItems path position items =
      (Tree.positioned items position).flatMap fun entry =>
        settings.visited (path.child entry.1) entry.2 := by
  induction items generalizing position with
  | nil => rfl
  | cons item items inductionHypothesis =>
      rw [visitedItems, inductionHypothesis, Tree.positioned_cons, List.flatMap_cons]

theorem visitedEntries_eq_flatMap (settings : Settings) (path : Path) (node entries : Mapping) :
    settings.visitedEntries path node entries =
      entries.flatMap fun entry =>
        if settings.enters node entry.1 then settings.visited (path.child entry.1) entry.2 else [] := by
  induction entries with
  | nil => rfl
  | cons entry rest inductionHypothesis =>
      rw [visitedEntries, inductionHypothesis, List.flatMap_cons]

theorem visited_of_isScalar {settings : Settings} {path : Path} {tree : Tree}
    (scalar : tree.IsScalar) : settings.visited path tree = [] := by
  cases tree <;> first | rfl | cases scalar

/-- No entry is entered by both passes. -/
theorem entered_once (settings : Settings) (node : Mapping) (key : Key) (inner : List α) :
    ((if (settings.firstTarget? (settings.lockedBefore node key) key).isSome then inner else []) ++
      if settings.attempts (settings.lockedBy (fun _ => false) node) key then inner else []) =
      if settings.enters node key then inner else [] := by
  rw [enters]
  cases attempts : settings.attempts (settings.lockedBy (fun _ => false) node) key with
  | false => rw [Bool.or_false, if_neg Bool.false_ne_true, List.append_nil]
  | true =>
      rw [firstTarget?_of_decidesSecond (decidesSecond_of_attempts attempts), Option.isSome_none,
        if_neg Bool.false_ne_true, List.nil_append, Bool.false_or]

/-! ## The decisions for one mapping -/

/-- The entries that are kept, under their targets and in order, before aliases are
restored. -/
def assembled (settings : Settings) (entries : Mapping) : Mapping :=
  Entries.ofPairs (entries.filterMap fun entry =>
    (settings.target? entries entry.1).bind fun key =>
      (settings.resolve entry.2).toOption.map fun value => (key, value))

/-- The keys for which an alias is inserted, in order. -/
def restored (settings : Settings) (entries : Mapping) : List String :=
  (addAliases (settings.markedBy entries) (settings.assembled entries)).2

/-- The names of the entries that are not kept under any key. -/
def droppedNames (settings : Settings) (entries : Mapping) : List String :=
  entries.filterMap fun entry =>
    if (settings.target? entries entry.1).isNone then entry.1.name? else none

/-- What either pass decides about an entry. -/
def entryDecisions (settings : Settings) (path : Path) (entries : Mapping) (key : Key) :
    List Decision :=
  (settings.firstDecision? path (settings.lockedBefore entries key) key).toList ++
    (settings.secondDecision? path entries (settings.lockedBy (fun _ => false) entries) key).toList

/-- What is decided about a mapping at a path. -/
def decisionsAt (settings : Settings) (path : Path) (entries : Mapping) : List Decision :=
  (entries.flatMap fun entry => settings.entryDecisions path entries entry.1) ++
    (settings.restored entries).map (.aliased path)

theorem Chosen.assemble_eq {settings : Settings} {path : Path} {entries : Mapping}
    {early late : List (Option (Key × Tree))} (chosen : settings.Chosen path entries early late)
    (distinct : (Entries.keys entries).Nodup) :
    Walk.assemble early late = settings.assembled entries := by
  rw [Walk.assemble, assembled,
    filterMap_of_forall₂_keptUnder (chosen.forall₂_keptUnder distinct)]

end Settings

namespace Walk

variable {settings : Settings} {path : Path} {start last : Progress}

/-! ## Standing among the children of a node -/

/-- At the path exactly these keys are locked and marked, and the walk has not been below the
children that are ahead. -/
structure Visiting (path : Path) (ahead : Key → Prop) (locked : String → Bool)
    (marked : List String) (progress : Progress) : Prop where
  stands : Stands path locked marked progress
  fresh {key : Key} (isAhead : ahead key) : progress.FreshBelow (path.child key)

namespace Visiting

variable {ahead fewer : Key → Prop} {locked locked' : String → Bool}
  {marked marked' : List String}

theorem apart (visiting : Visiting path ahead locked marked start) : Apart path ahead start start :=
  ⟨⟨visiting.stands.sound, visiting.stands.sound⟩, fun _ => rfl, rfl, visiting.fresh⟩

theorem weaken (visiting : Visiting path ahead locked marked start)
    (smaller : ∀ key, fewer key → ahead key) : Visiting path fewer locked marked start :=
  ⟨visiting.stands, fun isAhead => visiting.fresh (smaller _ isAhead)⟩

/-- A step comes to what it comes to with all values resolved apart, and leaves the state
that this leaves. -/
theorem step {walk alone : Walk α} {result : Except InvalidPattern α} {value : α}
    (visiting : Visiting path ahead locked marked start)
    (agree : Agree (Apart path ahead) walk alone (Apart path fewer) Eq)
    (computes : Computes (Stands path locked marked) alone result (Stands path locked' marked'))
    (success : walk.outcome start = (.ok value, last)) :
    result = .ok value ∧ Visiting path fewer locked' marked' last := by
  rcases agree.success visiting.apart success with ⟨reached, found, apart⟩
  rcases computes start visiting.stands with ⟨same, stands⟩
  have there := stands value reached found
  rw [found] at same
  refine ⟨same.symm, ⟨apart.sound.1, ?_, ?_⟩, apart.fresh⟩
  · rw [← there.locked]
    exact funext apart.locked
  · rw [apart.marked, there.marked]

/-- Where nothing has been locked or marked all children are ahead. -/
theorem of_freshBelow (fresh : start.FreshBelow path) (ahead : Key → Prop) :
    Visiting path ahead (fun _ => false) [] start := by
  have unlocked := fresh.unlocked .root
  have unmarked := fresh.unmarked .root
  rw [Path.below_root] at unlocked unmarked
  refine ⟨⟨fresh.sound, funext unlocked, unmarked⟩, fun _ => ⟨fresh.sound, ?_, ?_⟩⟩
  · intro rest name
    rw [Path.child_eq_below, Path.below_below, fresh.unlocked]
  · intro rest
    rw [Path.child_eq_below, Path.below_below, fresh.unmarked]

end Visiting

/-! ## Accounts of the passes -/

section

variable {entries rest : Mapping} {inner : Key × Tree → List Decision}

/-- By induction over the steps.  The locks come from the entries before, so at each entry
they are those that its own decision goes by. -/
theorem accounts_firstPass (distinct : (Entries.keys entries).Nodup)
    (inside : ∀ entry ∈ entries,
      AccountsBelow (path.child entry.1) (resolveChild settings path entry) (inner entry))
    {before : Mapping} (split : entries = before ++ rest)
    (visiting : Visiting path (AheadOfFirst settings entries rest)
      (settings.lockedBy (fun _ => false) before) [] start)
    {early : List (Option (Key × Tree))}
    (steps : Steps (fun entry => firstEntry settings path entry.1
      (resolveChild settings path entry)) rest start early last) :
    settings.firstChoices path (settings.lockedBy (fun _ => false) before) rest = .ok early ∧
      Visiting path (AheadOfFirst settings entries [])
        (settings.lockedBy (fun _ => false) entries) [] last ∧
      Accounts start last (rest.flatMap fun entry =>
        (settings.firstDecision? path (settings.lockedBefore entries entry.1) entry.1).toList ++
          if (settings.firstTarget? (settings.lockedBefore entries entry.1) entry.1).isSome then
            inner entry
          else []) := by
  induction steps generalizing before with
  | nil progress =>
      rw [List.append_nil] at split
      subst split
      exact ⟨rfl, visiting, .refl progress⟩
  | @cons head tail start middle last kept early here others inductionHypothesis =>
      have suffix : head :: tail <:+ entries := ⟨before, split.symm⟩
      have member : head ∈ entries := suffix.subset List.mem_cons_self
      have lockedBefore : settings.lockedBefore entries head.1 =
          settings.lockedBy (fun _ => false) before := by
        rw [split] at distinct ⊢
        exact Settings.lockedBefore_eq distinct
      rcases visiting.step (firstEntry_apart settings path distinct suffix)
          (computes_firstApart settings path _ [] head) here with ⟨chosen, next⟩
      have splitNext : entries = (before ++ [head]) ++ tail := by
        rw [split, List.append_assoc, List.singleton_append]
      have lockedNext : settings.lockNext (settings.lockedBy (fun _ => false) before) head =
          settings.lockedBy (fun _ => false) (before ++ [head]) := by
        rw [Settings.lockedBy_append, Settings.lockedBy_cons, Settings.lockedBy_nil]
      rw [lockedNext] at next
      rcases inductionHypothesis splitNext next with ⟨later, standing, accounts⟩
      have fresh : settings.decidesFirst head.1 = true → start.FreshBelow (path.child head.1) := by
        intro decided
        apply visiting.fresh
        rw [AheadOfFirst, if_pos decided]
        exact List.mem_cons_self
      have entry := accounts_firstEntry visiting.stands.sound fresh (inside head member) here
      rw [visiting.stands.locked, ← lockedBefore] at entry
      refine ⟨?_, standing, entry.trans accounts⟩
      rw [Settings.firstChoices_cons_eq_ok_iff, lockedNext]
      exact ⟨kept, early, chosen, later, rfl⟩

/-- The locks stay as they are, and the marks are gathered on the way. -/
theorem accounts_secondPass (distinct : (Entries.keys entries).Nodup)
    (inside : ∀ entry ∈ entries,
      AccountsBelow (path.child entry.1) (resolveChild settings path entry) (inner entry))
    (suffix : rest <:+ entries) {locked : String → Bool} {marked : List String}
    (visiting : Visiting path (AheadOfSecond settings rest) locked marked start)
    {late : List (Option (Key × Tree))}
    (steps : Steps (fun entry => secondEntry settings path entries entry.1 entry.2
      (resolveChild settings path entry)) rest start late last) :
    rest.mapM (settings.secondChoice path entries locked) = .ok late ∧
      Visiting path (AheadOfSecond settings []) locked
        (addMarks marked (rest.filterMap (settings.markedTarget? entries locked))) last ∧
      Accounts start last (rest.flatMap fun entry =>
        (settings.secondDecision? path entries locked entry.1).toList ++
          if settings.attempts locked entry.1 then inner entry else []) := by
  induction steps generalizing marked with
  | nil progress => exact ⟨rfl, visiting, .refl progress⟩
  | @cons head tail start middle last kept late here others inductionHypothesis =>
      have member : head ∈ entries := suffix.subset List.mem_cons_self
      rcases visiting.step (secondEntry_apart settings path distinct suffix)
          (computes_secondApart settings path entries locked marked head) here with ⟨chosen, next⟩
      rcases inductionHypothesis ((List.suffix_cons head tail).trans suffix) next with
        ⟨later, standing, accounts⟩
      have fresh : settings.decidesSecond head.1 = true → start.FreshBelow (path.child head.1) := by
        intro decided
        apply visiting.fresh
        refine ⟨?_, List.mem_cons_self⟩
        rw [Bool.eq_false_iff]
        intro first
        rw [decidesSecond_of_decidesFirst first] at decided
        cases decided
      have keeps : Preserves (fun progress => progress.patterns.Sound)
          (resolveChild settings path head) := resolveTree_sound settings _ head.2
      have entry := accounts_secondEntry fresh keeps (inside head member) here
      rw [visiting.stands.locked] at entry
      refine ⟨?_, ?_, entry.trans accounts⟩
      · rw [List.mapM_cons, chosen, later]
        rfl
      · rw [addMarks_filterMap_cons]
        exact standing

/-- The decisions of two passes, and what is decided below, are put in another order. -/
theorem flatMap_append_append_perm (list : List α) (first inside second later : α → List β) :
    ((list.flatMap fun element => first element ++ inside element) ++
      list.flatMap fun element => second element ++ later element).Perm
      ((list.flatMap fun element => first element ++ second element) ++
        list.flatMap fun element => inside element ++ later element) := by
  have apart (f g : α → List β) := (List.flatMap_append_perm list f g).symm
  refine ((apart first inside).append (apart second later)).trans ?_
  refine .trans ?_ ((apart first second).append (apart inside later)).symm
  rw [List.append_assoc, List.append_assoc, ← List.append_assoc (list.flatMap inside),
    ← List.append_assoc (list.flatMap second)]
  exact (List.perm_append_comm.append_right _).append_left _

theorem accounts_resolveEntries (distinct : (Entries.keys entries).Nodup)
    (inside : ∀ entry ∈ entries,
      AccountsBelow (path.child entry.1) (resolveChild settings path entry) (inner entry)) :
    AccountsBelow path (resolveEntries settings path (resolveChild settings path) entries)
      (settings.decisionsAt path entries ++
        entries.flatMap fun entry =>
          if settings.enters entries entry.1 then inner entry else []) := by
  intro start last kept fresh success
  rcases outcome_bind_eq_ok success with ⟨early, middle, first, success⟩
  rcases outcome_bind_eq_ok success with ⟨late, after, second, restored⟩
  have enter : Visiting path (AheadOfFirst settings entries entries)
      (settings.lockedBy (fun _ => false) []) [] start := .of_freshBelow fresh _
  rcases accounts_firstPass distinct inside (List.nil_append entries).symm enter
      (steps_of_outcome_mapM first) with ⟨choices, between, firstAccounts⟩
  rcases accounts_secondPass distinct inside (List.suffix_refl entries)
      (between.weaken fun _ => aheadOfFirst_of_aheadOfSecond) (steps_of_outcome_mapM second) with
    ⟨choices', standing, secondAccounts⟩
  have chosen : settings.Chosen path entries early late := ⟨choices, choices'⟩
  have aliases := accounts_restoreAliases restored
  have marks : after.marks.keysAt path = settings.markedBy entries := standing.stands.marked
  rw [marks, chosen.assemble_eq distinct] at aliases
  have once : (fun entry : Key × Tree =>
      (if (settings.firstTarget? (settings.lockedBefore entries entry.1) entry.1).isSome then
        inner entry else []) ++
      if settings.attempts (settings.lockedBy (fun _ => false) entries) entry.1 then inner entry
      else []) = fun entry => if settings.enters entries entry.1 then inner entry else [] := by
    funext entry
    exact Settings.entered_once settings entries entry.1 (inner entry)
  refine ((firstAccounts.trans secondAccounts).trans aliases).perm ?_
  refine ((flatMap_append_append_perm entries _ _ _ _).append_right _).trans ?_
  rw [once, Settings.decisionsAt, List.append_assoc, List.append_assoc]
  exact List.perm_append_comm.append_left _

/-! ## Accounts of trees -/

theorem accounts_items {items rest : Mapping} (distinct : (Entries.keys items).Nodup)
    (inside : ∀ item ∈ items,
      AccountsBelow (path.child item.1) (resolveChild settings path item) (inner item))
    (suffix : rest <:+ items)
    (visiting : Visiting path (· ∈ Entries.keys rest) (fun _ => false) [] start)
    {values : List Tree} (steps : Steps (resolveChild settings path) rest start values last) :
    Accounts start last (rest.flatMap inner) := by
  induction steps with
  | nil progress => exact .refl progress
  | @cons head tail start middle last value values here others inductionHypothesis =>
      have smaller : ∀ key, key ∈ Entries.keys tail →
          key ∈ Entries.keys (head :: tail) ∧ key ≠ head.1 := by
        intro key later
        refine ⟨List.mem_cons_of_mem _ later, fun same => ?_⟩
        exact not_mem_keys_of_suffix distinct suffix (same ▸ later)
      have agree : Agree (Apart path (· ∈ Entries.keys (head :: tail)))
          (resolveChild settings path head) (ofExcept (settings.resolveApart path head))
          (Apart path (· ∈ Entries.keys tail)) Eq := resolveChild_apart List.mem_cons_self smaller
      have computes : Computes (Stands path (fun _ => false) [])
          (ofExcept (settings.resolveApart path head)) (settings.resolveApart path head)
          (Stands path (fun _ => false) []) := by
        intro progress stands
        refine ⟨rfl, fun _ _ found => ?_⟩
        exact (resolved_apart found).2 ▸ stands
      have next := (visiting.step agree computes here).2
      have accounts := inductionHypothesis ((List.suffix_cons head tail).trans suffix) next
      have entry := inside head (suffix.subset List.mem_cons_self)
        (visiting.fresh List.mem_cons_self) here
      exact entry.trans accounts

end

/-- A walk over a tree accounts for the decisions about all mappings that it visits. -/
theorem accounts_resolveTree {tree : Tree} (addressable : tree.Addressable) (settings : Settings)
    (path : Path) :
    AccountsBelow path (resolveTree settings path tree)
      ((settings.visited path tree).flatMap fun node => settings.decisionsAt node.1 node.2) := by
  induction addressable generalizing path with
  | @scalar tree isScalar =>
      intro start last value _ success
      rw [resolveTree_scalar settings path isScalar] at success
      cases success
      rw [Settings.visited_of_isScalar isScalar]
      exact .refl start
  | @sequence items short values inductionHypothesis =>
      intro start last value fresh success
      rcases resolveTree_sequence_success success with ⟨found, _, steps⟩
      have fits : 0 + items.length ≤ 2 ^ 64 := by omega
      have accounts := accounts_items (Tree.nodup_keys_positioned fits)
        (fun item member => inductionHypothesis item.2 (Tree.mem_of_mem_positioned member)
          (path.child item.1))
        (List.suffix_refl _) (.of_freshBelow fresh _) steps
      rw [Settings.visited, Settings.visitedItems_eq_flatMap, List.flatMap_assoc]
      exact accounts
  | @mapping entries distinct values inductionHypothesis =>
      intro start last value fresh success
      rcases resolveTree_mapping_success success with ⟨kept, _, passes⟩
      have accounts := accounts_resolveEntries distinct
        (fun entry member => inductionHypothesis entry member (path.child entry.1)) fresh passes
      rw [Settings.visited, Settings.visitedEntries_eq_flatMap, List.flatMap_cons,
        List.flatMap_assoc]
      have below : (fun entry : Key × Tree =>
          (if settings.enters entries entry.1 then settings.visited (path.child entry.1) entry.2
            else []).flatMap fun node => settings.decisionsAt node.1 node.2) =
          fun entry => if settings.enters entries entry.1 then
            (settings.visited (path.child entry.1) entry.2).flatMap fun node =>
              settings.decisionsAt node.1 node.2
            else [] := by
        funext entry
        split
        · rfl
        · rfl
      rw [below]
      exact accounts

/-! ## No lock is taken twice -/

/-- The cache is sound, and what is locked is listed once. -/
structure LocksOnce (progress : Progress) : Prop where
  sound : progress.patterns.Sound
  once : progress.locks.claimed.Nodup

theorem LocksOnce.idle {first last : Progress} (holds : LocksOnce first) (idle : first.Idle last) :
    LocksOnce last :=
  ⟨idle.patterns holds.sound, by rw [idle.locks]; exact holds.once⟩

theorem LocksOnce.invariant (settings : Settings) (path : Path) (entries : Mapping) :
    Invariant settings path entries LocksOnce where
  sound holds := holds.sound
  idle idle holds := holds.idle idle
  lock {progress} key holds := by
    refine ⟨holds.sound, ?_⟩
    dsimp only
    rw [Locks.lock]
    split
    case isTrue => exact holds.once
    case isFalse free =>
        rw [Locks.isLocked_eq_true_iff] at free
        exact List.nodup_cons.mpr ⟨free, holds.once⟩
  mark _ _ _ _ _ holds := ⟨holds.sound, holds.once⟩

theorem resolveTree_locksOnce (settings : Settings) (path : Path) (tree : Tree) :
    Preserves LocksOnce (resolveTree settings path tree) := by
  induction tree using Tree.induction generalizing path with
  | scalar tree scalar => exact preserves_scalar LocksOnce scalar
  | sequence items inductionHypothesis => exact preserves_sequence LocksOnce inductionHypothesis
  | mapping entries inductionHypothesis =>
      apply preserves_mapping LocksOnce (LocksOnce.invariant settings path entries)
      · exact id
      · exact fun holds => LocksOnce.idle ⟨holds.sound, holds.once⟩
      · exact fun entry _ => resolveTree_sound settings _ entry.2
      · exact fun entry member => inductionHypothesis entry member _

end Walk

/-! ## The entries that are dropped -/

section

variable {settings : Settings}

/-- Whether a name that is dropped is reported: it has no locale tag without a mark, or a
locale is given. -/
def Settings.reports (settings : Settings) (name : String) : Bool :=
  settings.locale.isSome || !settings.isLocale (.name name) || settings.marks (.name name)

theorem Settings.firstTarget?_of_no_locale (noLocale : settings.locale = none)
    (locked : String → Bool) (name : String) : settings.firstTarget? locked (.name name) = none := by
  have never (pattern : String) (marked : Bool) : settings.admits pattern marked = false := by
    simp [admits, noLocale]
  rw [firstTarget?]
  split
  case h_1 => rw [never, Bool.false_and, Bool.false_and, if_neg Bool.false_ne_true]
  case h_2 => rfl

theorem Settings.lockedBy_of_no_locale (noLocale : settings.locale = none) (locked : String → Bool)
    (entries : Mapping) : settings.lockedBy locked entries = locked := by
  induction entries with
  | nil => rfl
  | cons entry rest inductionHypothesis =>
      have here : settings.lockNext locked entry = locked := by
        rcases entry with ⟨name | position, value⟩
        · exact Walk.lockNext_of_passed (firstTarget?_of_no_locale noLocale locked name)
        · exact Walk.lockNext_of_index rfl
      rw [lockedBy_cons, here, inductionHypothesis]

/-- A locale entry is dropped when it is not selected. -/
theorem Settings.dropped_entryDecisions_of_locale (path : Path) (entries : Mapping)
    {name stripped base pattern : String} {marked : Bool}
    (tagged : Tag.ofKey settings.table name = .tagged ⟨stripped, marked, .locale base pattern⟩) :
    (settings.entryDecisions path entries (.name name)).filterMap Decision.dropped? =
      if (settings.target? entries (.name name)).isNone && settings.reports name then
        [(path, name)]
      else [] := by
  have decided : settings.decidesFirst (.name name) = true := by
    simp only [decidesFirst, tagged]
  have passes : settings.decidesSecond (.name name) = false :=
    Walk.decidesSecond_of_decidesFirst decided
  have later := secondTarget?_of_decidesFirst decided entries
    (settings.lockedBy (fun _ => false) entries)
  have silent : settings.dropsSilently (settings.lockedBefore entries (.name name)) name marked =
      !settings.reports name := by
    cases given : settings.locale with
    | none =>
        rw [lockedBefore, lockedBy_of_no_locale given]
        simp [dropsSilently, reports, given, isLocale, marks, tagged]
    | some locale => simp [dropsSilently, reports, given]
  rw [entryDecisions, target?, later, Option.map_none, Option.or_none]
  simp only [firstDecision?, secondDecision?, firstTarget?, tagged, passes, silent,
    Bool.false_and, Bool.false_eq_true, if_false, Option.toList_none, List.append_nil]
  cases settings.admits pattern marked && !settings.lockedBefore entries (.name name) name &&
      !settings.lockedBefore entries (.name name) base with
  | true => rfl
  | false => cases settings.reports name <;> rfl

/-- A plain or parameterized entry is dropped when it has no target. -/
theorem Settings.dropped_entryDecisions_of_decidesSecond (path : Path) (entries : Mapping)
    {name : String} (decided : settings.decidesSecond (.name name) = true) :
    (settings.entryDecisions path entries (.name name)).filterMap Decision.dropped? =
      if (settings.target? entries (.name name)).isNone && settings.reports name then
        [(path, name)]
      else [] := by
  have reported : settings.reports name = true := by
    rw [reports, isLocale_of_decidesSecond decided, Bool.not_false, Bool.or_true, Bool.true_or]
  have noTarget := firstTarget?_of_decidesSecond decided
    (settings.lockedBefore entries (.name name))
  have passes : settings.firstDecision? path (settings.lockedBefore entries (.name name))
      (.name name) = none := by
    rw [decidesSecond] at decided
    split at decided
    case h_1 read => simp only [firstDecision?, read]
    case h_2 read => simp only [firstDecision?, read]
    case h_3 => cases decided
  rw [entryDecisions, target?, noTarget, passes, secondDecision?, decided, reported,
    Option.none_or, Option.isNone_map, Option.toList_none, List.nil_append, Bool.true_and,
    Bool.and_true]
  cases (settings.secondTarget? entries (settings.lockedBy (fun _ => false) entries)
    (.name name)).isNone <;> rfl

/-- A name is reported as dropped, once, when it has no target and is not passed over
silently. -/
theorem Settings.dropped_entryDecisions (settings : Settings) (path : Path) (entries : Mapping)
    (name : String) :
    (settings.entryDecisions path entries (.name name)).filterMap Decision.dropped? =
      if (settings.target? entries (.name name)).isNone && settings.reports name then
        [(path, name)]
      else [] := by
  cases tagged : Tag.ofKey settings.table name with
  | comment =>
      simp [entryDecisions, firstDecision?, secondDecision?, decidesSecond, target?, firstTarget?,
        secondTarget?, reports, isLocale, tagged, Decision.dropped?]
  | tagged form =>
      rcases form with ⟨stripped, marked, _ | ⟨base, pattern⟩ | ⟨base, parameter, argument⟩⟩
      · apply dropped_entryDecisions_of_decidesSecond
        simp only [decidesSecond, tagged]
      · exact dropped_entryDecisions_of_locale path entries tagged
      · apply dropped_entryDecisions_of_decidesSecond
        simp only [decidesSecond, tagged]

/-- The names that are reported as dropped. -/
theorem Settings.dropped_decisionsAt (settings : Settings) (path : Path) (entries : Mapping) :
    (settings.decisionsAt path entries).filterMap Decision.dropped? =
      ((settings.droppedNames entries).filter settings.reports).map fun name => (path, name) := by
  have noAliases : ((settings.restored entries).map (Decision.aliased path)).filterMap
      Decision.dropped? = [] := by
    rw [List.filterMap_map, List.filterMap_eq_nil_iff]
    exact fun _ _ => rfl
  rw [decisionsAt, List.filterMap_append, noAliases, List.append_nil, List.filterMap_flatMap,
    droppedNames, List.filter_filterMap, List.map_filterMap, List.filterMap_eq_flatMap_toList]
  apply List.flatMap_congr
  intro entry _
  rcases entry with ⟨name | position, value⟩
  · rw [dropped_entryDecisions]
    cases (settings.target? entries (.name name)).isNone with
    | false => rfl
    | true =>
        cases reported : settings.reports name <;> simp [reported, Key.name?, Option.filter]
  · rfl

/-- The passes insert no alias. -/
theorem Settings.aliased_entryDecisions (settings : Settings) (path : Path) (entries : Mapping)
    (key : Key) : (settings.entryDecisions path entries key).filterMap Decision.aliased? = [] := by
  rcases key with name | position
  · have first (locked : String → Bool) :
        (settings.firstDecision? path locked (.name name)).toList.filterMap Decision.aliased? =
          [] := by
      rw [firstDecision?]
      split
      case h_1 => rfl
      case h_2 =>
          split
          case isTrue => rfl
          case isFalse => split <;> rfl
      case h_3 => rfl
    have second (locked : String → Bool) :
        (settings.secondDecision? path entries locked (.name name)).toList.filterMap
          Decision.aliased? = [] := by
      rw [secondDecision?]
      split <;> rfl
    rw [entryDecisions, List.filterMap_append, first, second, List.append_nil]
  · rfl

/-- Every alias that is inserted is reported once. -/
theorem Settings.aliased_decisionsAt (settings : Settings) (path : Path) (entries : Mapping) :
    (settings.decisionsAt path entries).filterMap Decision.aliased? =
      (settings.restored entries).map fun key => (path, key) := by
  have noEntries : (entries.flatMap fun entry =>
      settings.entryDecisions path entries entry.1).filterMap Decision.aliased? = [] := by
    rw [List.filterMap_flatMap, List.flatMap_eq_nil_iff]
    exact fun entry _ => settings.aliased_entryDecisions path entries entry.1
  have all : Decision.aliased? ∘ Decision.aliased path = fun key => some (path, key) := rfl
  rw [decisionsAt, List.filterMap_append, noEntries, List.nil_append, List.filterMap_map, all,
    List.filterMap_eq_map']

theorem Settings.isNone_target?_of_isLocale (noLocale : settings.locale = none) {name : String}
    (isLocale : settings.isLocale (.name name) = true) (entries : Mapping) :
    settings.target? entries (.name name) = none := by
  have passes : settings.secondTarget? entries (settings.lockedBy (fun _ => false) entries)
      (.name name) = none := by
    rw [Option.eq_none_iff_forall_ne_some]
    intro base target
    rw [isLocale_of_decidesSecond (decidesSecond_of_secondTarget? target)] at isLocale
    cases isLocale
  rw [target?, firstTarget?_of_no_locale noLocale, passes, Option.map_none, Option.or_none]

end

/-- The events of a walk that succeeds tell of its decisions and no others, each once.  Counted
over all the mappings that are visited, they report every name that is dropped, when a locale
is given; without one they report all but those that have a locale tag and no mark, and all of
these are dropped.  The bases that are selected are the keys that have been locked, and none
is selected twice at one path.  Every alias that is inserted is reported. -/
theorem Settings.trace_decisions {settings : Settings} {tree result : Tree} {last : Progress}
    (addressable : tree.Addressable)
    (success : (Walk.resolveTree settings .root tree).outcome .initial = (.ok result, last)) :
    let decisions := (settings.trace tree).2.filterMap Event.decision?
    let visited := settings.visited .root tree
    (settings.locale.isSome = true →
      (decisions.filterMap Decision.dropped?).Perm
        (visited.flatMap fun node =>
          (settings.droppedNames node.2).map fun name => (node.1, name))) ∧
    (settings.locale = none →
      (decisions.filterMap Decision.dropped?).Perm
        (visited.flatMap fun node =>
          ((settings.droppedNames node.2).filter fun name =>
            !(settings.isLocale (.name name) && !settings.marks (.name name))).map
              fun name => (node.1, name)) ∧
      ∀ node ∈ visited, ∀ name, .name name ∈ Entries.keys node.2 →
        settings.isLocale (.name name) = true → name ∈ settings.droppedNames node.2) ∧
    (decisions.filterMap Decision.selected?).Perm last.locks.claimed ∧
    (decisions.filterMap Decision.selected?).Nodup ∧
    (decisions.filterMap Decision.aliased?).Perm
      (visited.flatMap fun node => (settings.restored node.2).map fun key => (node.1, key)) ∧
    ∀ node ∈ visited, ∃ aliases : Mapping,
      Entries.keys aliases = (settings.restored node.2).map (fun key => .name (aliasOf key)) ∧
      (addAliases (settings.markedBy node.2) (settings.assembled node.2)).1 =
        aliases.foldl (fun entries entry => Entries.insert entry.1 entry.2 entries)
          (settings.assembled node.2) := by
  intro decisions visited
  have accounts := Walk.accounts_resolveTree addressable settings .root
    (Progress.freshBelow_initial .root) success
  rcases accounts.of_initial with ⟨events, locks⟩
  have once : last.locks.claimed.Nodup :=
    (Walk.resolveTree_locksOnce settings .root tree success
      ⟨Pattern.Cache.sound_empty, List.nodup_nil⟩).once
  have trace : (settings.trace tree).2 = last.events.reverse :=
    congrArg (fun outcome => outcome.2.events.reverse) success
  have made : decisions.Perm
      (visited.flatMap fun node => settings.decisionsAt node.1 node.2) := by
    have ordered : decisions = (last.events.filterMap Event.decision?).reverse := by
      rw [← List.filterMap_reverse, ← trace]
    rw [ordered]
    exact (List.reverse_perm _).trans events
  have dropped := made.filterMap Decision.dropped?
  have aliased := made.filterMap Decision.aliased?
  simp only [List.filterMap_flatMap, dropped_decisionsAt] at dropped
  simp only [List.filterMap_flatMap, aliased_decisionsAt] at aliased
  have selected : (decisions.filterMap Decision.selected?).Perm last.locks.claimed :=
    (made.filterMap Decision.selected?).trans locks.symm
  refine ⟨fun given => ?_, fun noLocale => ⟨?_, ?_⟩, selected, selected.nodup_iff.mpr once, aliased,
    fun node _ => addAliases_eq_inserts _ _⟩
  · have all : settings.reports = fun _ => true := by
      funext name
      rw [reports, given, Bool.true_or, Bool.true_or]
    simp only [all, List.filter_true] at dropped
    exact dropped
  · have others : settings.reports = fun name =>
        !(settings.isLocale (.name name) && !settings.marks (.name name)) := by
      funext name
      rw [reports, noLocale, Option.isSome_none, Bool.false_or, Bool.not_and, Bool.not_not]
    rw [others] at dropped
    exact dropped
  · intro node _ name member isLocale
    rcases List.mem_map.mp member with ⟨entry, listed, isName⟩
    refine List.mem_filterMap.mpr ⟨entry, listed, ?_⟩
    rw [isName, isNone_target?_of_isLocale noLocale isLocale]
    rfl

/-- A tree that is resolved leaves a state behind. -/
theorem Settings.exists_outcome_of_isOk {settings : Settings} {tree : Tree}
    (succeeds : (settings.resolve tree).isOk = true) :
    ∃ result last, (Walk.resolveTree settings .root tree).outcome .initial = (.ok result, last) := by
  rw [resolve_eq_outcome] at succeeds
  rcases success : (Walk.resolveTree settings .root tree).outcome .initial with
    ⟨error | result, last⟩
  · rw [success] at succeeds
    cases succeeds
  · exact ⟨result, last, rfl⟩

/-- A comment below an entry that is rejected afterwards is reported.  Without a locale the
translation is dropped silently. -/
theorem Settings.trace_decisions_rejected :
    let tree : Tree := .mapping [(.name "title@fr", .string "Bonjour"),
      (.name "title", .string "Hello"), (.name "tags@", .sequence [.string "a"]),
      (.name "body@env.dev", .mapping [(.name "note@#", .null)])]
    let table : Parameter.Table := ⟨[("env", some (.literal "prod"))]⟩
    let body := Path.root.child (.name "body@env.dev")
    let dropped (settings : Settings) :=
      ((settings.trace tree).2.filterMap Event.decision?).filterMap Decision.dropped?
    tree.Addressable ∧
      (∃ result last, (Walk.resolveTree ⟨some "fr", some table⟩ .root tree).outcome .initial =
          (.ok result, last) ∧
        (dropped ⟨some "fr", some table⟩).Perm
          [(.root, "title"), (.root, "body@env.dev"), (body, "note@#")]) ∧
      ∃ result last, (Walk.resolveTree ⟨none, some table⟩ .root tree).outcome .initial =
          (.ok result, last) ∧
        (dropped ⟨none, some table⟩).Perm [(.root, "body@env.dev"), (body, "note@#")] := by
  intro tree table body dropped
  have addressable : tree.Addressable := by
    refine .mapping (by decide) fun entry member => ?_
    simp only [List.mem_cons, List.not_mem_nil, or_false] at member
    rcases member with rfl | rfl | rfl | rfl
    · exact .scalar trivial
    · exact .scalar trivial
    · exact .sequence (by decide) fun item member => List.mem_singleton.mp member ▸ .scalar trivial
    · exact .mapping (by decide) fun entry member => List.mem_singleton.mp member ▸ .scalar trivial
  refine ⟨addressable, ?_, ?_⟩
  · have succeeds : (Settings.resolve ⟨some "fr", some table⟩ tree).isOk = true := by decide +kernel
    rcases Settings.exists_outcome_of_isOk succeeds with ⟨result, last, success⟩
    have reported := (Settings.trace_decisions addressable success).1 rfl
    have inside : ((Settings.visited ⟨some "fr", some table⟩ .root tree).flatMap fun node =>
        (Settings.droppedNames ⟨some "fr", some table⟩ node.2).map fun name =>
          (node.1, name)) = [(.root, "title"), (.root, "body@env.dev"), (body, "note@#")] := by
      decide +kernel
    exact ⟨result, last, success, inside ▸ reported⟩
  · have succeeds : (Settings.resolve ⟨none, some table⟩ tree).isOk = true := by decide +kernel
    rcases Settings.exists_outcome_of_isOk succeeds with ⟨result, last, success⟩
    have reported := ((Settings.trace_decisions addressable success).2.1 rfl).1
    have inside : ((Settings.visited ⟨none, some table⟩ .root tree).flatMap fun node =>
        ((Settings.droppedNames ⟨none, some table⟩ node.2).filter fun name =>
          !(Settings.isLocale ⟨none, some table⟩ (.name name) &&
            !Settings.marks ⟨none, some table⟩ (.name name))).map fun name => (node.1, name)) =
        [(.root, "body@env.dev"), (body, "note@#")] := by
      decide +kernel
    exact ⟨result, last, success, inside ▸ reported⟩

end Resolution
end TaggedContent
