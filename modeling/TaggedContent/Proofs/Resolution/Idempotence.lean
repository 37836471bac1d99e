import TaggedContent.Proofs.Path
import TaggedContent.Proofs.Resolution.NormalForm

namespace TaggedContent
namespace Resolution

/-!
# Normal trees are resolved to themselves

Under any settings the names of a normal mapping are plain, so nothing is locked and no
resolver is asked.  The second pass keeps the clean names as they are.  It reads an alias
as its name with a mark: this writes the sequence that the name has already, and marks
the name.  The aliases are thereby dropped, and restored from the marks in their order.
-/

namespace Walk

variable {settings : Settings} {path : Path}

/-- Nothing is locked, and nothing is marked at or below the path. -/
structure Ready (path : Path) (progress : Progress) : Prop where
  unlocked (other : Path) (key : String) : progress.locks.isLocked other key = false
  unmarked (rest : Path) : progress.marks.keysAt (path.below rest) = []

/-- The locks are those at the start, and so are the marks at all paths except for this
one, where these keys are marked. -/
structure Holds (path : Path) (marked : List String) (start progress : Progress) : Prop where
  locks : progress.locks = start.locks
  here : progress.marks.keysAt path = marked
  elsewhere {other : Path} (apart : other ≠ path) :
    progress.marks.keysAt other = start.marks.keysAt other

/-- The walk comes to this tree, with the locks and the marks of its start. -/
def Returns (walk : Walk Tree) (tree : Tree) (start : Progress) : Prop :=
  ∃ last, walk.outcome start = (.ok tree, last) ∧ last.locks = start.locks ∧
    ∀ other, last.marks.keysAt other = start.marks.keysAt other

variable {marked : List String} {start progress : Progress}

theorem Holds.ready_child (holds : Holds path marked start progress) (ready : Ready path start)
    (key : Key) : Ready (path.child key) progress where
  unlocked other name := by rw [holds.locks, ready.unlocked]
  unmarked rest := by
    rw [holds.elsewhere (Path.child_below_ne_self path rest key), Path.child_eq_below,
      Path.below_below, ready.unmarked]

theorem Holds.idle (holds : Holds path marked start progress) {last : Progress}
    (idle : progress.Idle last) : Holds path marked start last where
  locks := idle.locks.trans holds.locks
  here := idle.marks ▸ holds.here
  elsewhere apart := by rw [idle.marks, holds.elsewhere apart]

theorem Holds.trans (holds : Holds path marked start progress) {last : Progress}
    (locks : last.locks = progress.locks)
    (marks : ∀ other, last.marks.keysAt other = progress.marks.keysAt other) :
    Holds path marked start last where
  locks := locks.trans holds.locks
  here := (marks path).trans holds.here
  elsewhere apart := (marks _).trans (holds.elsewhere apart)

theorem Holds.unlocked (holds : Holds path marked start progress) (ready : Ready path start)
    (other : Path) (key : String) : progress.locks.isLocked other key = false := by
  rw [holds.locks, ready.unlocked]

theorem Holds.mark (holds : Holds path marked start progress) {key : String}
    (fresh : key ∉ marked) :
    Holds path (marked ++ [key]) start
      { progress with marks := progress.marks.mark path key } where
  locks := holds.locks
  here := by
    dsimp only
    rw [Marks.keysAt_mark, if_pos ⟨rfl, holds.here ▸ fresh⟩, holds.here]
  elsewhere apart := by
    dsimp only
    rw [Marks.keysAt_mark_of_ne _ apart.symm, holds.elsewhere apart]

theorem Holds.forget (holds : Holds path marked start progress) :
    Holds path [] start { progress with marks := progress.marks.forget path } where
  locks := holds.locks
  here := by
    dsimp only
    rw [Marks.keysAt_forget, if_pos rfl]
  elsewhere apart := by
    dsimp only
    rw [Marks.keysAt_forget_of_ne _ apart.symm, holds.elsewhere apart]

theorem Ready.holds (ready : Ready path start) : Holds path [] start start where
  locks := rfl
  here := by rw [← Path.below_root path, ready.unmarked]
  elsewhere _ := rfl

theorem Holds.returns (holds : Holds path [] start progress) (ready : Ready path start) :
    progress.locks = start.locks ∧
      ∀ other, progress.marks.keysAt other = start.marks.keysAt other := by
  refine ⟨holds.locks, fun other => ?_⟩
  by_cases here : other = path
  · rw [here, holds.here, ready.holds.here]
  · exact holds.elsewhere here

/-! ## Steps over plain names -/

theorem outcome_mayTake_of_unlocked {key base : String}
    (unlocked : ∀ other name, progress.locks.isLocked other name = false) :
    (mayTake path key base).outcome progress = (.ok true, progress) := by
  rw [mayTake, outcome_bind_of_ok (outcome_isLocked path key progress), unlocked,
    if_neg Bool.false_ne_true, outcome_bind_of_ok (outcome_isLocked path base progress), unlocked]
  rfl

theorem firstEntry_plain {name stripped : String} {isMarked : Bool}
    (plain : Tag.ofKey settings.table name = .tagged ⟨stripped, isMarked, .plain⟩)
    (below : Walk Tree) (progress : Progress) :
    ∃ last, (firstEntry settings path (.name name) below).outcome progress = (.ok none, last) ∧
      progress.Idle last := by
  rcases outcome_reportNearMiss settings name progress with ⟨last, reported, idle⟩
  refine ⟨last, ?_, idle⟩
  dsimp only [firstEntry]
  rw [outcome_bind_of_ok reported, plain]
  rfl

/-- A plain entry is kept with its value; if it has the mark and a sequence it is marked
as well. -/
theorem secondEntry_plain {name stripped : String} {isMarked : Bool}
    (plain : Tag.ofKey settings.table name = .tagged ⟨stripped, isMarked, .plain⟩)
    (ready : Ready path start) (holds : Holds path marked start progress) {node : Mapping}
    {value : Tree} {below : Walk Tree} (returns : Returns below value progress) :
    ∃ middle, Holds path marked start middle ∧
      (secondEntry settings path node (.name name) value below).outcome progress =
        (.ok (some (.name stripped, value)), if isMarked && value.isSequence then
          { middle with marks := middle.marks.mark path stripped } else middle) := by
  rcases returns with ⟨middle, returned, locks, marks⟩
  have taken : (mayTake path name stripped).outcome progress = (.ok true, progress) :=
    outcome_mayTake_of_unlocked (holds.unlocked ready)
  refine ⟨middle, holds.trans locks marks, ?_⟩
  dsimp only [secondEntry]
  rw [plain]
  dsimp only
  rw [outcome_bind_of_ok taken, if_pos rfl, outcome_bind_of_ok returned]
  cases extracted : isMarked && value.isSequence with
  | false =>
      simp only [markExtraction, extracted]
      rfl
  | true =>
      simp only [markExtraction, extracted]
      rfl

/-! ## The passes over a normal mapping -/

/-- What the first pass keeps of an entry with a clean key or an alias. -/
def firstOf (entry : Key × Tree) : Option (Key × Tree) :=
  match entry.1 with
  | .index _ => some entry
  | .name _ => none

/-- What the second pass keeps of an entry with a clean key. -/
def secondOf (entry : Key × Tree) : Option (Key × Tree) :=
  match entry.1 with
  | .index _ => none
  | .name _ => some entry

theorem zipWith_firstOf_secondOf (entries : Mapping) :
    List.zipWith Option.or (entries.map firstOf) (entries.map secondOf) = entries.map some := by
  induction entries with
  | nil => rfl
  | cons entry rest inductionHypothesis =>
      rw [List.map_cons, List.map_cons, List.zipWith_cons_cons, inductionHypothesis]
      rcases entry with ⟨name | position, value⟩ <;> rfl

theorem zipWith_none_or {early late : List (Option β)} (nothing : ∀ kept ∈ early, kept = none)
    (sameLength : early.length = late.length) : List.zipWith Option.or early late = late := by
  induction early generalizing late with
  | nil =>
      cases late with
      | nil => rfl
      | cons => cases sameLength
  | cons kept early inductionHypothesis =>
      cases late with
      | nil => cases sameLength
      | cons later late =>
          rw [List.zipWith_cons_cons, nothing kept List.mem_cons_self, Option.none_or,
            inductionHypothesis (fun other member => nothing other (List.mem_cons_of_mem _ member))
              (Nat.succ.inj sameLength)]

/-- Writing to names what they hold already leaves the clean entries as they are. -/
theorem assemble_normal {plain aliases : Mapping} {kept : List (Option (Key × Tree))}
    (distinct : (Entries.keys plain).Nodup) (names : ∀ entry ∈ aliases, firstOf entry = none)
    (sameLength : aliases.length = kept.length)
    (held : ∀ entry, some entry ∈ kept → Entries.get? plain entry.1 = some entry.2) :
    assemble ((plain ++ aliases).map firstOf) (plain.map secondOf ++ kept) = plain := by
  have nothing : ∀ found ∈ aliases.map firstOf, found = none := by
    intro found member
    rcases List.mem_map.mp member with ⟨entry, listed, same⟩
    exact same ▸ names entry listed
  have aliasPart : List.zipWith Option.or (aliases.map firstOf) kept = kept :=
    zipWith_none_or nothing (by rw [List.length_map, sameLength])
  have pairs : (List.zipWith Option.or ((plain ++ aliases).map firstOf)
      (plain.map secondOf ++ kept)).filterMap id = plain ++ kept.filterMap id := by
    rw [List.map_append, List.zipWith_append (by rw [List.length_map, List.length_map]),
      zipWith_firstOf_secondOf, aliasPart, List.filterMap_append, List.filterMap_map]
    exact congrArg (· ++ _) (List.filterMap_some)
  have first : plain.foldl (fun entries pair => Entries.insert pair.1 pair.2 entries) [] = plain :=
    Entries.ofPairs_of_nodup distinct
  rw [assemble, pairs, Entries.ofPairs, List.foldl_append, first]
  apply Entries.foldl_insert_of_get?
  intro entry member
  rcases List.mem_filterMap.mp member with ⟨found, listed, isEntry⟩
  exact held entry (isEntry ▸ listed)

/-- The names behind the aliases of a normal mapping. -/
theorem exists_names_of_aliased {plain aliases : Mapping}
    (distinct : (Entries.keys plain).Nodup)
    (aliased : ∀ entry ∈ aliases, ∃ name items, '@' ∉ name.toList ∧
      entry = (.name (aliasOf name), .sequence items) ∧ (.name name, .sequence items) ∈ plain) :
    ∃ names : List String, (∀ name ∈ names, '@' ∉ name.toList) ∧
      List.Forall₂ (fun name entry => alias? plain name = some entry) names aliases := by
  induction aliases with
  | nil => exact ⟨[], (fun _ member => nomatch member), .nil⟩
  | cons entry rest inductionHypothesis =>
      rcases aliased entry List.mem_cons_self with ⟨name, items, clean, same, member⟩
      rcases inductionHypothesis fun other listed => aliased other (List.mem_cons_of_mem _ listed) with
        ⟨names, cleanNames, found⟩
      have isAlias : alias? plain name = some entry :=
        alias?_eq_some_iff.mpr ⟨items, Entries.get?_of_mem distinct member, same⟩
      exact ⟨name :: names, List.forall_mem_cons.mpr ⟨clean, cleanNames⟩, .cons isAlias found⟩

theorem filterMap_alias? {plain aliases : Mapping} {names : List String}
    (found : List.Forall₂ (fun name entry => alias? plain name = some entry) names aliases) :
    names.filterMap (alias? plain) = aliases := by
  induction found with
  | nil => rfl
  | cons isAlias _ inductionHypothesis =>
      rw [List.filterMap_cons_some isAlias, inductionHypothesis]

theorem keys_of_aliased {plain aliases : Mapping} {names : List String}
    (found : List.Forall₂ (fun name entry => alias? plain name = some entry) names aliases) :
    Entries.keys aliases = names.map fun name => .name (aliasOf name) := by
  induction found with
  | nil => rfl
  | cons isAlias _ inductionHypothesis =>
      rcases alias?_eq_some_iff.mp isAlias with ⟨items, _, same⟩
      rw [Entries.keys_cons, List.map_cons, inductionHypothesis, same]

/-- All names of a normal mapping are read as plain ones. -/
theorem plain_of_aliased {plain aliases : Mapping} (settings : Settings)
    (clean : ∀ entry ∈ plain, entry.1.IsClean)
    (aliased : ∀ entry ∈ aliases, ∃ name items, '@' ∉ name.toList ∧
      entry = (.name (aliasOf name), .sequence items) ∧ (.name name, .sequence items) ∈ plain) :
    ∀ entry ∈ plain ++ aliases, ∀ name, entry.1 = .name name → ∃ stripped isMarked,
      Tag.ofKey settings.table name = .tagged ⟨stripped, isMarked, .plain⟩ := by
  intro entry member name isName
  rcases List.mem_append.mp member with isPlain | isAlias
  · have cleanKey := clean entry isPlain
    rw [isName] at cleanKey
    exact ⟨name, false, Tag.ofKey_of_clean settings.table cleanKey⟩
  · rcases aliased entry isAlias with ⟨behind, items, cleanName, same, _⟩
    rw [same] at isName
    exact ⟨behind, true, Key.name.inj isName ▸ Tag.ofKey_aliasOf settings.table cleanName⟩

/-- Every value of the node comes to itself when nothing is marked below it. -/
def ValuesReturn (settings : Settings) (path : Path) (entries : Mapping) : Prop :=
  ∀ entry ∈ entries, ∀ progress : Progress, Ready (path.child entry.1) progress →
    Returns (resolveChild settings path entry) entry.2 progress

theorem firstPass_normal {entries : Mapping} (ready : Ready path start)
    (plainNames : ∀ entry ∈ entries, ∀ name, entry.1 = .name name → ∃ stripped isMarked,
      Tag.ofKey settings.table name = .tagged ⟨stripped, isMarked, .plain⟩)
    (values : ValuesReturn settings path entries) :
    ∃ last, (entries.mapM fun entry =>
        firstEntry settings path entry.1 (resolveChild settings path entry)).outcome start =
          (.ok (entries.map firstOf), last) ∧ Holds path [] start last := by
  refine outcome_mapM_eq_map (fun entry member progress holds => ?_) ready.holds
  have value := values entry member progress (holds.ready_child ready entry.1)
  have named := plainNames entry member
  rcases entry with ⟨name | position, content⟩
  · rcases named name rfl with ⟨stripped, isMarked, plain⟩
    rcases firstEntry_plain plain (resolveChild settings path (.name name, content)) progress with
      ⟨last, passed, idle⟩
    exact ⟨last, passed, holds.idle idle⟩
  · rcases value with ⟨last, returned, locks, marks⟩
    exact ⟨last, outcome_bind_of_ok returned _, holds.trans locks marks⟩

theorem secondPass_clean {node entries : Mapping} (ready : Ready path start)
    (clean : ∀ entry ∈ entries, entry.1.IsClean) (values : ValuesReturn settings path entries)
    (holds : Holds path [] start progress) :
    ∃ last, (entries.mapM fun entry => secondEntry settings path node entry.1 entry.2
        (resolveChild settings path entry)).outcome progress =
          (.ok (entries.map secondOf), last) ∧ Holds path [] start last := by
  refine outcome_mapM_eq_map (fun entry member progress holds => ?_) holds
  have value := values entry member progress (holds.ready_child ready entry.1)
  have cleanKey := clean entry member
  rcases entry with ⟨name | position, content⟩
  · have plain := Tag.ofKey_of_clean settings.table cleanKey
    rcases secondEntry_plain plain ready holds value with ⟨middle, keeps, kept⟩
    exact ⟨middle, kept, keeps⟩
  · exact ⟨progress, rfl, holds⟩

/-- Every alias writes to its name what this holds, and marks it. -/
theorem secondPass_aliases {node plain aliases : Mapping} {names : List String}
    (found : List.Forall₂ (fun name entry => alias? plain name = some entry) names aliases)
    (cleanNames : ∀ name ∈ names, '@' ∉ name.toList) (ready : Ready path start)
    (values : ValuesReturn settings path aliases) (distinct : (marked ++ names).Nodup)
    (holds : Holds path marked start progress) :
    ∃ kept last, (aliases.mapM fun entry => secondEntry settings path node entry.1 entry.2
        (resolveChild settings path entry)).outcome progress = (.ok kept, last) ∧
      aliases.length = kept.length ∧
      (∀ entry, some entry ∈ kept → Entries.get? plain entry.1 = some entry.2) ∧
      Holds path (marked ++ names) start last := by
  induction found generalizing marked progress with
  | nil =>
      refine ⟨[], progress, rfl, rfl, (fun _ member => nomatch member), ?_⟩
      rwa [List.append_nil]
  | @cons name entry names aliases isAlias rest inductionHypothesis =>
      rcases alias?_eq_some_iff.mp isAlias with ⟨items, held, same⟩
      subst same
      rcases List.forall_mem_cons.mp cleanNames with ⟨clean, others⟩
      have plainMarked := Tag.ofKey_aliasOf settings.table clean
      have value := values _ List.mem_cons_self progress (holds.ready_child ready _)
      rcases secondEntry_plain plainMarked ready holds value with ⟨middle, keeps, kept⟩
      have fresh : name ∉ marked := by
        rw [List.nodup_append] at distinct
        intro member
        exact distinct.2.2 name member name List.mem_cons_self rfl
      have onward : (marked ++ [name] ++ names).Nodup := by
        rwa [List.append_assoc, List.singleton_append]
      rcases inductionHypothesis others
        (fun entry member => values entry (List.mem_cons_of_mem _ member)) onward
        (keeps.mark fresh) with ⟨later, last, walked, sameLength, heldLater, holdsLast⟩
      refine ⟨some (.name name, .sequence items) :: later, last, ?_, ?_, ?_, ?_⟩
      · rw [List.mapM_cons, outcome_bind_of_ok kept]
        exact outcome_bind_of_ok walked _
      · rw [List.length_cons, List.length_cons, sameLength]
      · intro entry member
        rcases List.mem_cons.mp member with here | there
        · cases here
          exact held
        · exact heldLater entry there
      · rwa [List.append_assoc, List.singleton_append] at holdsLast

/-- The passes over a normal mapping come to the mapping. -/
theorem resolveEntries_normal {plain aliases : Mapping} (ready : Ready path start)
    (distinct : (Entries.keys (plain ++ aliases)).Nodup)
    (clean : ∀ entry ∈ plain, entry.1.IsClean)
    (aliased : ∀ entry ∈ aliases, ∃ name items, '@' ∉ name.toList ∧
      entry = (.name (aliasOf name), .sequence items) ∧ (.name name, .sequence items) ∈ plain)
    (values : ValuesReturn settings path (plain ++ aliases)) :
    ∃ last, (resolveEntries settings path (resolveChild settings path)
        (plain ++ aliases)).outcome start = (.ok (plain ++ aliases), last) ∧
      Holds path [] start last := by
  have keysDistinct := distinct
  rw [Entries.keys_append, List.nodup_append] at keysDistinct
  rcases exists_names_of_aliased keysDistinct.1 aliased with ⟨names, cleanNames, found⟩
  have distinctNames : names.Nodup := by
    have distinctAliases := keysDistinct.2.1
    rw [keys_of_aliased found] at distinctAliases
    exact distinctAliases.of_map
  have plainNames := plain_of_aliased settings clean aliased
  have aliasNames : ∀ entry ∈ aliases, firstOf entry = none := by
    intro entry member
    rcases aliased entry member with ⟨name, items, _, same, _⟩
    rw [same]
    rfl
  rcases firstPass_normal ready plainNames values with ⟨middle, first, holdsMiddle⟩
  rcases secondPass_clean ready clean
    (fun entry member => values entry (List.mem_append_left _ member)) holdsMiddle with
    ⟨between, second, holdsBetween⟩
  have unmarkedNames : ([] ++ names).Nodup := distinctNames
  rcases secondPass_aliases found cleanNames ready
    (fun entry member => values entry (List.mem_append_right _ member)) unmarkedNames
    holdsBetween with ⟨kept, after, third, sameLength, held, holdsAfter⟩
  have assembled := assemble_normal keysDistinct.1 aliasNames sameLength held
  have restored : (addAliases names plain).1 = plain ++ aliases := by
    rw [addAliases_eq_foldl (isolated_of_clean cleanNames), filterMap_alias? found,
      Entries.foldl_insert_of_nodup _ _ distinct]
  rcases outcome_restoreAliases path plain after with ⟨last, final, idle⟩
  refine ⟨last, ?_, holdsAfter.forget.idle idle⟩
  have passed : ((plain ++ aliases).mapM fun entry => secondEntry settings path (plain ++ aliases)
      entry.1 entry.2 (resolveChild settings path entry)).outcome middle =
        (.ok (plain.map secondOf ++ kept), after) := by
    rw [List.mapM_append, outcome_bind_of_ok second, outcome_bind_of_ok third]
    rfl
  rw [resolveEntries, outcome_bind_of_ok first, outcome_bind_of_ok passed, assembled, final,
    holdsAfter.here, List.nil_append, restored]

theorem resolveTree_of_normal {tree : Tree} (normal : tree.Normal) (settings : Settings)
    (path : Path) (start : Progress) (ready : Ready path start) :
    Returns (resolveTree settings path tree) tree start := by
  induction normal generalizing path start with
  | scalar isScalar =>
      rw [resolveTree_scalar settings path isScalar]
      exact ⟨start, rfl, rfl, fun _ => rfl⟩
  | @sequence items values inductionHypothesis =>
      have each : ∀ entry ∈ Tree.positioned items 0, ∀ progress, Holds path [] start progress →
          ∃ last, (resolveChild settings path entry).outcome progress = (.ok entry.2, last) ∧
            Holds path [] start last := by
        intro entry member progress holds
        rcases inductionHypothesis entry.2 (Tree.mem_of_mem_positioned member) _ progress
          (holds.ready_child ready entry.1) with ⟨last, returned, locks, marks⟩
        exact ⟨last, returned, holds.trans locks marks⟩
      rcases outcome_mapM_eq_map each ready.holds with ⟨last, walked, holds⟩
      refine ⟨last, ?_, holds.returns ready⟩
      rw [resolveTree_sequence, outcome_map, walked, Tree.map_snd_positioned]
      rfl
  | @mapping plain aliases distinct clean aliased values inductionHypothesis =>
      have children : ValuesReturn settings path (plain ++ aliases) := by
        intro entry member progress readyChild
        rcases List.mem_append.mp member with isPlain | isAlias
        · exact inductionHypothesis entry isPlain _ progress readyChild
        · rcases aliased entry isAlias with ⟨name, items, _, same, isPlain⟩
          rw [resolveChild, same]
          rw [same] at readyChild
          exact inductionHypothesis _ isPlain _ progress readyChild
      rcases resolveEntries_normal ready distinct clean aliased children with ⟨last, walked, holds⟩
      refine ⟨last, ?_, holds.returns ready⟩
      rw [resolveTree_mapping, outcome_map, walked]
      rfl

end Walk

theorem Settings.resolve_of_normal (settings : Settings) {tree : Tree} (normal : tree.Normal) :
    settings.resolve tree = .ok tree := by
  have ready : Walk.Ready .root .initial :=
    ⟨fun path key => Locks.isLocked_empty path key, fun rest => Marks.keysAt_empty _⟩
  rcases Walk.resolveTree_of_normal normal settings .root .initial ready with ⟨last, returned, _⟩
  rw [Settings.resolve_eq_outcome, returned]

/-- Simple trees resolve to normal ones, and these are resolved to themselves under all
settings.  So a second resolution never fails and changes nothing. -/
theorem Settings.resolve_normal_form (settings : Settings) :
    (∀ tree result : Tree, tree.Simple → settings.resolve tree = .ok result → result.Normal) ∧
      (∀ result : Tree, result.Normal → ∀ other : Settings, other.resolve result = .ok result) ∧
      ∀ tree result : Tree, tree.Simple → settings.resolve tree = .ok result →
        ∀ other : Settings, other.resolve result = .ok result := by
  refine ⟨fun tree result simple success => ?_, fun result normal other => ?_,
    fun tree result simple success other => ?_⟩
  · exact Settings.resolve_normal simple success
  · exact other.resolve_of_normal normal
  · exact other.resolve_of_normal (Settings.resolve_normal simple success)

/-- A mapping with a marked sequence and a locale entry, resolved again without a locale. -/
theorem Settings.resolve_normal_form_extracted :
    let settings : Settings := ⟨some "fr", none⟩
    let tree : Tree := .mapping [(.name "tags@", .sequence [.string "a"]),
      (.name "title@fr", .string "Bonjour"), (.name "title", .string "Hello")]
    tree.Simple ∧ ∃ result : Tree, settings.resolve tree = .ok result ∧ result.Normal ∧
      Settings.resolve ⟨none, none⟩ result = .ok result := by
  intro settings tree
  have simple : tree.Simple := by
    apply Tree.Simple.mapping
    · intro name member
      simp only [Entries.keys_cons, Entries.keys_nil, List.mem_cons, Key.name.injEq,
        List.not_mem_nil, or_false] at member
      rcases member with same | same | same
      · exact same ▸ Or.inr ⟨"tags".toList, ['@'], by decide, Or.inr rfl, Or.inl (by decide)⟩
      · exact same ▸ Or.inr ⟨"title".toList, [], by decide, Or.inl rfl,
          Or.inr ⟨"fr".toList, by decide, by decide, by decide⟩⟩
      · exact same ▸ Or.inr ⟨"title".toList, [], by decide, Or.inl rfl, Or.inl (by decide)⟩
    · intro entry member
      simp only [List.mem_cons, List.not_mem_nil, or_false] at member
      rcases member with same | same | same
      · rw [same]
        apply Tree.Simple.sequence
        intro item listed
        rw [List.mem_singleton.mp listed]
        exact .scalar trivial
      · exact same ▸ .scalar trivial
      · exact same ▸ .scalar trivial
  have succeeds : (settings.resolve tree).isOk = true := by decide +kernel
  rcases success : settings.resolve tree with error | result
  · rw [success] at succeeds
    cases succeeds
  · have form := Settings.resolve_normal_form settings
    exact ⟨simple, result, rfl, form.1 tree result simple success,
      form.2.2 tree result simple success ⟨none, none⟩⟩

end Resolution
end TaggedContent
