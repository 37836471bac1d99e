import Mathlib.Data.List.Find
import TaggedContent.Proofs.Resolution.Failures
import TaggedContent.Proofs.Resolution.Placement
import TaggedContent.Proofs.Resolution.Reordering

namespace TaggedContent
namespace Resolution

/-!
# When an alias is due

In a mapping whose names have at most one tag each, a key gets an alias exactly when it is
not locked, a marked entry that was written as a sequence is kept under it, and it holds a
sequence in the end, whichever entry this has come from.  Locale entries have no part in
this: whether they are there or not, an alias that is due without them is at most kept
away by one that is selected.
-/

/-! ## Aliases of keys that are no aliases -/

/-- An alias that is not there yet is brought in when its key is listed and holds a
sequence. -/
theorem mem_keys_addAliases_iff {keys : List String} {entries : Mapping}
    (isolated : ∀ key ∈ keys, aliasOf key ∉ keys) {key : String}
    (fresh : .name (aliasOf key) ∉ Entries.keys entries) :
    .name (aliasOf key) ∈ Entries.keys (addAliases keys entries).1 ↔
      key ∈ keys ∧ ∃ items, Entries.get? entries (.name key) = some (.sequence items) := by
  constructor
  · intro member
    rcases (mem_keys_addAliases isolated member).resolve_left fresh with
      ⟨other, listed, items, same, held, _⟩
    have isKey : key = other := aliasOf_inj (Key.name.inj same)
    rw [isKey]
    exact ⟨listed, items, held⟩
  · rintro ⟨listed, items, held⟩
    have due : alias? entries key = some (.name (aliasOf key), .sequence items) :=
      alias?_eq_some_iff.mpr ⟨items, held, rfl⟩
    have inserted : Key.name (aliasOf key) ∈ Entries.keys (keys.filterMap (alias? entries)) :=
      Entries.mem_keys_of_mem (List.mem_filterMap.mpr ⟨key, listed, due⟩)
    rw [addAliases_eq_foldl isolated, Entries.keys_foldl_insert, List.mem_append,
      List.mem_eraseDups, List.mem_filter]
    right
    exact ⟨inserted, decide_eq_true fresh⟩

/-- It then holds what its key holds. -/
theorem get?_alias_of_mem {keys : List String} {entries : Mapping}
    (isolated : ∀ key ∈ keys, aliasOf key ∉ keys) {key : String}
    (fresh : .name (aliasOf key) ∉ Entries.keys entries)
    (member : .name (aliasOf key) ∈ Entries.keys (addAliases keys entries).1) :
    Entries.get? (addAliases keys entries).1 (.name (aliasOf key)) =
      Entries.get? entries (.name key) := by
  rcases (mem_keys_addAliases isolated member).resolve_left fresh with
    ⟨other, _, items, same, held, aliased⟩
  have isKey : key = other := aliasOf_inj (Key.name.inj same)
  rw [aliased, isKey, held]

section

variable {settings : Settings} {entries : Mapping} {locked : String → Bool} {key : String}

/-! ## Locks of simple keys -/

theorem SimpleKeys.tail {head : Key × Tree} {tail : Mapping} (simple : SimpleKeys (head :: tail)) :
    SimpleKeys tail :=
  fun name member => simple name (List.mem_cons_of_mem _ member)

theorem CleanLocks.lockedBy (clean : CleanLocks locked) (simple : SimpleKeys entries) :
    CleanLocks (settings.lockedBy locked entries) := by
  induction entries generalizing locked with
  | nil => exact clean
  | cons head tail inductionHypothesis =>
      exact inductionHypothesis (clean.lockNext simple List.mem_cons_self) simple.tail

theorem cleanLocks_none : CleanLocks fun _ => false :=
  fun _ impossible => nomatch impossible

/-- What is locked in the end are the keys that some entry claims. -/
theorem Settings.lockedBy_eq_any (clean : CleanLocks locked) (simple : SimpleKeys entries)
    (key : String) :
    settings.lockedBy locked entries key =
      (locked key || entries.any (settings.claims key)) := by
  induction entries generalizing locked with
  | nil => rw [lockedBy_nil, List.any_nil, Bool.or_false]
  | cons head tail inductionHypothesis =>
      have here : settings.lockNext locked head key = (locked key || settings.claims key head) := by
        have selected : settings.firstTarget? locked head.1 = some (.name key) ↔
            settings.claims key head = true ∧ locked key = false := firstTarget?_eq_some_iff clean
        rw [lockNext]
        cases free : locked key with
        | true => rw [Bool.true_or, Bool.true_or]
        | false =>
            rw [Bool.false_or, Bool.false_or, Bool.eq_iff_iff, beq_iff_eq, selected]
            exact and_iff_left free
      rw [lockedBy_cons, inductionHypothesis (clean.lockNext simple List.mem_cons_self) simple.tail,
        here, List.any_cons, Bool.or_assoc]

/-! ## Targets of simple keys -/

theorem Settings.decidesSecond_of_takes {node : Mapping} {entry : Key × Tree}
    (takes : settings.takes node key entry = true) : settings.decidesSecond entry.1 = true := by
  rcases entry with ⟨name | position, value⟩
  · rw [Settings.takes] at takes
    dsimp only at takes
    split at takes
    case h_1 read => simp only [decidesSecond, read]
    case h_2 read => simp only [decidesSecond, read]
    case h_3 => cases takes
  · cases takes

theorem Settings.isLocale_of_decidesSecond {key : Key}
    (decided : settings.decidesSecond key = true) : settings.isLocale key = false := by
  rcases key with name | position
  · rw [decidesSecond] at decided
    split at decided
    case h_1 read => simp only [isLocale, read]
    case h_2 read => simp only [isLocale, read]
    case h_3 => cases decided
  · rfl

/-- An entry that is selected locks its key. -/
theorem Settings.locked_of_firstTarget? (distinct : (Entries.keys entries).Nodup)
    {entry : Key × Tree} (member : entry ∈ entries)
    (target : settings.firstTarget? (settings.lockedBefore entries entry.1) entry.1 =
      some (.name key)) :
    settings.lockedBy (fun _ => false) entries key = true := by
  rcases List.append_of_mem member with ⟨before, after, split⟩
  subst split
  rw [lockedBefore_eq distinct] at target
  exact Selects.locked ⟨before, after, rfl, target⟩

/-- A key that is not locked is the target of the entries that take it. -/
theorem Settings.target?_eq_some_iff_takes (distinct : (Entries.keys entries).Nodup)
    (simple : SimpleKeys entries) (free : settings.lockedBy (fun _ => false) entries key = false)
    {entry : Key × Tree} (member : entry ∈ entries) :
    settings.target? entries entry.1 = some (.name key) ↔
      settings.takes entries key entry = true := by
  have clean : CleanLocks (settings.lockedBy (fun _ => false) entries) :=
    cleanLocks_none.lockedBy simple
  have taken : settings.secondTarget? entries (settings.lockedBy (fun _ => false) entries) entry.1 =
      some key ↔ settings.takes entries key entry = true := by
    rw [secondTarget?_eq_some_iff clean]
    exact and_iff_left free
  rw [← taken, target?, Option.or_eq_some_iff]
  constructor
  · rintro (first | ⟨_, second⟩)
    · rw [locked_of_firstTarget? distinct member first] at free
      cases free
    · rcases Option.map_eq_some_iff.mp second with ⟨name, target, same⟩
      cases same
      exact target
  · intro target
    have first := firstTarget?_of_decidesSecond (decidesSecond_of_secondTarget? target)
      (settings.lockedBefore entries entry.1)
    right
    exact ⟨first, Option.map_eq_some_iff.mpr ⟨key, target, rfl⟩⟩

theorem Settings.base?_of_target? {target : Key} {base : String}
    (isTarget : settings.target? entries target = some (.name base)) :
    settings.base? target = some base := by
  rw [target?, Option.or_eq_some_iff] at isTarget
  rcases isTarget with first | ⟨_, second⟩
  · exact base?_of_firstTarget? first
  · rcases Option.map_eq_some_iff.mp second with ⟨name, taken, same⟩
    cases same
    exact base?_of_secondTarget? taken

/-! ## Entries that cause an alias -/

/-- A plain or parameterized entry is kept under the key that is marked and was written as
a sequence. -/
def Settings.Extracted (settings : Settings) (entries : Mapping) (key : String) : Prop :=
  ∃ entry ∈ entries, settings.decidesSecond entry.1 = true ∧ settings.marks entry.1 = true ∧
    entry.2.isSequence = true ∧ settings.target? entries entry.1 = some (.name key)

theorem Settings.secondTarget?_of_marks {marked : Key} (isMarked : settings.marks marked = true)
    (target : settings.target? entries marked = some (.name key)) :
    settings.secondTarget? entries (settings.lockedBy (fun _ => false) entries) marked =
      some key := by
  rw [target?, firstTarget?_of_marks isMarked, Option.none_or] at target
  rcases Option.map_eq_some_iff.mp target with ⟨name, taken, same⟩
  cases same
  exact taken

theorem Settings.mem_markedBy_iff :
    key ∈ settings.markedBy entries ↔ settings.Extracted entries key := by
  rw [markedBy_eq_eraseDups, List.mem_eraseDups, List.mem_filterMap]
  constructor
  · rintro ⟨entry, member, marked⟩
    split at marked
    case isFalse => cases marked
    case isTrue extracted =>
        rw [Bool.and_eq_true] at extracted
        rcases Option.bind_eq_some_iff.mp marked with ⟨name | position, target, same⟩
        · cases same
          have taken := secondTarget?_of_marks extracted.1 target
          exact ⟨entry, member, decidesSecond_of_secondTarget? taken, extracted.1, extracted.2,
            target⟩
        · cases same
  · rintro ⟨entry, member, _, isMarked, isSequence, target⟩
    refine ⟨entry, member, ?_⟩
    rw [isMarked, isSequence, target]
    rfl

theorem Settings.Extracted.free (extracted : settings.Extracted entries key) :
    settings.lockedBy (fun _ => false) entries key = false := by
  rcases extracted with ⟨entry, _, _, isMarked, _, target⟩
  exact unlocked_of_secondTarget? (secondTarget?_of_marks isMarked target)

theorem Settings.Extracted.clean (extracted : settings.Extracted entries key)
    (simple : SimpleKeys entries) : '@' ∉ key.toList := by
  rcases extracted with ⟨entry, member, _, _, _, target⟩
  exact simple.base_clean member (base?_of_target? target)

section

variable {path : Path} {early late : List (Option (Key × Tree))}

theorem Settings.isolated_markedBy (simple : SimpleKeys entries) :
    ∀ key ∈ settings.markedBy entries, aliasOf key ∉ settings.markedBy entries :=
  isolated_of_clean fun _ marked => (mem_markedBy_iff.mp marked).clean simple

/-- Restoring aliases leaves the keys without `@` as they are. -/
theorem Settings.get?_restored_of_clean (simple : SimpleKeys entries) (assembled : Mapping)
    (clean : '@' ∉ key.toList) :
    Entries.get? (addAliases (settings.markedBy entries) assembled).1 (.name key) =
      Entries.get? assembled (.name key) := by
  apply get?_addAliases_of_ne (isolated_markedBy simple)
  intro other _ same
  rw [Key.name.inj same] at clean
  exact clean (mem_toList_aliasOf other)

/-- The passes keep nothing under an alias. -/
theorem Settings.Chosen.not_mem_alias (chosen : settings.Chosen path entries early late)
    (distinct : (Entries.keys entries).Nodup) (simple : SimpleKeys entries) (key : String) :
    .name (aliasOf key) ∉ Entries.keys (Walk.assemble early late) := by
  intro member
  rw [chosen.keys_assemble distinct, List.mem_eraseDups, List.mem_filterMap] at member
  rcases member with ⟨entry, listed, target⟩
  exact simple.base_clean listed (base?_of_target? target) (mem_toList_aliasOf key)

/-- An alias comes from the marks alone, and its key has to hold a sequence. -/
theorem Settings.Chosen.mem_alias_iff (chosen : settings.Chosen path entries early late)
    (distinct : (Entries.keys entries).Nodup) (simple : SimpleKeys entries) :
    .name (aliasOf key) ∈ Entries.keys
        (addAliases (settings.markedBy entries) (Walk.assemble early late)).1 ↔
      settings.Extracted entries key ∧ ∃ items,
        Entries.get? (Walk.assemble early late) (.name key) = some (.sequence items) := by
  rw [mem_keys_addAliases_iff (isolated_markedBy simple) (chosen.not_mem_alias distinct simple key),
    mem_markedBy_iff]

/-! ## Locale entries left out -/

/-- The field that a resolver asks for is no locale entry. -/
theorem Settings.accepts_filter {stays : Key → Bool}
    (others : ∀ key, settings.isLocale key = false → stays key = true) (entries : Mapping)
    (base parameter : String) {argument : String} (clean : '@' ∉ argument.toList) :
    settings.accepts (entries.filter fun entry => stays entry.1) base parameter argument =
      settings.accepts entries base parameter argument := by
  have plain : settings.isLocale (.name argument) = false := by
    simp only [isLocale, Tag.ofKey_of_clean settings.table clean]
  have sameField : Entries.get? (entries.filter fun entry => stays entry.1) (.name argument) =
      Entries.get? entries (.name argument) := by
    rw [Entries.get?_filter, others _ plain, if_pos rfl]
  unfold accepts
  cases settings.resolver? parameter with
  | none => rfl
  | some resolver =>
      dsimp only
      rw [resolver.verdict_congr ⟨entries, base, parameter, argument, .null, settings.locale⟩ _
        .null (congrArg (·.bind Parameter.patternText?) sameField)]

theorem Settings.takes_filter {stays : Key → Bool}
    (others : ∀ key, settings.isLocale key = false → stays key = true) (entries : Mapping)
    (key : String) (entry : Key × Tree) :
    settings.takes (entries.filter fun entry => stays entry.1) key entry =
      settings.takes entries key entry := by
  rcases entry with ⟨name | position, value⟩
  · unfold takes
    dsimp only
    cases read : Tag.ofKey settings.table name with
    | comment => rfl
    | tagged tagged =>
        rcases tagged with ⟨stripped, marked, _ | _ | ⟨base, parameter, argument⟩⟩
        · rfl
        · rfl
        · dsimp only
          rw [accepts_filter others entries base parameter (Tag.not_mem_argument read)]
  · rfl

theorem SimpleKeys.filter (simple : SimpleKeys entries) (stays : Key → Bool) :
    SimpleKeys (entries.filter fun entry => stays entry.1) := by
  intro name member
  have within := (List.filter_sublist (p := fun entry : Key × Tree => stays entry.1)
    (l := entries)).map Prod.fst
  exact simple name (within.subset member)

theorem nodup_keys_filter (distinct : (Entries.keys entries).Nodup) (stays : Key → Bool) :
    (Entries.keys (entries.filter fun entry => stays entry.1)).Nodup :=
  distinct.sublist (List.filter_sublist.map Prod.fst)

section

variable {stays : Key → Bool}

theorem Settings.lockedBy_filter (simple : SimpleKeys entries)
    (free : settings.lockedBy (fun _ => false) entries key = false) (stays : Key → Bool) :
    settings.lockedBy (fun _ => false) (entries.filter fun entry => stays entry.1) key = false := by
  rw [lockedBy_eq_any cleanLocks_none simple, Bool.false_or, List.any_eq_false] at free
  rw [lockedBy_eq_any cleanLocks_none (simple.filter stays), Bool.false_or, List.any_eq_false]
  intro entry member
  exact free entry (List.mem_of_mem_filter member)

/-- Entries without a locale tag keep a target that is not locked. -/
theorem Settings.target?_filter (others : ∀ key, settings.isLocale key = false → stays key = true)
    (distinct : (Entries.keys entries).Nodup) (simple : SimpleKeys entries)
    (free : settings.lockedBy (fun _ => false) entries key = false) {entry : Key × Tree}
    (member : entry ∈ entries) :
    (stays entry.1 = true ∧
      settings.target? (entries.filter fun entry => stays entry.1) entry.1 = some (.name key)) ↔
      settings.target? entries entry.1 = some (.name key) := by
  rw [target?_eq_some_iff_takes distinct simple free member]
  constructor
  · rintro ⟨stay, target⟩
    have still : entry ∈ entries.filter fun entry => stays entry.1 :=
      List.mem_filter.mpr ⟨member, stay⟩
    rw [target?_eq_some_iff_takes (nodup_keys_filter distinct stays) (simple.filter stays)
      (lockedBy_filter simple free stays) still, takes_filter others] at target
    exact target
  · intro takes
    have stay := others entry.1 (isLocale_of_decidesSecond (decidesSecond_of_takes takes))
    have still : entry ∈ entries.filter fun entry => stays entry.1 :=
      List.mem_filter.mpr ⟨member, stay⟩
    rw [target?_eq_some_iff_takes (nodup_keys_filter distinct stays) (simple.filter stays)
      (lockedBy_filter simple free stays) still, takes_filter others]
    exact ⟨stay, takes⟩

theorem Settings.Extracted.filter
    (others : ∀ key, settings.isLocale key = false → stays key = true)
    (distinct : (Entries.keys entries).Nodup) (simple : SimpleKeys entries)
    (extracted : settings.Extracted entries key) :
    settings.Extracted (entries.filter fun entry => stays entry.1) key := by
  have free := extracted.free
  rcases extracted with ⟨entry, member, decided, isMarked, isSequence, target⟩
  rcases (target?_filter others distinct simple free member).mpr target with ⟨stay, still⟩
  exact ⟨entry, List.mem_filter.mpr ⟨member, stay⟩, decided, isMarked, isSequence, still⟩

/-- A key that is not locked gets its value from the same entry. -/
theorem Settings.find?_target?_filter
    (others : ∀ key, settings.isLocale key = false → stays key = true)
    (distinct : (Entries.keys entries).Nodup) (simple : SimpleKeys entries)
    (free : settings.lockedBy (fun _ => false) entries key = false) :
    ((entries.filter fun entry => stays entry.1).reverse.find? fun entry =>
        settings.target? (entries.filter fun entry => stays entry.1) entry.1 == some (.name key)) =
      entries.reverse.find? fun entry => settings.target? entries entry.1 == some (.name key) := by
  rw [← List.filter_reverse, List.find?_filter]
  apply List.find?_congr
  intro entry member
  rw [Bool.eq_iff_iff, decide_eq_true_iff, beq_iff_eq, beq_iff_eq]
  exact target?_filter others distinct simple free (List.mem_reverse.mp member)

end

end

/-- An alias that is there is there without some of the locale entries as well. -/
theorem Settings.alias_of_fewer {stays : Key → Bool}
    (others : ∀ key, settings.isLocale key = false → stays key = true)
    (distinct : (Entries.keys entries).Nodup) (simple : SimpleKeys entries) {kept fewer : Mapping}
    (success : settings.resolve (.mapping entries) = .ok (.mapping kept))
    (success' : settings.resolve (.mapping (entries.filter fun entry => stays entry.1)) =
      .ok (.mapping fewer)) (aliased : .name (aliasOf key) ∈ Entries.keys kept) :
    .name (aliasOf key) ∈ Entries.keys fewer := by
  have distinct' := nodup_keys_filter distinct stays
  have simple' := simple.filter stays
  rcases exists_chosen distinct success with ⟨early, late, chosen, same⟩
  rcases exists_chosen distinct' success' with ⟨early', late', chosen', same'⟩
  rw [Tree.mapping.inj same, chosen.mem_alias_iff distinct simple] at aliased
  rcases aliased with ⟨extracted, items, held⟩
  rw [Tree.mapping.inj same', chosen'.mem_alias_iff distinct' simple']
  refine ⟨extracted.filter others distinct simple, items, ?_⟩
  have value := chosen.get?_assemble_target distinct (.name key)
  have value' := chosen'.get?_assemble_target distinct' (.name key)
  rw [find?_target?_filter others distinct simple extracted.free, ← value, held] at value'
  exact Option.map_injective (fun _ _ => Except.ok.inj) value'

end

/-- For a key without `@` in a mapping with simple keys there is an alias exactly when no
locale entry is selected for the key, a marked plain or parameterized entry that was written
as a sequence is kept under it, and the key holds a sequence in the end; the alias then
holds the same.  Leaving out locale entries, selected or not, never takes an alias away. -/
theorem Settings.resolve_mapping_aliases {settings : Settings} {entries : Mapping}
    (distinct : (Entries.keys entries).Nodup) (simple : SimpleKeys entries) {result : Tree}
    (success : settings.resolve (.mapping entries) = .ok result) :
    ∃ kept : Mapping, result = .mapping kept ∧
      ∀ key : String, '@' ∉ key.toList →
        (.name (aliasOf key) ∈ Entries.keys kept ↔
          (∀ entry, ¬ settings.Selects entries entry key) ∧
          (∃ entry ∈ entries, settings.decidesSecond entry.1 = true ∧
            settings.marks entry.1 = true ∧ entry.2.isSequence = true ∧
            settings.target? entries entry.1 = some (.name key)) ∧
          ∃ items, Entries.get? kept (.name key) = some (.sequence items)) ∧
        (.name (aliasOf key) ∈ Entries.keys kept →
          Entries.get? kept (.name (aliasOf key)) = Entries.get? kept (.name key)) ∧
        ∀ (stays : Key → Bool) (fewer : Mapping),
          (∀ other, settings.isLocale other = false → stays other = true) →
          settings.resolve (.mapping (entries.filter fun entry => stays entry.1)) =
            .ok (.mapping fewer) →
          .name (aliasOf key) ∈ Entries.keys kept → .name (aliasOf key) ∈ Entries.keys fewer := by
  rcases exists_chosen distinct success with ⟨early, late, chosen, same⟩
  refine ⟨_, same, fun key clean => ⟨?_, fun aliased => ?_, ?_⟩⟩
  · rw [get?_restored_of_clean simple _ clean, chosen.mem_alias_iff distinct simple]
    constructor
    · rintro ⟨extracted, held⟩
      refine ⟨fun entry selected => ?_, extracted, held⟩
      have free := extracted.free
      rw [selected.locked] at free
      cases free
    · rintro ⟨_, extracted, held⟩
      exact ⟨extracted, held⟩
  · rw [get?_restored_of_clean simple _ clean]
    exact get?_alias_of_mem (isolated_markedBy simple) (chosen.not_mem_alias distinct simple key)
      aliased
  · intro stays fewer others success' aliased
    exact alias_of_fewer others distinct simple (same ▸ success) success' aliased

/-- Of two marked keys with sequences one has a translation that does not apply, and the
other one that does. -/
theorem Settings.resolve_mapping_aliases_translated :
    let settings : Settings := ⟨some "fr", none⟩
    let translated : Key × Tree := (.name "names@fr", .sequence [.string "d"])
    let entries : Mapping := [(.name "tags@", .sequence [.string "a"]),
      (.name "tags@nl", .sequence [.string "b"]), (.name "names@", .sequence [.string "c"]),
      translated]
    let stays : Key → Bool := fun other => other ≠ .name "tags@nl"
    (Entries.keys entries).Nodup ∧ SimpleKeys entries ∧
      (∀ other, settings.isLocale other = false → stays other = true) ∧
      ∃ kept fewer : Mapping, settings.resolve (.mapping entries) = .ok (.mapping kept) ∧
        settings.resolve (.mapping (entries.filter fun entry => stays entry.1)) =
          .ok (.mapping fewer) ∧
        .name (aliasOf "tags") ∈ Entries.keys kept ∧
        (∀ entry, ¬ settings.Selects entries entry "tags") ∧
        (∃ items, Entries.get? kept (.name "tags") = some (.sequence items)) ∧
        Entries.get? kept (.name (aliasOf "tags")) = Entries.get? kept (.name "tags") ∧
        .name (aliasOf "tags") ∈ Entries.keys fewer ∧
        .name (aliasOf "names") ∉ Entries.keys kept := by
  intro settings translated entries stays
  have distinct : (Entries.keys entries).Nodup := by decide
  have simple : SimpleKeys entries := by
    intro name member
    simp only [entries, translated, Entries.keys_cons, Entries.keys_nil, List.mem_cons,
      Key.name.injEq, List.not_mem_nil, or_false] at member
    rcases member with same | same | same | same
    · exact same ▸ Or.inr ⟨"tags".toList, ['@'], by decide, Or.inr rfl, Or.inl (by decide)⟩
    · exact same ▸ Or.inr ⟨"tags".toList, [], by decide, Or.inl rfl,
        Or.inr ⟨"nl".toList, by decide, by decide, by decide⟩⟩
    · exact same ▸ Or.inr ⟨"names".toList, ['@'], by decide, Or.inr rfl, Or.inl (by decide)⟩
    · exact same ▸ Or.inr ⟨"names".toList, [], by decide, Or.inl rfl,
        Or.inr ⟨"fr".toList, by decide, by decide, by decide⟩⟩
  have others : ∀ other, settings.isLocale other = false → stays other = true := by
    intro other notLocale
    apply decide_eq_true
    rintro rfl
    exact absurd notLocale (by decide)
  have selected : settings.Selects entries translated "names" :=
    ⟨entries.take 3, [], rfl, by decide +kernel⟩
  have aliased : ((settings.resolve (.mapping entries)).toOption.bind
      (·.get? (aliasOf "tags"))).isSome = true := by decide +kernel
  have succeeds : ((settings.resolve (.mapping (entries.filter fun entry =>
      stays entry.1))).toOption.bind Tree.mapping?).isSome = true := by decide +kernel
  rcases success : settings.resolve (.mapping entries) with error | result
  · rw [success] at aliased
    cases aliased
  · rcases success' : settings.resolve (.mapping (entries.filter fun entry => stays entry.1)) with
      error | result'
    · rw [success'] at succeeds
      cases succeeds
    · rw [success] at aliased
      rw [success'] at succeeds
      rcases Option.isSome_iff_exists.mp succeeds with ⟨fewer, isFewer⟩
      rcases Settings.resolve_mapping_aliases distinct simple success with ⟨kept, same, aliases⟩
      subst same
      cases result' with
      | mapping entries' =>
          cases isFewer
          rcases Option.isSome_iff_exists.mp aliased with ⟨value, held⟩
          have member : .name (aliasOf "tags") ∈ Entries.keys kept :=
            Entries.mem_keys_of_mem (Entries.mem_of_get? held)
          rcases aliases "tags" (by decide) with ⟨due, alike, fewerAliases⟩
          rcases due.mp member with ⟨free, _, isSequence⟩
          refine ⟨distinct, simple, others, kept, fewer, rfl, rfl, member, free, isSequence,
            alike member, fewerAliases stays fewer others success' member, fun there => ?_⟩
          exact ((aliases "names" (by decide)).1.mp there).1 translated selected
      | _ => cases isFewer

end Resolution
end TaggedContent
