import TaggedContent.Proofs.Resolution.Aliases
import TaggedContent.Proofs.Resolution.Chosen
import TaggedContent.Proofs.Tag.Grammar

namespace TaggedContent
namespace Resolution

/-!
# What becomes of a locked key

A locale entry that is selected locks its base, and no entry after it can take this key:
neither pass keeps anything else under it.  Only the aliases are restored without regard
to locks.  The locked key keeps the value of the selected entry unless it is the alias of
a key that a marked parameterized sibling takes with a sequence.
-/

/-- The entry is selected for the key: it is a locale entry for it that applies, and the
entries before it have locked neither its name nor the key. -/
def Settings.Selects (settings : Settings) (entries : Mapping) (entry : Key × Tree)
    (base : String) : Prop :=
  ∃ before after, entries = before ++ entry :: after ∧
    settings.firstTarget? (settings.lockedBy (fun _ => false) before) entry.1 = some (.name base)

section

variable {settings : Settings} {path : Path}

theorem Settings.lockedBy_append (settings : Settings) (locked : String → Bool)
    (before after : Mapping) :
    settings.lockedBy locked (before ++ after) =
      settings.lockedBy (settings.lockedBy locked before) after :=
  List.foldl_append

/-- Locks are never released. -/
theorem Settings.lockedBy_of_locked {locked : String → Bool} {name : String}
    (claimed : locked name = true) (entries : Mapping) :
    settings.lockedBy locked entries name = true := by
  induction entries generalizing locked with
  | nil => exact claimed
  | cons entry rest inductionHypothesis =>
      apply inductionHypothesis
      rw [lockNext, claimed, Bool.true_or]

theorem Settings.Selects.locked {entries : Mapping} {entry : Key × Tree} {base : String}
    (selected : settings.Selects entries entry base) :
    settings.lockedBy (fun _ => false) entries base = true := by
  rcases selected with ⟨before, after, split, target⟩
  rw [split, lockedBy_append, lockedBy_cons]
  apply lockedBy_of_locked
  rw [Walk.lockNext_of_selected target]
  simp

/-- An entry with a target is kept under it, with its value. -/
theorem Settings.mem_firstChoices {locked : String → Bool} {before after : Mapping}
    {entry : Key × Tree} {key : Key} {early : List (Option (Key × Tree))}
    (chosen : settings.firstChoices path locked (before ++ entry :: after) = .ok early)
    (target : settings.firstTarget? (settings.lockedBy locked before) entry.1 = some key) :
    ∃ value, settings.resolveApart path entry = .ok value ∧ (key, value) ∈ early.filterMap id := by
  induction before generalizing locked early with
  | nil =>
      rcases firstChoices_cons_eq_ok_iff.mp chosen with ⟨kept, others, here, _, same⟩
      rw [lockedBy_nil] at target
      rcases firstChoice_eq_ok here with ⟨nothing, _⟩ | ⟨other, value, found, resolved, isKept⟩
      · rw [nothing] at target
        cases target
      · rw [found] at target
        cases target
        rw [same, isKept]
        exact ⟨value, resolved, List.mem_cons_self⟩
  | cons head before inductionHypothesis =>
      rcases firstChoices_cons_eq_ok_iff.mp chosen with ⟨kept, others, _, later, same⟩
      rw [lockedBy_cons] at target
      rcases inductionHypothesis later target with ⟨value, resolved, member⟩
      refine ⟨value, resolved, ?_⟩
      rw [same, List.filterMap_cons]
      cases kept with
      | none => exact member
      | some entry => exact List.mem_cons_of_mem _ member

/-- The sibling is a marked parameterized entry for the key, with a sequence, that its
resolver accepts. -/
def Settings.Extracts (settings : Settings) (entries : Mapping) (sibling : Key × Tree)
    (key : String) : Prop :=
  sibling ∈ entries ∧ sibling.2.isSequence = true ∧ ∃ name stripped parameter argument,
    sibling.1 = .name name ∧
      Tag.ofKey settings.table name = .tagged ⟨stripped, true, .parameter key parameter argument⟩ ∧
      settings.accepts entries key parameter argument = true

/-- A marked plain entry does not give its key an alias when the alias is locked, for then
the name of the entry is. -/
theorem Settings.extracts_of_mem_markedBy {entries : Mapping} {key : String}
    (mark : key ∈ settings.markedBy entries)
    (locked : settings.lockedBy (fun _ => false) entries (aliasOf key) = true) :
    ∃ sibling, settings.Extracts entries sibling key := by
  rw [markedBy, mem_addMarks_iff] at mark
  rcases List.mem_filterMap.mp (mark.resolve_left List.not_mem_nil) with ⟨sibling, member, target⟩
  rw [markedTarget?] at target
  split at target
  case isFalse => cases target
  case isTrue extracted =>
    rw [Bool.and_eq_true] at extracted
    rcases extracted with ⟨isMarked, isSequence⟩
    refine ⟨sibling, member, isSequence, ?_⟩
    rcases sibling with ⟨name | position, value⟩
    · rw [secondTarget?] at target
      split at target
      case h_1 stripped flag read =>
        simp only [marks, read] at isMarked
        subst isMarked
        split at target
        case isTrue => cases target
        case isFalse free =>
          cases target
          have written : aliasOf key = name := Tag.render_of_ofKey read
          rw [← written, locked, Bool.true_or] at free
          exact absurd rfl free
      case h_2 stripped flag base parameter argument read =>
        simp only [marks, read] at isMarked
        subst isMarked
        split at target
        case isTrue => cases target
        case isFalse free =>
          split at target
          case isTrue accepted =>
            cases target
            exact ⟨name, stripped, parameter, argument, rfl, read, accepted⟩
          case isFalse => cases target
      case h_3 => cases target
    · cases target

/-- A locked key holds the value of the entry that was selected for it, whatever else is
assembled. -/
theorem Settings.Chosen.get?_assemble_of_selects {entries : Mapping}
    {early late : List (Option (Key × Tree))} (chosen : settings.Chosen path entries early late)
    (distinct : (Entries.keys entries).Nodup) {entry : Key × Tree} {base : String}
    (selected : settings.Selects entries entry base) :
    ∃ value, settings.resolveApart path entry = .ok value ∧
      Entries.get? (Walk.assemble early late) (.name base) = some value := by
  have locked := selected.locked
  rcases selected with ⟨before, after, split, target⟩
  rcases mem_firstChoices (split ▸ chosen.first) target with ⟨value, resolved, member⟩
  refine ⟨value, resolved, ?_⟩
  rw [chosen.get?_assemble distinct, Entries.get?_of_mem (chosen.nodup_keys distinct) member,
    Option.some_or]

end

/-- When a locale entry has been selected for a key, the key is locked, and what is found
under it in the end is the value of this entry, unless an alias has been restored there: that
of a key that a marked parameterized sibling has extracted. -/
theorem Settings.resolve_mapping_selected {settings : Settings} {entries : Mapping}
    (distinct : (Entries.keys entries).Nodup) {result : Tree} {last : Progress}
    (success : (Walk.resolveTree settings .root (.mapping entries)).outcome .initial =
      (.ok result, last)) {entry : Key × Tree} {base : String}
    (selected : settings.Selects entries entry base) :
    last.locks.isLocked .root base = true ∧
      ∃ kept value, result = .mapping kept ∧ settings.resolve entry.2 = .ok value ∧
        (Entries.get? kept (.name base) = some value ∨
          ∃ key sibling items, base = aliasOf key ∧ settings.Extracts entries sibling key ∧
            Entries.get? kept (.name base) = some (.sequence items)) := by
  rcases Walk.resolveTree_mapping_success success with ⟨kept, isKept, passes⟩
  rcases Walk.resolveEntries_choices settings distinct with ⟨choices, locks⟩
  rw [passes] at choices
  rcases resolveChoices_eq_ok_iff.mp choices.symm with ⟨early, late, chosen, aliased⟩
  rcases chosen.get?_assemble_of_selects distinct selected with ⟨value, resolved, held⟩
  refine ⟨by rw [locks kept last passes, selected.locked], kept, value, isKept,
    resolveApart_eq_ok resolved, ?_⟩
  rw [aliased]
  rcases get?_addAliases_eq_or (settings.markedBy entries) (Walk.assemble early late) (.name base)
    with same | ⟨key, mark, items, isAlias, replaced⟩
  · exact Or.inl (same.trans held)
  · have isBase : base = aliasOf key := Key.name.inj isAlias
    rcases extracts_of_mem_markedBy mark (isBase ▸ selected.locked) with ⟨sibling, extracts⟩
    exact Or.inr ⟨key, sibling, items, isBase, extracts, replaced⟩

/-- A plain sibling does not take the key that a locale entry has locked. -/
theorem Settings.resolve_mapping_selected_title :
    let settings : Settings := ⟨some "fr", none⟩
    let entry : Key × Tree := (.name "title@fr", .string "Bonjour")
    let entries : Mapping := [entry, (.name "title", .string "Hello")]
    (Entries.keys entries).Nodup ∧ settings.Selects entries entry "title" ∧ ∃ result last,
      (Walk.resolveTree settings .root (.mapping entries)).outcome .initial = (.ok result, last) ∧
      last.locks.isLocked .root "title" = true ∧
      ∃ kept value, result = .mapping kept ∧ settings.resolve entry.2 = .ok value ∧
        (Entries.get? kept (.name "title") = some value ∨
          ∃ key sibling items, "title" = aliasOf key ∧ settings.Extracts entries sibling key ∧
            Entries.get? kept (.name "title") = some (.sequence items)) := by
  intro settings entry entries
  have distinct : (Entries.keys entries).Nodup := by decide
  have selected : settings.Selects entries entry "title" :=
    ⟨[], [(.name "title", .string "Hello")], rfl, by decide +kernel⟩
  have succeeds : (settings.resolve (.mapping entries)).isOk = true := by decide +kernel
  rw [Settings.resolve_eq_outcome] at succeeds
  rcases success : (Walk.resolveTree settings .root (.mapping entries)).outcome .initial with
    ⟨error | result, last⟩
  · rw [success] at succeeds
    cases succeeds
  · exact ⟨distinct, selected, result, last, rfl,
      Settings.resolve_mapping_selected distinct success selected⟩

/-- An alias can be restored over the value of a locale entry whose base ends in `@`. -/
theorem Settings.alias_replaces_selected :
    ¬ ∀ (settings : Settings) (entries : Mapping) (entry : Key × Tree) (base : String)
      (kept : Mapping) (value : Tree), (Entries.keys entries).Nodup →
        settings.resolve (.mapping entries) = .ok (.mapping kept) →
        settings.Selects entries entry base → settings.resolve entry.2 = .ok value →
          Entries.get? kept (.name base) = some value := by
  intro never
  let settings : Settings := ⟨some "fr", some ⟨[("env", some (.literal "prod"))]⟩⟩
  let entry : Key × Tree := (.name "items@@fr", .string "locale")
  let sibling : Key × Tree := (.name "items@env.prod@", .sequence [.string "x"])
  have replaced : ((settings.resolve (.mapping [entry, sibling])).toOption.bind
      (·.get? "items@")).any Tree.isSequence = true := by decide +kernel
  rcases success : settings.resolve (.mapping [entry, sibling]) with error | result
  · rw [success] at replaced
    cases replaced
  · rw [success] at replaced
    cases result with
    | mapping kept =>
        have selected : settings.Selects [entry, sibling] entry "items@" :=
          ⟨[], [sibling], rfl, by decide +kernel⟩
        have held := never settings [entry, sibling] entry "items@" kept (.string "locale")
          (by decide) success selected rfl
        rw [Except.toOption, Option.bind_some, Tree.get?, Tree.mapping?, Option.bind_some, held]
          at replaced
        cases replaced
    | _ => cases replaced

end Resolution
end TaggedContent
