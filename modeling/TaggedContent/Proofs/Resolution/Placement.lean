import TaggedContent.Proofs.Resolution.Targets

namespace TaggedContent
namespace Resolution

/-!
# The order of the result

Although the locale entries are decided before all others, the keys of a result stand in
the order of the entries that are kept: every target stands where the first entry kept
under it does, and holds what the last one comes to.  The aliases that were not there yet
follow, in the order in which their keys were marked.
-/

/-! ## Marks and aliases in order -/

/-- The elements of a list, each at its first place, are the keys of a table. -/
theorem eraseDups_eq_keys [DecidableEq α] (list : List α) :
    list.eraseDups = Entries.keys (Entries.ofPairs (list.map fun element => (element, ()))) := by
  rw [Entries.keys_ofPairs, Entries.keys, List.map_map]
  exact congrArg List.eraseDups (List.map_id list).symm

theorem nodup_eraseDups [DecidableEq α] (list : List α) : list.eraseDups.Nodup := by
  rw [eraseDups_eq_keys]
  apply Entries.nodup_keys_ofPairs

theorem eraseDups_of_nodup [DecidableEq α] {list : List α} (distinct : list.Nodup) :
    list.eraseDups = list := by
  have names : Entries.keys (list.map fun element => (element, ())) = list := by
    rw [Entries.keys, List.map_map]
    exact List.map_id list
  rw [eraseDups_eq_keys, Entries.ofPairs_of_nodup (names.symm ▸ distinct), names]

theorem addMarks_keys (entries : Entries String Unit) (keys : List String) :
    addMarks (Entries.keys entries) keys =
      Entries.keys ((keys.map fun key => (key, ())).foldl
        (fun entries pair => Entries.insert pair.1 pair.2 entries) entries) := by
  induction keys generalizing entries with
  | nil => rfl
  | cons key keys inductionHypothesis =>
      rw [addMarks, List.foldl_cons, List.map_cons, List.foldl_cons, ← inductionHypothesis]
      split
      case isTrue known =>
          rw [Entries.keys_insert_of_mem () known]
          rfl
      case isFalse fresh =>
          rw [Entries.insert_of_not_mem () fresh, Entries.keys_append]
          rfl

theorem addMarks_nil (keys : List String) : addMarks [] keys = keys.eraseDups := by
  rw [eraseDups_eq_keys]
  exact addMarks_keys [] keys

theorem addAliases_snd_sublist (keys : List String) (entries : Mapping) :
    (addAliases keys entries).2.Sublist keys := by
  induction keys generalizing entries with
  | nil => exact .slnil
  | cons key keys inductionHypothesis =>
      unfold addAliases
      split
      · exact (inductionHypothesis _).cons_cons key
      · exact (inductionHypothesis _).cons key

/-- Restoring aliases inserts, in order, one entry for each key that got an alias. -/
theorem addAliases_eq_inserts (keys : List String) (entries : Mapping) :
    ∃ aliases : Mapping,
      Entries.keys aliases = (addAliases keys entries).2.map (fun key => .name (aliasOf key)) ∧
      (addAliases keys entries).1 =
        aliases.foldl (fun entries entry => Entries.insert entry.1 entry.2 entries) entries := by
  induction keys generalizing entries with
  | nil => exact ⟨[], rfl, rfl⟩
  | cons key keys inductionHypothesis =>
      unfold addAliases
      split
      case h_1 items _ =>
          rcases inductionHypothesis
              (Entries.insert (.name (aliasOf key)) (.sequence items) entries) with
            ⟨aliases, names, inserted⟩
          refine ⟨(.name (aliasOf key), .sequence items) :: aliases, ?_, inserted⟩
          rw [Entries.keys_cons, names, List.map_cons]
      case h_2 => exact inductionHypothesis entries

/-- Aliases that are not there yet are appended. -/
theorem keys_addAliases {keys : List String} (distinct : keys.Nodup) (entries : Mapping) :
    Entries.keys (addAliases keys entries).1 = Entries.keys entries ++
      ((addAliases keys entries).2.map fun key => Key.name (aliasOf key)).filter
        (· ∉ Entries.keys entries) := by
  rcases addAliases_eq_inserts keys entries with ⟨aliases, names, inserted⟩
  have injective : Function.Injective fun key => Key.name (aliasOf key) :=
    fun _ _ same => aliasOf_inj (Key.name.inj same)
  have once := ((addAliases_snd_sublist keys entries).nodup distinct).map injective
  rw [inserted, Entries.keys_foldl_insert, names, eraseDups_of_nodup (once.filter _)]

/-! ## The keys that the passes put in order -/

namespace Settings

variable {settings : Settings} {path : Path} {entries : Mapping}
  {early late : List (Option (Key × Tree))}

/-- The keys are marked in the order of the entries that are kept with a mark. -/
theorem markedBy_eq_eraseDups (settings : Settings) (entries : Mapping) :
    settings.markedBy entries =
      (entries.filterMap fun entry =>
        if settings.marks entry.1 && entry.2.isSequence then
          (settings.target? entries entry.1).bind Key.name?
        else none).eraseDups := by
  have sameTarget : ∀ entry ∈ entries,
      settings.markedTarget? entries (settings.lockedBy (fun _ => false) entries) entry =
        if settings.marks entry.1 && entry.2.isSequence then
          (settings.target? entries entry.1).bind Key.name?
        else none := by
    intro entry _
    rw [markedTarget?]
    split
    case isFalse => rfl
    case isTrue extracted =>
        rw [Bool.and_eq_true] at extracted
        rw [target?, firstTarget?_of_marks extracted.1, Option.none_or, Option.bind_map]
        exact (Option.bind_fun_some _).symm
  rw [markedBy, addMarks_nil, List.filterMap_congr sameTarget]

/-- A mapping that is resolved comes to what its passes have chosen, with the aliases. -/
theorem exists_chosen (distinct : (Entries.keys entries).Nodup) {result : Tree}
    (success : settings.resolve (.mapping entries) = .ok result) :
    ∃ early late, settings.Chosen .root entries early late ∧
      result = .mapping (addAliases (settings.markedBy entries) (Walk.assemble early late)).1 := by
  rw [resolve_mapping_choices settings distinct] at success
  rcases choices : settings.resolveChoices .root entries with error | kept
  · rw [choices] at success
    cases success
  · rw [choices] at success
    cases success
    rcases resolveChoices_eq_ok_iff.mp choices with ⟨early, late, chosen, aliased⟩
    exact ⟨early, late, chosen, congrArg Tree.mapping aliased⟩

theorem Chosen.keys_assemble (chosen : settings.Chosen path entries early late)
    (distinct : (Entries.keys entries).Nodup) :
    Entries.keys (Walk.assemble early late) =
      (entries.filterMap fun entry => settings.target? entries entry.1).eraseDups := by
  rw [Walk.assemble, Entries.keys_ofPairs,
    keys_of_forall₂_keptUnder (chosen.forall₂_keptUnder distinct)]

theorem Chosen.get?_assemble_target (chosen : settings.Chosen path entries early late)
    (distinct : (Entries.keys entries).Nodup) (key : Key) :
    (Entries.get? (Walk.assemble early late) key).map .ok =
      (entries.reverse.find? fun entry => settings.target? entries entry.1 == some key).map
        fun entry => settings.resolve entry.2 := by
  rw [Walk.assemble, Entries.get?_ofPairs,
    get?_reverse_of_forall₂_keptUnder (chosen.forall₂_keptUnder distinct)]

/-- No entry before a selected one is kept under the same key. -/
theorem target?_ne_of_selected {before after : Mapping} {entry : Key × Tree} {base : String}
    (distinct : (Entries.keys (before ++ entry :: after)).Nodup)
    (selected : settings.firstTarget? (settings.lockedBy (fun _ => false) before) entry.1 =
      some (.name base)) {other : Key × Tree} (member : other ∈ before) :
    settings.target? (before ++ entry :: after) other.1 ≠ some (.name base) := by
  intro same
  rw [target?, Option.or_eq_some_iff] at same
  rcases same with first | ⟨_, second⟩
  · -- The earlier entry would have locked the key.
    rcases List.append_of_mem member with ⟨front, back, split⟩
    have whole : before ++ entry :: after = front ++ other :: (back ++ entry :: after) := by
      rw [split, List.append_assoc, List.cons_append]
    rw [whole] at distinct first
    rw [lockedBefore_eq distinct] at first
    have locked : settings.lockedBy (fun _ => false) before base = true :=
      Selects.locked ⟨front, back, split, first⟩
    rw [unlocked_of_firstTarget? selected] at locked
    cases locked
  · rcases Option.map_eq_some_iff.mp second with ⟨name, target, isName⟩
    cases isName
    have locked : settings.lockedBy (fun _ => false) (before ++ entry :: after) base = true :=
      Selects.locked ⟨before, after, rfl, selected⟩
    rw [unlocked_of_secondTarget? target] at locked
    cases locked

/-- The key of a selected entry comes right after those of the entries before it. -/
theorem targets_of_selected {before after : Mapping} {entry : Key × Tree} {base : String}
    (distinct : (Entries.keys (before ++ entry :: after)).Nodup)
    (selected : settings.firstTarget? (settings.lockedBy (fun _ => false) before) entry.1 =
      some (.name base)) :
    ∃ later, ((before ++ entry :: after).filterMap fun other =>
        settings.target? (before ++ entry :: after) other.1).eraseDups =
      (before.filterMap fun other =>
        settings.target? (before ++ entry :: after) other.1).eraseDups ++ .name base :: later := by
  have isTarget : settings.target? (before ++ entry :: after) entry.1 = some (.name base) := by
    rw [target?, lockedBefore_eq distinct, selected, Option.some_or]
  have fresh : Key.name base ∉ before.filterMap fun other =>
      settings.target? (before ++ entry :: after) other.1 := by
    intro listed
    rcases List.mem_filterMap.mp listed with ⟨other, member, same⟩
    exact target?_ne_of_selected distinct selected member same
  rw [List.filterMap_append, List.filterMap_cons, isTarget, List.eraseDups_append]
  dsimp only
  rw [List.removeAll, List.filter_cons_of_pos (by simpa using fresh), List.eraseDups_cons]
  exact ⟨_, rfl⟩

end Settings

/-- The keys of a result are the targets of the entries that are kept, in the order of these
and each at its first place, and after them the aliases that were not there before, in the
order in which their keys were marked.  Before the aliases are restored every key holds what
the last entry kept under it comes to.  A selected locale entry has its place among the
entries of the mapping although it is decided before its siblings. -/
theorem Settings.resolve_mapping_placed {settings : Settings} {entries : Mapping}
    (distinct : (Entries.keys entries).Nodup) {result : Tree}
    (success : settings.resolve (.mapping entries) = .ok result) :
    ∃ (assembled kept : Mapping) (restored : List String), result = .mapping kept ∧
      Entries.keys assembled =
        (entries.filterMap fun entry => settings.target? entries entry.1).eraseDups ∧
      (∀ key, (Entries.get? assembled key).map .ok =
        (entries.reverse.find? fun entry => settings.target? entries entry.1 == some key).map
          fun entry => settings.resolve entry.2) ∧
      (kept, restored) = addAliases (settings.markedBy entries) assembled ∧
      settings.markedBy entries =
        (entries.filterMap fun entry =>
          if settings.marks entry.1 && entry.2.isSequence then
            (settings.target? entries entry.1).bind Key.name?
          else none).eraseDups ∧
      restored.Sublist (settings.markedBy entries) ∧
      Entries.keys kept = Entries.keys assembled ++
        (restored.map fun key => Key.name (aliasOf key)).filter (· ∉ Entries.keys assembled) ∧
      ∀ before entry after base, entries = before ++ entry :: after →
        settings.firstTarget? (settings.lockedBy (fun _ => false) before) entry.1 =
          some (.name base) →
        ∃ later, Entries.keys kept =
          (before.filterMap fun other => settings.target? entries other.1).eraseDups ++
            .name base :: later := by
  rcases exists_chosen distinct success with ⟨early, late, chosen, isResult⟩
  have keys := chosen.keys_assemble distinct
  have once : (settings.markedBy entries).Nodup := by
    rw [markedBy_eq_eraseDups]
    exact nodup_eraseDups _
  have ordered := keys_addAliases once (Walk.assemble early late)
  refine ⟨Walk.assemble early late, _, _, isResult, keys, chosen.get?_assemble_target distinct,
    rfl, markedBy_eq_eraseDups settings entries, addAliases_snd_sublist _ _, ordered, ?_⟩
  intro before entry after base split selected
  subst split
  rcases targets_of_selected distinct selected with ⟨later, placed⟩
  rw [ordered, keys, placed, List.append_assoc, List.cons_append]
  exact ⟨_, rfl⟩

/-- A translation between its siblings, a name that comes twice, and two marks. -/
theorem Settings.resolve_mapping_placed_translated :
    let settings : Settings := ⟨some "fr", none⟩
    let body : Key × Tree := (.name "body", .string "text")
    let title : Key × Tree := (.name "title@fr", .string "Bonjour")
    let others : Mapping := [(.name "tags@", .sequence [.string "a"]), (.name "title", .string "Hello"),
      (.name "body@", .sequence [.string "text"])]
    let entries : Mapping := body :: title :: others
    (Entries.keys entries).Nodup ∧
      ∃ (assembled kept : Mapping) (restored : List String),
        settings.resolve (.mapping entries) = .ok (.mapping kept) ∧
        Entries.keys assembled = [.name "body", .name "title", .name "tags"] ∧
        settings.markedBy entries = ["tags", "body"] ∧
        (kept, restored) = addAliases ["tags", "body"] assembled ∧
        Entries.keys kept = Entries.keys assembled ++
          (restored.map fun key => Key.name (aliasOf key)).filter (· ∉ Entries.keys assembled) ∧
        ∃ later, Entries.keys kept = .name "body" :: .name "title" :: later := by
  intro settings body title others entries
  have distinct : (Entries.keys entries).Nodup := by decide
  have succeeds : (settings.resolve (.mapping entries)).isOk = true := by decide +kernel
  have targets : (entries.filterMap fun entry => settings.target? entries entry.1).eraseDups =
      [.name "body", .name "title", .name "tags"] := by decide +kernel
  have before : ([body].filterMap fun other => settings.target? entries other.1).eraseDups =
      [.name "body"] := by decide +kernel
  have marks : settings.markedBy entries = ["tags", "body"] := by decide +kernel
  have selected : settings.firstTarget? (settings.lockedBy (fun _ => false) [body]) title.1 =
      some (.name "title") := by decide +kernel
  rcases success : settings.resolve (.mapping entries) with error | result
  · rw [success] at succeeds
    cases succeeds
  · rcases Settings.resolve_mapping_placed distinct success with
      ⟨assembled, kept, restored, same, keys, _, aliased, _, _, ordered, placed⟩
    rcases placed [body] title others "title" rfl selected with ⟨later, position⟩
    rw [targets] at keys
    rw [marks] at aliased
    rw [before] at position
    exact ⟨distinct, assembled, kept, restored, congrArg Except.ok same, keys, marks, aliased,
      ordered, later, position⟩

end Resolution
end TaggedContent
