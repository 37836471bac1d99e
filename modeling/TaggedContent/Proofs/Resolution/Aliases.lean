import TaggedContent.Proofs.Entries.Alike
import TaggedContent.Resolution.LocksAndMarks

namespace TaggedContent
namespace Resolution

/-!
# Extraction aliases as entries

When no key to be restored is the alias of another, restoring aliases inserts, in order,
an entry for every one of these keys that holds a sequence.  What the keys hold is read
off the mapping as it was at the start.
-/

theorem aliasOf_inj {key other : String} (same : aliasOf key = aliasOf other) : key = other := by
  have letters := congrArg String.toList same
  simp only [aliasOf, String.toList_append] at letters
  exact String.toList_inj.mp (List.append_cancel_right letters)

theorem mem_toList_aliasOf (key : String) : '@' ∈ (aliasOf key).toList := by
  rw [aliasOf, String.toList_append]
  exact List.mem_append_right _ List.mem_cons_self

/-- The alias of a key, with its value, when the key holds a sequence. -/
def alias? (entries : Mapping) (key : String) : Option (Key × Tree) :=
  match Entries.get? entries (.name key) with
  | some (.sequence items) => some (.name (aliasOf key), .sequence items)
  | _ => none

theorem alias?_eq_some_iff {entries : Mapping} {key : String} {entry : Key × Tree} :
    alias? entries key = some entry ↔
      ∃ items, Entries.get? entries (.name key) = some (.sequence items) ∧
        entry = (.name (aliasOf key), .sequence items) := by
  unfold alias?
  constructor
  · intro found
    split at found
    case h_1 items held =>
        cases found
        exact ⟨items, held, rfl⟩
    case h_2 => cases found
  · rintro ⟨items, held, same⟩
    rw [held, same]

theorem alias?_eq (entries : Mapping) (key : String) :
    alias? entries key = (Entries.get? entries (.name key)).bind fun value =>
      if value.isSequence then some (.name (aliasOf key), value) else none := by
  rw [alias?]
  cases Entries.get? entries (.name key) with
  | none => rfl
  | some value => cases value <;> rfl

/-- An entry under another key does not change what the alias is. -/
theorem alias?_insert {key : String} {other : Key} (apart : other ≠ .name key) (value : Tree)
    (entries : Mapping) : alias? (Entries.insert other value entries) key = alias? entries key := by
  rw [alias?, Entries.get?_insert, if_neg apart, alias?]

theorem addAliases_cons (key : String) (keys : List String) (entries : Mapping) :
    (addAliases (key :: keys) entries).1 =
      match alias? entries key with
      | some entry => (addAliases keys (Entries.insert entry.1 entry.2 entries)).1
      | none => (addAliases keys entries).1 := by
  cases held : Entries.get? entries (.name key) with
  | none => simp only [addAliases, alias?, held]
  | some value => cases value <;> simp only [addAliases, alias?, held]

theorem nodup_keys_addAliases (keys : List String) {entries : Mapping}
    (distinct : (Entries.keys entries).Nodup) :
    (Entries.keys (addAliases keys entries).1).Nodup := by
  induction keys generalizing entries with
  | nil => exact distinct
  | cons key keys inductionHypothesis =>
      rw [addAliases_cons]
      cases alias? entries key with
      | none => exact inductionHypothesis distinct
      | some entry => exact inductionHypothesis (Entries.nodup_keys_insert _ _ distinct)

/-- Under any key the aliases leave what was there, or put a sequence whose name they
alias. -/
theorem get?_addAliases_eq_or (keys : List String) (entries : Mapping) (other : Key) :
    Entries.get? (addAliases keys entries).1 other = Entries.get? entries other ∨
      ∃ key ∈ keys, ∃ items, other = .name (aliasOf key) ∧
        Entries.get? (addAliases keys entries).1 other = some (.sequence items) := by
  induction keys generalizing entries with
  | nil => exact Or.inl rfl
  | cons key keys inductionHypothesis =>
      rw [addAliases_cons]
      cases found : alias? entries key with
      | none =>
          rcases inductionHypothesis entries with same | ⟨name, listed, replaced⟩
          · exact Or.inl same
          · exact Or.inr ⟨name, List.mem_cons_of_mem _ listed, replaced⟩
      | some entry =>
          rcases alias?_eq_some_iff.mp found with ⟨items, _, isAlias⟩
          dsimp only
          rcases inductionHypothesis (Entries.insert entry.1 entry.2 entries) with
            same | ⟨name, listed, replaced⟩
          · rw [same, Entries.get?_insert, isAlias]
            split
            case isTrue here => exact Or.inr ⟨key, List.mem_cons_self, items, here.symm, rfl⟩
            case isFalse => exact Or.inl rfl
          · exact Or.inr ⟨name, List.mem_cons_of_mem _ listed, replaced⟩

/-- Values that are related are sequences on both sides or on neither: so are the aliases
of one key. -/
theorem alikeByKey_addAliases {related : Tree → Tree → Prop}
    (sameKind : ∀ value value', related value value' → value.isSequence = value'.isSequence)
    (keys : List String) {entries entries' : Mapping}
    (alike : Entries.AlikeByKey related entries entries') :
    Entries.AlikeByKey related (addAliases keys entries).1 (addAliases keys entries').1 := by
  induction keys generalizing entries entries' with
  | nil => exact alike
  | cons key keys inductionHypothesis =>
      rw [addAliases_cons, addAliases_cons, alias?_eq, alias?_eq]
      have here := alike (.name key)
      generalize Entries.get? entries (.name key) = held,
        Entries.get? entries' (.name key) = held' at here ⊢
      cases here with
      | none => exact inductionHypothesis alike
      | @some value value' same =>
          rw [Option.bind_some, Option.bind_some, sameKind value value' same]
          cases value'.isSequence with
          | true => exact inductionHypothesis (alike.insert _ same)
          | false => exact inductionHypothesis alike

theorem addAliases_eq_foldl {keys : List String} (isolated : ∀ key ∈ keys, aliasOf key ∉ keys)
    (entries : Mapping) :
    (addAliases keys entries).1 =
      (keys.filterMap (alias? entries)).foldl
        (fun entries entry => Entries.insert entry.1 entry.2 entries) entries := by
  induction keys generalizing entries with
  | nil => rfl
  | cons key keys inductionHypothesis =>
      have others : ∀ other ∈ keys, aliasOf other ∉ keys := fun other member aliased =>
        isolated other (List.mem_cons_of_mem _ member) (List.mem_cons_of_mem _ aliased)
      rw [addAliases_cons, List.filterMap_cons]
      cases found : alias? entries key with
      | none => exact inductionHypothesis others entries
      | some entry =>
          rcases alias?_eq_some_iff.mp found with ⟨items, held, same⟩
          have unchanged : ∀ other ∈ keys,
              alias? (Entries.insert entry.1 entry.2 entries) other = alias? entries other := by
            intro other member
            apply alias?_insert
            rw [same]
            intro clash
            have isAlias := isolated key List.mem_cons_self
            rw [Key.name.inj clash] at isAlias
            exact isAlias (List.mem_cons_of_mem _ member)
          dsimp only
          rw [inductionHypothesis others, List.filterMap_congr unchanged, List.foldl_cons]

/-- Keys without `@` are no aliases. -/
theorem isolated_of_clean {keys : List String} (clean : ∀ key ∈ keys, '@' ∉ key.toList) :
    ∀ key ∈ keys, aliasOf key ∉ keys :=
  fun key _ aliased => clean _ aliased (mem_toList_aliasOf key)

/-- Restoring aliases changes nothing under a key that is not the alias of one of the
keys. -/
theorem get?_addAliases_of_ne {keys : List String} {entries : Mapping}
    (isolated : ∀ key ∈ keys, aliasOf key ∉ keys) {other : Key}
    (apart : ∀ key ∈ keys, other ≠ .name (aliasOf key)) :
    Entries.get? (addAliases keys entries).1 other = Entries.get? entries other := by
  have absent : Entries.get? (keys.filterMap (alias? entries)).reverse other = none := by
    rw [Entries.get?_eq_none_iff]
    intro member
    rcases List.mem_map.mp member with ⟨entry, listed, same⟩
    rcases List.mem_filterMap.mp (List.mem_reverse.mp listed) with ⟨key, marked, found⟩
    rcases alias?_eq_some_iff.mp found with ⟨items, _, isAlias⟩
    apply apart key marked
    rw [← same, isAlias]
  rw [addAliases_eq_foldl isolated, Entries.get?_foldl_insert, absent, Option.none_or]

/-- Every key that restoring aliases brings in is the alias of a key with a sequence. -/
theorem mem_keys_addAliases {keys : List String} {entries : Mapping}
    (isolated : ∀ key ∈ keys, aliasOf key ∉ keys) {other : Key}
    (member : other ∈ Entries.keys (addAliases keys entries).1) :
    other ∈ Entries.keys entries ∨
      ∃ key ∈ keys, ∃ items, other = .name (aliasOf key) ∧
        Entries.get? entries (.name key) = some (.sequence items) ∧
        Entries.get? (addAliases keys entries).1 other = some (.sequence items) := by
  by_cases there : other ∈ Entries.keys entries
  · exact Or.inl there
  · right
    have missing := (Entries.get?_eq_none_iff entries other).mpr there
    have lookup : Entries.get? (addAliases keys entries).1 other =
        Entries.get? (keys.filterMap (alias? entries)).reverse other := by
      rw [addAliases_eq_foldl isolated, Entries.get?_foldl_insert, missing, Option.or_none]
    cases found : Entries.get? (addAliases keys entries).1 other with
    | none => exact absurd member ((Entries.get?_eq_none_iff _ other).mp found)
    | some value =>
        have listed := Entries.mem_of_get? (lookup.symm.trans found)
        rcases List.mem_filterMap.mp (List.mem_reverse.mp listed) with ⟨key, marked, isAlias⟩
        rcases alias?_eq_some_iff.mp isAlias with ⟨items, held, same⟩
        cases same
        exact ⟨key, marked, items, rfl, held, rfl⟩

end Resolution
end TaggedContent
