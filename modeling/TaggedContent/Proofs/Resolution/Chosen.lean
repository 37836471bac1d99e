import TaggedContent.Proofs.Resolution.Assembly
import TaggedContent.Proofs.Resolution.Choices

namespace TaggedContent
namespace Resolution

/-!
# What is chosen when both passes succeed

The first pass keeps an entry under its target with its value resolved apart.  It keeps no
key twice, so that a key of the assembled mapping holds the one thing that the first pass
keeps under it, or else the last one that the second keeps.
-/

/-- The passes succeed, and this is what they keep. -/
structure Settings.Chosen (settings : Settings) (path : Path) (entries : Mapping)
    (early late : List (Option (Key × Tree))) : Prop where
  first : settings.firstChoices path (fun _ => false) entries = .ok early
  second : entries.mapM (settings.secondChoice path entries
    (settings.lockedBy (fun _ => false) entries)) = .ok late

theorem Settings.resolveChoices_eq_ok_iff {settings : Settings} {path : Path}
    {entries kept : Mapping} :
    settings.resolveChoices path entries = .ok kept ↔
      ∃ early late, settings.Chosen path entries early late ∧
        kept = (addAliases (settings.markedBy entries) (Walk.assemble early late)).1 := by
  constructor
  · intro success
    rw [resolveChoices] at success
    rcases first : settings.firstChoices path (fun _ => false) entries with error | early
    · rw [first] at success
      cases success
    · rw [first] at success
      rcases second : entries.mapM (settings.secondChoice path entries
        (settings.lockedBy (fun _ => false) entries)) with error | late
      · rw [second] at success
        cases success
      · rw [second] at success
        cases success
        exact ⟨early, late, ⟨first, second⟩, rfl⟩
  · rintro ⟨early, late, chosen, same⟩
    rw [resolveChoices, chosen.first, chosen.second, same]
    rfl

section

variable {settings : Settings} {path : Path} {locked : String → Bool} {entry : Key × Tree}

theorem Settings.selects_eq_ok {key base pattern : String} {marked chosen : Bool}
    (selected : settings.selects locked key base pattern marked = .ok chosen) :
    chosen = (settings.admits pattern marked && !locked key && !locked base) := by
  revert selected
  unfold selects admits
  cases locked key with
  | true =>
      rintro ⟨⟩
      simp
  | false =>
      cases marked with
      | true =>
          rintro ⟨⟩
          rfl
      | false =>
          cases settings.locale with
          | none =>
              rintro ⟨⟩
              rfl
          | some locale =>
              dsimp only
              rcases Pattern.verdict pattern locale with error | matched
              · rintro ⟨⟩
              · rintro ⟨⟩
                cases matched <;> simp [Except.toOption]

/-- The first pass keeps an entry under its target, with its value, and nothing of an entry
without a target. -/
theorem Settings.firstChoice_eq_ok {kept : Option (Key × Tree)}
    (chosen : settings.firstChoice path locked entry = .ok kept) :
    (settings.firstTarget? locked entry.1 = none ∧ kept = none) ∨
      ∃ key value, settings.firstTarget? locked entry.1 = some key ∧
        settings.resolveApart path entry = .ok value ∧ kept = some (key, value) := by
  revert chosen
  unfold firstChoice firstTarget?
  rcases entry with ⟨name | position, content⟩
  · dsimp only
    rcases Tag.ofKey settings.table name with _ | ⟨stripped, marked, _ | ⟨base, pattern⟩ | _⟩
    · rintro ⟨⟩
      exact Or.inl ⟨rfl, rfl⟩
    · rintro ⟨⟩
      exact Or.inl ⟨rfl, rfl⟩
    · dsimp only
      rcases selected : settings.selects locked name base pattern marked with error | isSelected
      · rintro ⟨⟩
      · rw [← selects_eq_ok selected]
        cases isSelected with
        | false =>
            rintro ⟨⟩
            exact Or.inl ⟨rfl, rfl⟩
        | true =>
            rcases settings.resolveApart path (.name name, content) with error | value
            · rintro ⟨⟩
            · rintro ⟨⟩
              exact Or.inr ⟨.name base, value, rfl, rfl, rfl⟩
    · rintro ⟨⟩
      exact Or.inl ⟨rfl, rfl⟩
  · dsimp only
    rcases settings.resolveApart path (.index position, content) with error | value
    · rintro ⟨⟩
    · rintro ⟨⟩
      exact Or.inr ⟨.index position, value, rfl, rfl, rfl⟩

@[simp] theorem Settings.lockedBy_nil (settings : Settings) (locked : String → Bool) :
    settings.lockedBy locked [] = locked :=
  rfl

@[simp] theorem Settings.lockedBy_cons (settings : Settings) (locked : String → Bool)
    (entry : Key × Tree) (rest : Mapping) :
    settings.lockedBy locked (entry :: rest) =
      settings.lockedBy (settings.lockNext locked entry) rest :=
  rfl

theorem Settings.firstChoices_cons_eq_ok_iff {rest : Mapping}
    {early : List (Option (Key × Tree))} :
    settings.firstChoices path locked (entry :: rest) = .ok early ↔
      ∃ kept others, settings.firstChoice path locked entry = .ok kept ∧
        settings.firstChoices path (settings.lockNext locked entry) rest = .ok others ∧
        early = kept :: others := by
  rw [firstChoices]
  constructor
  · rcases settings.firstChoice path locked entry with error | kept
    · rintro ⟨⟩
    · rcases settings.firstChoices path (settings.lockNext locked entry) rest with error | others
      · rintro ⟨⟩
      · rintro ⟨⟩
        exact ⟨kept, others, rfl, rfl, rfl⟩
  · rintro ⟨kept, others, here, later, same⟩
    rw [here, later, same]
    rfl

end

namespace Settings.Chosen

variable {settings : Settings} {path : Path} {entries : Mapping}
  {early late : List (Option (Key × Tree))}

/-- What is chosen is kept by the passes when every value is resolved apart. -/
theorem steps (chosen : settings.Chosen path entries early late) :
    ∃ middle last, Walk.Steps (Walk.firstApart settings path) entries .initial early middle ∧
      Walk.Steps (Walk.secondApart settings path entries) entries middle late last := by
  rcases Walk.computes_firstChoices settings path _ [] entries .initial (Walk.Stands.initial path)
    with ⟨firstResult, firstStands⟩
  rcases first : (entries.mapM (Walk.firstApart settings path)).outcome .initial with ⟨found, middle⟩
  rw [first, chosen.first] at firstResult
  dsimp only at firstResult
  subst firstResult
  have stands := firstStands early middle first
  rcases Walk.computes_secondChoices settings path entries _ [] entries middle stands with
    ⟨secondResult, _⟩
  rcases second : (entries.mapM (Walk.secondApart settings path entries)).outcome middle with
    ⟨found, last⟩
  rw [second, chosen.second] at secondResult
  dsimp only at secondResult
  subst secondResult
  exact ⟨middle, last, Walk.steps_of_outcome_mapM first, Walk.steps_of_outcome_mapM second⟩

theorem keepsLocks (settings : Settings) (path : Path) (entries : Mapping) :
    Walk.KeepsLocks path entries fun entry => Walk.ofExcept (settings.resolveApart path entry) :=
  fun _ _ locked => Walk.preserves_ofExcept (Walk.LocksAtLeast path locked) _

/-- The first pass keeps no key twice. -/
theorem nodup_keys (chosen : settings.Chosen path entries early late)
    (distinct : (Entries.keys entries).Nodup) : (Entries.keys (early.filterMap id)).Nodup := by
  rcases chosen.steps with ⟨middle, last, first, _⟩
  exact (Walk.firstKeys_of_steps (keepsLocks settings path entries) Pattern.Cache.sound_empty
    first).nodup distinct

/-- A key holds what the first pass keeps under it, or else what the second keeps last. -/
theorem get?_assemble (chosen : settings.Chosen path entries early late)
    (distinct : (Entries.keys entries).Nodup) (key : Key) :
    Entries.get? (Walk.assemble early late) key =
      (Entries.get? (early.filterMap id) key).or
        (Entries.get? (late.filterMap id).reverse key) := by
  rcases chosen.steps with ⟨middle, last, first, second⟩
  rw [Walk.get?_assemble_of_steps (keepsLocks settings path entries) Pattern.Cache.sound_empty first
    second, Entries.get?_reverse (chosen.nodup_keys distinct)]

end Settings.Chosen

end Resolution
end TaggedContent
