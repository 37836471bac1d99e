import TaggedContent.Proofs.Resolution.Locking

namespace TaggedContent
namespace Resolution

/-!
# The keys that entries are kept under

With distinct keys it is known of every entry whether it is kept, and under which key:
the first pass goes by the locks of the entries before it, and the second by the locks
that there are in the end.  No entry is kept by both.  What is assembled are the targets
of the entries with their values, in the order of the mapping.
-/

namespace Settings

/-- What is locked when the first pass comes to the entry with this key. -/
def lockedBefore (settings : Settings) (entries : Mapping) (key : Key) : String → Bool :=
  settings.lockedBy (fun _ => false) (entries.takeWhile (·.1 ≠ key))

/-- The key under which the entry of the mapping with this key is kept, if it is. -/
def target? (settings : Settings) (entries : Mapping) (key : Key) : Option Key :=
  (settings.firstTarget? (settings.lockedBefore entries key) key).or
    ((settings.secondTarget? entries (settings.lockedBy (fun _ => false) entries) key).map .name)

variable {settings : Settings} {path : Path} {locked : String → Bool} {entries : Mapping}

theorem takeWhile_eq_of_nodup {before after : Mapping} {entry : Key × Tree}
    (distinct : (Entries.keys (before ++ entry :: after)).Nodup) :
    (before ++ entry :: after).takeWhile (·.1 ≠ entry.1) = before := by
  have others : ∀ other ∈ before, other.1 ≠ entry.1 := by
    intro other member same
    rw [Entries.keys_append, List.nodup_append] at distinct
    exact distinct.2.2 other.1 (Entries.mem_keys_of_mem member) entry.1 List.mem_cons_self same
  rw [List.takeWhile_append_of_pos (by simpa using others), List.takeWhile_cons_of_neg (by simp),
    List.append_nil]

theorem lockedBefore_eq {before after : Mapping} {entry : Key × Tree}
    (distinct : (Entries.keys (before ++ entry :: after)).Nodup) :
    settings.lockedBefore (before ++ entry :: after) entry.1 =
      settings.lockedBy (fun _ => false) before := by
  rw [lockedBefore, takeWhile_eq_of_nodup distinct]

/-! ## One pass for each entry -/

theorem firstTarget?_of_decidesSecond {key : Key} (decided : settings.decidesSecond key = true)
    (locked : String → Bool) : settings.firstTarget? locked key = none := by
  rcases key with name | position
  · rw [decidesSecond] at decided
    split at decided
    case h_1 read => simp only [firstTarget?, read]
    case h_2 read => simp only [firstTarget?, read]
    case h_3 => cases decided
  · cases decided

theorem secondTarget?_of_decidesFirst {key : Key} (decided : settings.decidesFirst key = true)
    (node : Mapping) (locked : String → Bool) : settings.secondTarget? node locked key = none := by
  rcases key with name | position
  · rw [decidesFirst] at decided
    split at decided
    case h_1 read => simp only [secondTarget?, read]
    case h_2 => cases decided
  · rfl

theorem decidesSecond_of_secondTarget? {node : Mapping} {key : Key} {base : String}
    (target : settings.secondTarget? node locked key = some base) :
    settings.decidesSecond key = true := by
  rcases key with name | position
  · rw [secondTarget?] at target
    split at target
    case h_1 read => simp only [decidesSecond, read]
    case h_2 read => simp only [decidesSecond, read]
    case h_3 => cases target
  · cases target

/-- The second pass keeps an entry under its target, with its value, and nothing of an entry
without a target. -/
theorem secondChoice_eq_ok {node : Mapping} {entry : Key × Tree} {kept : Option (Key × Tree)}
    (chosen : settings.secondChoice path node locked entry = .ok kept) :
    (settings.secondTarget? node locked entry.1 = none ∧ kept = none) ∨
      ∃ base value, settings.secondTarget? node locked entry.1 = some base ∧
        settings.resolveApart path entry = .ok value ∧ kept = some (.name base, value) := by
  revert chosen
  unfold secondChoice secondTarget?
  rcases entry with ⟨name | position, content⟩
  · dsimp only
    rcases Tag.ofKey settings.table name with
      _ | ⟨stripped, marked, _ | _ | ⟨base, parameter, argument⟩⟩
    · rintro ⟨⟩
      exact Or.inl ⟨rfl, rfl⟩
    · dsimp only
      cases locked name || locked stripped with
      | true =>
          rintro ⟨⟩
          exact Or.inl ⟨rfl, rfl⟩
      | false =>
          rcases settings.resolveApart path (.name name, content) with error | value
          · rintro ⟨⟩
          · rintro ⟨⟩
            exact Or.inr ⟨stripped, value, rfl, rfl, rfl⟩
    · rintro ⟨⟩
      exact Or.inl ⟨rfl, rfl⟩
    · dsimp only
      cases locked name || locked base with
      | true =>
          rintro ⟨⟩
          exact Or.inl ⟨rfl, rfl⟩
      | false =>
          simp only [Bool.false_eq_true, if_false]
          cases enabled : settings.resolver? parameter with
          | none =>
              rintro ⟨⟩
              exact Or.inl ⟨by simp [accepts, enabled], rfl⟩
          | some resolver =>
              have accepted : settings.accepts node base parameter argument =
                  ((resolver.verdict ⟨node, base, parameter, argument, .null,
                    settings.locale⟩).toOption == some true) := by
                simp only [accepts, enabled]
              rw [accepted]
              dsimp only
              generalize resolver.verdict
                ⟨node, base, parameter, argument, .null, settings.locale⟩ = verdict
              rcases settings.resolveApart path (.name name, content) with error | value
              · rintro ⟨⟩
              · rcases verdict with error | _ | _
                · rintro ⟨⟩
                · rintro ⟨⟩
                  exact Or.inl ⟨rfl, rfl⟩
                · rintro ⟨⟩
                  exact Or.inr ⟨base, value, rfl, rfl, rfl⟩
  · rintro ⟨⟩
    exact Or.inl ⟨rfl, rfl⟩

/-- A marked entry with a target is one of the second pass. -/
theorem firstTarget?_of_marks {key : Key} (isMarked : settings.marks key = true) :
    settings.firstTarget? locked key = none := by
  rcases key with name | position
  · rw [firstTarget?]
    split
    case h_1 read =>
        simp only [marks, read] at isMarked
        simp [isMarked, admits]
    case h_2 => rfl
  · cases isMarked

/-! ## What both passes keep -/

/-- The entry is kept under its target, with its value, if it has one. -/
def KeptUnder (settings : Settings) (path : Path) (entry : Key × Tree) (target : Option Key)
    (kept : Option (Key × Tree)) : Prop :=
  (target = none ∧ kept = none) ∨
    ∃ key value, target = some key ∧ settings.resolveApart path entry = .ok value ∧
      kept = some (key, value)

theorem except_mapM_cons_eq_ok {step : α → Except ε β} {head : α} {tail : List α}
    {values : List β} (success : (head :: tail).mapM step = .ok values) :
    ∃ value others, step head = .ok value ∧ tail.mapM step = .ok others ∧
      values = value :: others := by
  rw [List.mapM_cons] at success
  rcases first : step head with error | value
  · rw [first] at success
    cases success
  · rw [first] at success
    rcases rest : tail.mapM step with error | others
    · rw [rest] at success
      cases success
    · rw [rest] at success
      cases success
      exact ⟨value, others, rfl, rfl, rfl⟩

/-- By induction over the entries that are left, with those before them as the reason for
the locks. -/
theorem forall₂_keptUnder_of_split {before rest : Mapping} {early late : List (Option (Key × Tree))}
    (split : entries = before ++ rest) (distinct : (Entries.keys entries).Nodup)
    (first : settings.firstChoices path (settings.lockedBy (fun _ => false) before) rest = .ok early)
    (second : rest.mapM (settings.secondChoice path entries
      (settings.lockedBy (fun _ => false) entries)) = .ok late) :
    List.Forall₂
      (fun entry kept => settings.KeptUnder path entry (settings.target? entries entry.1) kept)
      rest (List.zipWith Option.or early late) := by
  induction rest generalizing before early late with
  | nil =>
      cases first
      exact .nil
  | cons entry rest inductionHypothesis =>
      rcases firstChoices_cons_eq_ok_iff.mp first with ⟨kept, others, here, later, same⟩
      rcases except_mapM_cons_eq_ok second with ⟨kept', others', there, later', same'⟩
      have before_eq : settings.lockedBefore entries entry.1 =
          settings.lockedBy (fun _ => false) before := by
        rw [split] at distinct ⊢
        exact lockedBefore_eq distinct
      have splitNext : entries = (before ++ [entry]) ++ rest := by
        rw [split, List.append_assoc, List.singleton_append]
      have firstNext : settings.firstChoices path
          (settings.lockedBy (fun _ => false) (before ++ [entry])) rest = .ok others := by
        rw [lockedBy_append, lockedBy_cons, lockedBy_nil]
        exact later
      rw [same, same', List.zipWith_cons_cons]
      refine .cons ?_ (inductionHypothesis splitNext firstNext later')
      rw [target?, before_eq]
      rcases firstChoice_eq_ok here with ⟨noTarget, notKept⟩ | ⟨key, value, target, resolved, isKept⟩
      · rw [noTarget, notKept, Option.none_or, Option.none_or]
        rcases secondChoice_eq_ok there with
          ⟨noTarget', notKept'⟩ | ⟨base, value, target, resolved, isKept⟩
        · left
          rw [noTarget', Option.map_none]
          exact ⟨rfl, notKept'⟩
        · right
          rw [target, Option.map_some]
          exact ⟨.name base, value, rfl, resolved, isKept⟩
      · right
        rw [target, isKept, Option.some_or, Option.some_or]
        exact ⟨key, value, rfl, resolved, rfl⟩

/-- Every entry is kept under its target, in the order of the mapping. -/
theorem Chosen.forall₂_keptUnder {early late : List (Option (Key × Tree))}
    (chosen : settings.Chosen path entries early late) (distinct : (Entries.keys entries).Nodup) :
    List.Forall₂
      (fun entry kept => settings.KeptUnder path entry (settings.target? entries entry.1) kept)
      entries (List.zipWith Option.or early late) :=
  forall₂_keptUnder_of_split (List.nil_append entries).symm distinct chosen.first chosen.second

section

variable {targets : Key → Option Key} {kept : List (Option (Key × Tree))}

theorem keys_of_forall₂_keptUnder
    (keeps : List.Forall₂ (fun entry kept => settings.KeptUnder path entry (targets entry.1) kept)
      entries kept) :
    Entries.keys (kept.filterMap id) = entries.filterMap fun entry => targets entry.1 := by
  induction keeps with
  | nil => rfl
  | cons here rest inductionHypothesis =>
      rcases here with ⟨noTarget, notKept⟩ | ⟨key, value, target, _, isKept⟩
      · rw [List.filterMap_cons_none notKept, List.filterMap_cons, noTarget, inductionHypothesis]
      · rw [List.filterMap_cons_some isKept, List.filterMap_cons, target, Entries.keys_cons,
          inductionHypothesis]

theorem filterMap_of_forall₂_keptUnder
    (keeps : List.Forall₂ (fun entry kept => settings.KeptUnder path entry (targets entry.1) kept)
      entries kept) :
    kept.filterMap id = entries.filterMap fun entry =>
      (targets entry.1).bind fun key =>
        (settings.resolve entry.2).toOption.map fun value => (key, value) := by
  induction keeps with
  | nil => rfl
  | cons here rest inductionHypothesis =>
      rcases here with ⟨noTarget, notKept⟩ | ⟨key, value, target, resolved, isKept⟩
      · rw [List.filterMap_cons_none notKept, List.filterMap_cons, noTarget, Option.bind_none,
          inductionHypothesis]
      · rw [List.filterMap_cons_some isKept, List.filterMap_cons, target, Option.bind_some,
          resolveApart_eq_ok resolved, inductionHypothesis]
        rfl

/-- The last entry kept under a key gives the value. -/
theorem get?_reverse_of_forall₂_keptUnder
    (keeps : List.Forall₂ (fun entry kept => settings.KeptUnder path entry (targets entry.1) kept)
      entries kept) (key : Key) :
    (Entries.get? (kept.filterMap id).reverse key).map .ok =
      (entries.reverse.find? fun entry => targets entry.1 == some key).map fun entry =>
        settings.resolve entry.2 := by
  induction keeps with
  | nil => rfl
  | @cons entry _ _ _ here rest inductionHypothesis =>
      rw [List.reverse_cons, List.find?_append, Option.map_or, ← inductionHypothesis]
      rcases here with ⟨noTarget, notKept⟩ | ⟨target, value, isTarget, resolved, isKept⟩
      · rw [List.filterMap_cons_none notKept, List.find?_singleton, noTarget,
          if_neg (by simp), Option.map_none, Option.or_none]
      · rw [List.filterMap_cons_some isKept, List.reverse_cons, Entries.get?_append, Option.map_or,
          Entries.get?_cons, Entries.get?_nil, List.find?_singleton, isTarget]
        by_cases same : target = key
        · rw [if_pos same, if_pos (by simp [same]), Option.map_some, Option.map_some,
            resolveApart_eq_ok resolved]
        · rw [if_neg same, if_neg (by simp [same]), Option.map_none, Option.map_none]

end

end Settings
end Resolution
end TaggedContent
