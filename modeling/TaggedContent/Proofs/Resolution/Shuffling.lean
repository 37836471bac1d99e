import TaggedContent.Proofs.Resolution.Aliases
import TaggedContent.Proofs.Resolution.Assembly
import TaggedContent.Proofs.Resolution.Relocation
import TaggedContent.Proofs.Tree.Rearranged

namespace TaggedContent
namespace Resolution

/-!
# The two groups of entries do not see each other's places

Entries that the first pass decides and entries that the second decides may be
interleaved in any way, and comments may stand anywhere: a mapping is resolved in
lockstep with any other that has the same entries in either group.  Each pass takes the
same steps on both sides, apart from entries that it goes past, and no key is kept by
both passes.  So what is assembled holds the same under every key.
-/

/-- The entries of either group are the same on both sides, in the same order, at every
depth.  Nothing is said about how the groups are interleaved, nor about comments. -/
inductive Settings.Shuffled (settings : Settings) : Tree → Tree → Prop where
  | scalar {tree : Tree} (isScalar : tree.IsScalar) : Shuffled settings tree tree
  | sequence {items items' : List Tree} (values : List.Forall₂ (Shuffled settings) items items') :
      Shuffled settings (.sequence items) (.sequence items')
  | mapping {entries entries' : Mapping}
      (firstKeys : Entries.keys (entries.filter fun entry => settings.decidesFirst entry.1) =
        Entries.keys (entries'.filter fun entry => settings.decidesFirst entry.1))
      (firstValues : List.Forall₂ (fun entry entry' => Shuffled settings entry.2 entry'.2)
        (entries.filter fun entry => settings.decidesFirst entry.1)
        (entries'.filter fun entry => settings.decidesFirst entry.1))
      (secondKeys : Entries.keys (entries.filter fun entry => settings.decidesSecond entry.1) =
        Entries.keys (entries'.filter fun entry => settings.decidesSecond entry.1))
      (secondValues : List.Forall₂ (fun entry entry' => Shuffled settings entry.2 entry'.2)
        (entries.filter fun entry => settings.decidesSecond entry.1)
        (entries'.filter fun entry => settings.decidesSecond entry.1)) :
      Shuffled settings (.mapping entries) (.mapping entries')

namespace Settings.Shuffled

variable {settings : Settings} {tree tree' : Tree} {entries entries' : Mapping}

theorem isSequence_eq (shuffled : settings.Shuffled tree tree') :
    tree.isSequence = tree'.isSequence := by
  cases shuffled <;> rfl

theorem patternText?_eq (shuffled : settings.Shuffled tree tree') :
    Parameter.patternText? tree = Parameter.patternText? tree' := by
  cases shuffled <;> rfl

/-- The resolvers find the same pattern in the same field, for fields are plain. -/
theorem fieldPattern_eq
    (second : Entries.Alike settings.Shuffled
      (entries.filter fun entry => settings.decidesSecond entry.1)
      (entries'.filter fun entry => settings.decidesSecond entry.1))
    {field : String} (clean : '@' ∉ field.toList) :
    (Entries.get? entries (.name field)).bind Parameter.patternText? =
      (Entries.get? entries' (.name field)).bind Parameter.patternText? := by
  have plain : settings.decidesSecond (.name field) = true := by
    simp only [Settings.decidesSecond, Tag.ofKey_of_clean settings.table clean]
  have found := second.byKey (.name field)
  rw [Entries.get?_filter, Entries.get?_filter, if_pos plain, if_pos plain] at found
  generalize Entries.get? entries (.name field) = value,
    Entries.get? entries' (.name field) = value' at found ⊢
  cases found with
  | none => rfl
  | some same => exact same.patternText?_eq

end Settings.Shuffled

namespace Walk

/-! ## Lists that differ in what is gone past -/

/-- The visited elements of both lists come in pairs, one pair after the other. -/
inductive Aligned (visits : α → Bool) (paired : α → α → Prop) : List α → List α → Prop where
  | nil : Aligned visits paired [] []
  | both {head head' : α} {tail tail' : List α} (pair : paired head head')
      (rest : Aligned visits paired tail tail') :
      Aligned visits paired (head :: tail) (head' :: tail')
  | left {head : α} {tail list' : List α} (skipped : visits head = false)
      (rest : Aligned visits paired tail list') : Aligned visits paired (head :: tail) list'
  | right {head : α} {list tail' : List α} (skipped : visits head = false)
      (rest : Aligned visits paired list tail') : Aligned visits paired list (head :: tail')

theorem aligned_of_filter {visits : α → Bool} {paired : α → α → Prop} {list list' : List α}
    (pairs : List.Forall₂ paired (list.filter visits) (list'.filter visits)) :
    Aligned visits paired list list' := by
  induction list generalizing list' with
  | nil =>
      rw [List.filter_nil, List.forall₂_nil_left_iff, List.filter_eq_nil_iff] at pairs
      induction list' with
      | nil => exact .nil
      | cons head tail inductionHypothesis =>
          rw [List.forall_mem_cons, Bool.not_eq_true] at pairs
          exact .right pairs.1 (inductionHypothesis pairs.2)
  | cons head tail inductionHypothesis =>
      cases here : visits head with
      | false =>
          rw [List.filter_cons_of_neg (by simp [here])] at pairs
          exact .left here (inductionHypothesis pairs)
      | true =>
          rw [List.filter_cons_of_pos here] at pairs
          -- The partner of the head comes after all that the right list has to go past.
          induction list' with
          | nil => cases pairs
          | cons head' tail' later =>
              cases there : visits head' with
              | false =>
                  rw [List.filter_cons_of_neg (by simp [there])] at pairs
                  exact .right there (later pairs)
              | true =>
                  rw [List.filter_cons_of_pos there] at pairs
                  cases pairs with
                  | cons pair rest => exact .both pair (inductionHypothesis rest)

/-- Steps over aligned lists are in lockstep when the paired ones are, and nothing is
kept of the elements that are gone past. -/
theorem lockstep_aligned {related : Progress → Progress → Prop}
    {failures : InvalidPattern → InvalidPattern → Prop} {visits : α → Bool}
    {step step' : α → Walk (Option β)} {same : β → β → Prop} {list list' : List α}
    (aligned : Aligned visits (fun head head' => Lockstep related (step head) (step' head')
      (fun kept kept' first second => Option.Rel same kept kept' ∧ related first second) failures)
      list list')
    (passes : ∀ element, visits element = false → ∀ first second, related first second →
      ∃ last, (step element).outcome first = (.ok none, last) ∧ related last second)
    (passes' : ∀ element, visits element = false → ∀ first second, related first second →
      ∃ last, (step' element).outcome second = (.ok none, last) ∧ related first last) :
    Lockstep related (list.mapM step) (list'.mapM step')
      (fun values values' first second =>
        List.Forall₂ same (values.filterMap id) (values'.filterMap id) ∧ related first second)
      failures := by
  induction aligned with
  | nil => exact Lockstep.pure fun _ _ holds => ⟨.nil, holds⟩
  | both pair rest inductionHypothesis =>
      rw [List.mapM_cons, List.mapM_cons]
      refine pair.bind fun kept kept' => Lockstep.given fun alike => ?_
      refine inductionHypothesis.bind fun values values' => Lockstep.pure fun _ _ holds => ⟨?_, holds.2⟩
      cases alike with
      | none => exact holds.1
      | some here => exact .cons here holds.1
  | @left head tail list' skipped rest inductionHypothesis =>
      rw [List.mapM_cons, ← bind_pure (list'.mapM step')]
      have skips : ∀ first second, related first second → ∃ kept last,
          (step head).outcome first = (.ok kept, last) ∧ (kept = none ∧ related last second) := by
        intro first second holds
        rcases passes head skipped first second holds with ⟨last, passed, kept⟩
        exact ⟨none, last, passed, rfl, kept⟩
      refine Lockstep.bind_left skips fun kept => Lockstep.given fun nothing => ?_
      subst nothing
      exact inductionHypothesis.bind fun _ _ => Lockstep.pure fun _ _ holds => holds
  | @right head list tail' skipped rest inductionHypothesis =>
      rw [List.mapM_cons, ← bind_pure (list.mapM step)]
      have skips : ∀ first second, related first second → ∃ kept last,
          (step' head).outcome second = (.ok kept, last) ∧ (kept = none ∧ related first last) := by
        intro first second holds
        rcases passes' head skipped first second holds with ⟨last, passed, kept⟩
        exact ⟨none, last, passed, rfl, kept⟩
      refine Lockstep.bind_right skips fun kept => Lockstep.given fun nothing => ?_
      subst nothing
      exact inductionHypothesis.bind fun _ _ => Lockstep.pure fun _ _ holds => holds

/-! ## The passes over shuffled entries -/

/-- Both walks come to the same tree up to the order of entries, or to the same failure.
They start and end with the same locks and marks at every path, which is what `Shifted`
says of the root. -/
abbrev Rearranges (left right : Walk Tree) : Prop :=
  Lockstep (Shifted .root .initial) left right
    (fun value value' first second =>
      value.Rearranged value' ∧ Shifted .root .initial first second) Eq

/-- The entries have the same key, and their values are resolved in lockstep. -/
structure Twins (settings : Settings) (path : Path) (entry entry' : Key × Tree) : Prop where
  key : entry.1 = entry'.1
  sequence : entry.2.isSequence = entry'.2.isSequence
  values : Rearranges (resolveChild settings path entry) (resolveChild settings path entry')

/-- Both passes over the entries, with what either keeps. -/
def bothPasses (settings : Settings) (path : Path) (below : Key × Tree → Walk Tree)
    (entries : Mapping) : Walk (List (Option (Key × Tree)) × List (Option (Key × Tree))) := do
  let first ← entries.mapM fun entry => firstEntry settings path entry.1 (below entry)
  let second ← entries.mapM fun entry =>
    secondEntry settings path entries entry.1 entry.2 (below entry)
  return (first, second)

theorem resolveEntries_eq_bothPasses (settings : Settings) (path : Path)
    (below : Key × Tree → Walk Tree) (entries : Mapping) :
    resolveEntries settings path below entries =
      bothPasses settings path below entries >>= fun kept =>
        restoreAliases path (assemble kept.1 kept.2) := by
  simp only [resolveEntries, bothPasses, bind_assoc, pure_bind]

section

variable {settings : Settings} {path : Path} {entries entries' : Mapping}

theorem firstPass_shuffled
    (twins : List.Forall₂ (Twins settings path)
      (entries.filter fun entry => settings.decidesFirst entry.1)
      (entries'.filter fun entry => settings.decidesFirst entry.1)) :
    Lockstep (Shifted .root .initial)
      (entries.mapM fun entry => firstEntry settings path entry.1 (resolveChild settings path entry))
      (entries'.mapM fun entry => firstEntry settings path entry.1 (resolveChild settings path entry))
      (fun early early' first second =>
        Entries.Alike Tree.Rearranged (early.filterMap id) (early'.filterMap id) ∧
          Shifted .root .initial first second) Eq := by
  have mirrors : Mirrors (Shifted .root .initial) path path := Shifted.mirrors .root .initial path
  refine lockstep_aligned (aligned_of_filter (twins.imp fun entry entry' twin => ?_)) ?_ ?_
  · rw [← twin.key]
    exact mirrors.lockstep_firstEntry (fun _ _ => rfl) (fun _ _ => id) entry.1
      (fun name _ => .refl settings name) fun _ => twin.values
  · intro entry skipped first second holds
    rcases outcome_firstEntry_of_not_decidesFirst skipped (resolveChild settings path entry) first
      with ⟨last, passed, idle⟩
    exact ⟨last, passed, holds.idle idle (.refl second)⟩
  · intro entry skipped first second holds
    rcases outcome_firstEntry_of_not_decidesFirst skipped (resolveChild settings path entry) second
      with ⟨last, passed, idle⟩
    exact ⟨last, passed, holds.idle (.refl first) idle⟩

theorem secondPass_shuffled {node node' : Mapping}
    (sameFields : ∀ field : String, '@' ∉ field.toList →
      (Entries.get? node (.name field)).bind Parameter.patternText? =
        (Entries.get? node' (.name field)).bind Parameter.patternText?)
    (twins : List.Forall₂ (Twins settings path)
      (entries.filter fun entry => settings.decidesSecond entry.1)
      (entries'.filter fun entry => settings.decidesSecond entry.1)) :
    Lockstep (Shifted .root .initial)
      (entries.mapM fun entry => secondEntry settings path node entry.1 entry.2
        (resolveChild settings path entry))
      (entries'.mapM fun entry => secondEntry settings path node' entry.1 entry.2
        (resolveChild settings path entry))
      (fun late late' first second =>
        Entries.Alike Tree.Rearranged (late.filterMap id) (late'.filterMap id) ∧
          Shifted .root .initial first second) Eq := by
  have mirrors : Mirrors (Shifted .root .initial) path path := Shifted.mirrors .root .initial path
  refine lockstep_aligned (aligned_of_filter (twins.imp fun entry entry' twin => ?_)) ?_ ?_
  · rw [← twin.key]
    exact mirrors.lockstep_secondEntry mirrors (fun _ _ => rfl) (fun _ _ => id) sameFields entry.1
      (fun name _ => .refl settings name) twin.sequence fun _ => twin.values
  · intro entry skipped first second holds
    rw [secondEntry_of_not_decidesSecond skipped]
    exact ⟨first, rfl, holds⟩
  · intro entry skipped first second holds
    rw [secondEntry_of_not_decidesSecond skipped]
    exact ⟨second, rfl, holds⟩

theorem bothPasses_shuffled
    (sameFields : ∀ field : String, '@' ∉ field.toList →
      (Entries.get? entries (.name field)).bind Parameter.patternText? =
        (Entries.get? entries' (.name field)).bind Parameter.patternText?)
    (first : List.Forall₂ (Twins settings path)
      (entries.filter fun entry => settings.decidesFirst entry.1)
      (entries'.filter fun entry => settings.decidesFirst entry.1))
    (second : List.Forall₂ (Twins settings path)
      (entries.filter fun entry => settings.decidesSecond entry.1)
      (entries'.filter fun entry => settings.decidesSecond entry.1)) :
    Lockstep (Shifted .root .initial)
      (bothPasses settings path (resolveChild settings path) entries)
      (bothPasses settings path (resolveChild settings path) entries')
      (fun kept kept' first second =>
        (Entries.Alike Tree.Rearranged (kept.1.filterMap id) (kept'.1.filterMap id) ∧
          Entries.Alike Tree.Rearranged (kept.2.filterMap id) (kept'.2.filterMap id)) ∧
          Shifted .root .initial first second) Eq := by
  refine (firstPass_shuffled first).bind fun early early' => Lockstep.given fun alike => ?_
  refine (secondPass_shuffled sameFields second).bind fun late late' => ?_
  exact Lockstep.pure fun _ _ holds => ⟨⟨alike, holds.1⟩, holds.2⟩

/-- What both passes come to is assembled key by key. -/
theorem get?_assemble_of_bothPasses {start last : Progress}
    {kept : List (Option (Key × Tree)) × List (Option (Key × Tree))}
    (sound : start.patterns.Sound)
    (success : (bothPasses settings path (resolveChild settings path) entries).outcome start =
      (.ok kept, last)) (key : Key) :
    Entries.get? (assemble kept.1 kept.2) key =
      (Entries.get? (kept.1.filterMap id).reverse key).or
        (Entries.get? (kept.2.filterMap id).reverse key) := by
  rcases outcome_bind_eq_ok success with ⟨early, middle, first, success⟩
  rcases outcome_bind_eq_ok success with ⟨late, after, second, success⟩
  cases success
  exact get?_assemble_of_steps (keepsLocks_resolveChild settings path entries) sound
    (steps_of_outcome_mapM first) (steps_of_outcome_mapM second) key

/-- Mappings that hold rearranged values under every key do so when their aliases have been
restored. -/
theorem restoreAliases_shuffled (distinct : (Entries.keys entries).Nodup)
    (distinct' : (Entries.keys entries').Nodup)
    (alike : Entries.AlikeByKey Tree.Rearranged entries entries') :
    Lockstep (Shifted .root .initial) (restoreAliases path entries) (restoreAliases path entries')
      (fun kept kept' first second => (Tree.mapping kept).Rearranged (.mapping kept') ∧
        Shifted .root .initial first second) Eq := by
  intro first second holds
  have mirrors : Mirrors (Shifted .root .initial) path path := Shifted.mirrors .root .initial path
  rcases outcome_restoreAliases path entries first with ⟨last, restored, idle⟩
  rcases outcome_restoreAliases path entries' second with ⟨last', restored', idle'⟩
  rw [restored, restored', mirrors.marked holds]
  have aliased := alikeByKey_addAliases (fun _ _ => Tree.Rearranged.isSequence_eq)
    (second.marks.keysAt path) alike
  exact ⟨.of_alikeByKey (nodup_keys_addAliases _ distinct) (nodup_keys_addAliases _ distinct') aliased,
    mirrors.idle (mirrors.forget holds) idle idle'⟩

theorem resolveEntries_shuffled
    (sameFields : ∀ field : String, '@' ∉ field.toList →
      (Entries.get? entries (.name field)).bind Parameter.patternText? =
        (Entries.get? entries' (.name field)).bind Parameter.patternText?)
    (first : List.Forall₂ (Twins settings path)
      (entries.filter fun entry => settings.decidesFirst entry.1)
      (entries'.filter fun entry => settings.decidesFirst entry.1))
    (second : List.Forall₂ (Twins settings path)
      (entries.filter fun entry => settings.decidesSecond entry.1)
      (entries'.filter fun entry => settings.decidesSecond entry.1)) :
    Lockstep (Shifted .root .initial)
      (resolveEntries settings path (resolveChild settings path) entries)
      (resolveEntries settings path (resolveChild settings path) entries')
      (fun kept kept' first second => (Tree.mapping kept).Rearranged (.mapping kept') ∧
        Shifted .root .initial first second) Eq := by
  rw [resolveEntries_eq_bothPasses, resolveEntries_eq_bothPasses]
  refine (bothPasses_shuffled sameFields first second).traced.bind fun kept kept' =>
    Lockstep.given fun ⟨start, start', last, last', holds, passes, passes'⟩ =>
      Lockstep.given fun alike => ?_
  have assembled : Entries.AlikeByKey Tree.Rearranged (assemble kept.1 kept.2)
      (assemble kept'.1 kept'.2) := by
    intro key
    have early := Entries.Alike.byKey (List.rel_reverse alike.1) key
    have late := Entries.Alike.byKey (List.rel_reverse alike.2) key
    rw [get?_assemble_of_bothPasses holds.sound.1 passes,
      get?_assemble_of_bothPasses holds.sound.2 passes']
    generalize Entries.get? (kept.1.filterMap id).reverse key = found,
      Entries.get? (kept'.1.filterMap id).reverse key = found' at early ⊢
    cases early with
    | none => exact late
    | some same => exact .some same
  exact restoreAliases_shuffled (Entries.nodup_keys_ofPairs _) (Entries.nodup_keys_ofPairs _) assembled

/-- Entries with shuffled values are twins when these are resolved in lockstep. -/
theorem twins_of_alike (path : Path) (alike : Entries.Alike settings.Shuffled entries entries')
    (values : ∀ entry ∈ entries, ∀ tree' path, settings.Shuffled entry.2 tree' →
      Rearranges (resolveTree settings path entry.2) (resolveTree settings path tree')) :
    List.Forall₂ (Twins settings path) entries entries' := by
  refine ((List.forall₂_and_left _ _).mpr ⟨values, alike⟩).imp ?_
  rintro entry entry' ⟨lockstep, sameKey, shuffled⟩
  refine ⟨sameKey, shuffled.isSequence_eq, ?_⟩
  rw [resolveChild, resolveChild, ← sameKey]
  exact lockstep entry'.2 (path.child entry.1) shuffled

end

/-- Shuffled trees are resolved in lockstep. -/
theorem resolveTree_shuffled (settings : Settings) (tree tree' : Tree) (path : Path)
    (shuffled : settings.Shuffled tree tree') :
    Rearranges (resolveTree settings path tree) (resolveTree settings path tree') := by
  induction tree using Tree.induction generalizing tree' path with
  | scalar tree scalar =>
      cases shuffled with
      | scalar =>
          rw [resolveTree_scalar _ _ scalar]
          exact Lockstep.pure fun _ _ holds => ⟨.scalar scalar, holds⟩
      | sequence | mapping => cases scalar
  | sequence items inductionHypothesis =>
      cases shuffled with
      | scalar scalar => cases scalar
      | @sequence _ items' values =>
          have twins : List.Forall₂ (Twins settings path) (Tree.positioned items 0)
              (Tree.positioned items' 0) :=
            twins_of_alike path (Tree.alike_positioned values 0) fun entry member =>
              inductionHypothesis entry.2 (Tree.mem_of_mem_positioned member)
          rw [resolveTree_sequence, resolveTree_sequence, map_eq_pure_bind, map_eq_pure_bind]
          have resolved := Lockstep.mapM (twins.imp fun _ _ twin => twin.values)
          exact resolved.bind fun _ _ =>
            Lockstep.pure fun _ _ holds => ⟨.sequence holds.1, holds.2⟩
  | mapping entries inductionHypothesis =>
      cases shuffled with
      | scalar scalar => cases scalar
      | @mapping _ entries' firstKeys firstValues secondKeys secondValues =>
          have first := Entries.alike_iff.mpr ⟨firstKeys, firstValues⟩
          have second := Entries.alike_iff.mpr ⟨secondKeys, secondValues⟩
          have visited : ∀ visits : Key × Tree → Bool, ∀ entry ∈ entries.filter visits,
              ∀ tree' path, settings.Shuffled entry.2 tree' →
                Rearranges (resolveTree settings path entry.2) (resolveTree settings path tree') :=
            fun visits entry member => inductionHypothesis entry (List.mem_of_mem_filter member)
          rw [resolveTree_mapping, resolveTree_mapping, map_eq_pure_bind, map_eq_pure_bind]
          have passes := resolveEntries_shuffled
            (fun field clean => Settings.Shuffled.fieldPattern_eq second clean)
            (twins_of_alike path first (visited _)) (twins_of_alike path second (visited _))
          exact passes.bind fun _ _ => Lockstep.pure fun _ _ holds => holds

end Walk

/-- How locale entries and the others are interleaved never matters: shuffled trees come to
the same failure, or to the same tree up to the order of entries. -/
theorem Settings.resolve_shuffled {settings : Settings} {tree tree' : Tree}
    (shuffled : settings.Shuffled tree tree') :
    (∃ error, settings.resolve tree = .error error ∧ settings.resolve tree' = .error error) ∨
      ∃ result result', settings.resolve tree = .ok result ∧ settings.resolve tree' = .ok result' ∧
        result.Rearranged result' := by
  have lockstep := Walk.resolveTree_shuffled settings tree tree' .root shuffled .initial .initial
    (Progress.freshBelow_initial .root).shifted
  rw [Settings.resolve_eq_outcome, Settings.resolve_eq_outcome]
  revert lockstep
  rcases (Walk.resolveTree settings .root tree).outcome .initial with ⟨error | result, last⟩ <;>
    rcases (Walk.resolveTree settings .root tree').outcome .initial with ⟨error' | result', last'⟩
  · exact fun same => Or.inl ⟨error, rfl, congrArg Except.error same.symm⟩
  · exact False.elim
  · exact False.elim
  · exact fun holds => Or.inr ⟨result, result', rfl, rfl, holds.1⟩

/-- A plain entry, a locale entry for the same key, and a comment, in either order, below
another mapping. -/
theorem Settings.resolve_shuffled_titles :
    let settings : Settings := ⟨some "fr", none⟩
    let before : Tree := .mapping [(.name "page", .mapping [(.name "title@fr", .string "Bonjour"),
      (.name "title", .string "Hello"), (.name "note@#", .null)])]
    let after : Tree := .mapping [(.name "page", .mapping [(.name "title", .string "Hello"),
      (.name "title@fr", .string "Bonjour")])]
    settings.Shuffled before after ∧
      ∃ result result', settings.resolve before = .ok result ∧ settings.resolve after = .ok result' ∧
        result.Rearranged result' := by
  intro settings before after
  have shuffled : settings.Shuffled before after :=
    .mapping rfl .nil rfl (.cons (.mapping rfl (.cons (.scalar trivial) .nil) rfl
      (.cons (.scalar trivial) .nil)) .nil)
  have succeeds : (settings.resolve before).isOk = true := by decide +kernel
  refine ⟨shuffled, (Settings.resolve_shuffled shuffled).resolve_left ?_⟩
  rintro ⟨error, failed, _⟩
  rw [failed] at succeeds
  cases succeeds

end Resolution
end TaggedContent
