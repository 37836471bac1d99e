import TaggedContent.Proofs.Resolution.Relocation

namespace TaggedContent

/-!
# Leaving entries out

An entry is inapplicable when its name alone decides that it is dropped: a comment, a
locale entry that is marked or whose pattern does not match, and a parameterized entry
without a resolver.  Both passes go past such an entry without visiting its value.  A
tree from which inapplicable entries are left out, at any depth, is resolved in
lockstep with the whole tree.
-/

def Key.isAmong (names : String → Bool) : Key → Bool
  | .name text => names text
  | .index _ => false

namespace Tree

mutual

/-- The tree without the entries, at any depth, that have one of these names. -/
def without (names : String → Bool) : Tree → Tree
  | .mapping entries => .mapping (withoutEntries names entries)
  | .sequence items => .sequence (withoutItems names items)
  | scalar => scalar

def withoutItems (names : String → Bool) : List Tree → List Tree
  | [] => []
  | item :: items => item.without names :: withoutItems names items

def withoutEntries (names : String → Bool) : List (Key × Tree) → List (Key × Tree)
  | [] => []
  | (key, value) :: rest =>
      if key.isAmong names then withoutEntries names rest
      else (key, value.without names) :: withoutEntries names rest

end

variable (names : String → Bool)

theorem withoutItems_eq_map (items : List Tree) :
    withoutItems names items = items.map (without names) := by
  induction items with
  | nil => rfl
  | cons item items inductionHypothesis =>
      rw [withoutItems, inductionHypothesis, List.map_cons]

theorem withoutEntries_eq_map (entries : Mapping) :
    withoutEntries names entries =
      (entries.filter fun entry => !entry.1.isAmong names).map fun entry =>
        (entry.1, entry.2.without names) := by
  induction entries with
  | nil => rfl
  | cons entry rest inductionHypothesis =>
      rcases entry with ⟨key, value⟩
      rw [withoutEntries, inductionHypothesis]
      cases among : key.isAmong names with
      | true => rw [if_pos rfl, List.filter_cons_of_neg (by simp [among])]
      | false =>
          rw [if_neg Bool.false_ne_true, List.filter_cons_of_pos (by simp [among]), List.map_cons]

theorem without_of_isScalar {tree : Tree} (scalar : tree.IsScalar) :
    tree.without names = tree := by
  cases tree <;> first | rfl | cases scalar

theorem isSequence_without (tree : Tree) : (tree.without names).isSequence = tree.isSequence := by
  cases tree <;> rfl

theorem patternText?_without (tree : Tree) :
    Parameter.patternText? (tree.without names) = Parameter.patternText? tree := by
  cases tree <;> rfl

theorem positioned_withoutItems (items : List Tree) (start : Nat) :
    positioned (withoutItems names items) start =
      (positioned items start).map fun entry => (entry.1, entry.2.without names) := by
  induction items generalizing start with
  | nil => rfl
  | cons item items inductionHypothesis =>
      rw [withoutItems, positioned_cons, positioned_cons, inductionHypothesis, List.map_cons]

/-- A field that is not left out holds the same pattern. -/
theorem fieldPattern_withoutEntries (entries : Mapping) {field : String}
    (kept : names field = false) :
    (Entries.get? (withoutEntries names entries) (.name field)).bind Parameter.patternText? =
      (Entries.get? entries (.name field)).bind Parameter.patternText? := by
  induction entries with
  | nil => rfl
  | cons entry rest inductionHypothesis =>
      rcases entry with ⟨key, value⟩
      rw [withoutEntries, Entries.get?_cons]
      by_cases here : key = .name field
      · subst here
        have stays : (Key.name field).isAmong names = false := kept
        rw [stays, if_neg Bool.false_ne_true, Entries.get?_cons, if_pos rfl, if_pos rfl]
        exact patternText?_without names value
      · rw [if_neg here, ← inductionHypothesis]
        split
        · rfl
        · rw [Entries.get?_cons, if_neg here]

end Tree

namespace Resolution

/-- The name alone decides that an entry with it is dropped. -/
def Settings.Inapplicable (settings : Settings) (name : String) : Prop :=
  match Tag.ofKey settings.table name with
  | .comment => True
  | .tagged ⟨_, _, .plain⟩ => False
  | .tagged ⟨_, marked, .locale _ pattern⟩ =>
      marked = true ∨ ∀ locale, settings.locale = some locale →
        Pattern.verdict pattern locale = .ok false
  | .tagged ⟨_, _, .parameter _ parameter _⟩ => settings.resolver? parameter = none

/-- Every name is inapplicable under the left settings, or is read alike by both and
not left out. -/
structure Settings.Thins (left right : Settings) (names : String → Bool) : Prop where
  leftOut {name : String} (among : names name = true) : left.Inapplicable name
  kept {name : String} (stays : names name = false) : left.ReadsAlike right name

/-- No field that a resolver can look up is left out. -/
theorem Settings.Thins.stays {left right : Settings} {names : String → Bool}
    (thins : left.Thins right names) {field : String} (clean : '@' ∉ field.toList) :
    names field = false := by
  cases among : names field with
  | false => rfl
  | true =>
      have dropped := thins.leftOut among
      rw [Settings.Inapplicable, Tag.ofKey_of_clean left.table clean] at dropped
      cases dropped

namespace Walk

variable {settings : Settings} {path : Path}

/-! ## Going past an inapplicable entry -/

theorem selectLocale_of_mismatch {key base pattern : String} {marked : Bool}
    (mismatch : marked = true ∨ ∀ locale, settings.locale = some locale →
      Pattern.verdict pattern locale = .ok false)
    {progress : Progress} (sound : progress.patterns.Sound) :
    ∃ last, (selectLocale settings path key base pattern marked).outcome progress =
        (.ok false, last) ∧ progress.Idle last := by
  rw [selectLocale, outcome_bind_of_ok (outcome_isLocked path key progress)]
  cases progress.locks.isLocked path key with
  | true => exact outcome_drop path key _ false progress
  | false =>
      cases marked with
      | true => exact outcome_drop path key _ false progress
      | false =>
          have rejected := mismatch.resolve_left Bool.false_ne_true
          simp only [Bool.false_eq_true, if_false]
          cases given : settings.locale with
          | none => exact ⟨progress, rfl, .refl progress⟩
          | some locale =>
              have answers := Pattern.Cache.fullMatch_answers pattern locale progress.patterns sound
              have matched := outcome_withPatterns path key (·.fullMatch pattern locale) progress
              rw [answers.1, rejected locale given] at matched
              rcases outcome_drop path key (.localeMismatch locale) false
                  { progress with patterns := (progress.patterns.fullMatch pattern locale).2 } with
                ⟨last, dropped, idle⟩
              refine ⟨last, (outcome_bind_of_ok matched _).trans dropped, idle.locks, idle.marks, ?_⟩
              exact fun _ => idle.patterns answers.2

theorem firstEntry_of_inapplicable {name : String} (inapplicable : settings.Inapplicable name)
    (below : Walk Tree) {progress : Progress} (sound : progress.patterns.Sound) :
    ∃ last, (firstEntry settings path (.name name) below).outcome progress = (.ok none, last) ∧
      progress.Idle last := by
  rcases outcome_reportNearMiss settings name progress with ⟨noticed, reported, idle⟩
  rw [Settings.Inapplicable] at inapplicable
  dsimp only [firstEntry]
  rw [outcome_bind_of_ok reported]
  cases tagged : Tag.ofKey settings.table name with
  | comment =>
      rcases outcome_drop path name .comment none noticed with ⟨last, dropped, later⟩
      exact ⟨last, dropped, idle.trans later⟩
  | tagged key =>
      rcases key with ⟨stripped, marked, form⟩
      cases form with
      | plain => exact ⟨noticed, rfl, idle⟩
      | parameter base parameter argument => exact ⟨noticed, rfl, idle⟩
      | locale base pattern =>
          rw [tagged] at inapplicable
          rcases selectLocale_of_mismatch inapplicable (idle.patterns sound) with
            ⟨last, decided, later⟩
          exact ⟨last, outcome_bind_of_ok decided _, idle.trans later⟩

theorem secondEntry_of_inapplicable {name : String} (inapplicable : settings.Inapplicable name)
    (node : Mapping) (value : Tree) (below : Walk Tree) (progress : Progress) :
    ∃ last, (secondEntry settings path node (.name name) value below).outcome progress =
        (.ok none, last) ∧ progress.Idle last := by
  rw [Settings.Inapplicable] at inapplicable
  dsimp only [secondEntry]
  cases tagged : Tag.ofKey settings.table name with
  | comment => exact ⟨progress, rfl, .refl progress⟩
  | tagged key =>
      rw [tagged] at inapplicable
      rcases key with ⟨stripped, marked, form⟩
      cases form with
      | plain => cases inapplicable
      | locale base pattern => exact ⟨progress, rfl, .refl progress⟩
      | parameter base parameter argument =>
          rcases outcome_mayTake path name base progress with ⟨middle, taken, idle⟩
          dsimp only at inapplicable ⊢
          rw [outcome_bind_of_ok taken, inapplicable]
          cases !(progress.locks.isLocked path name || progress.locks.isLocked path base) with
          | false => exact ⟨middle, rfl, idle⟩
          | true =>
              rcases outcome_drop path name (.noResolver parameter) none middle with
                ⟨last, dropped, later⟩
              exact ⟨last, dropped, idle.trans later⟩

/-! ## Passes over thinned entries -/

/-- The right list is the left one without the places of the entries that are left
out, where nothing is kept. -/
inductive Sifted (leftOut : α → Bool) :
    List α → List (Option β) → List (Option β) → Prop where
  | nil : Sifted leftOut [] [] []
  | stays {head : α} {tail : List α} {left right : List (Option β)} (kept : Option β)
      (here : leftOut head = false) (rest : Sifted leftOut tail left right) :
      Sifted leftOut (head :: tail) (kept :: left) (kept :: right)
  | goes {head : α} {tail : List α} {left right : List (Option β)}
      (here : leftOut head = true) (rest : Sifted leftOut tail left right) :
      Sifted leftOut (head :: tail) (none :: left) right

/-- Entries that nothing is kept of leave no trace in what is assembled. -/
theorem Sifted.assemble_eq {leftOut : α → Bool} {list : List α}
    {first first' second second' : List (Option (Key × Tree))}
    (early : Sifted leftOut list first first') (late : Sifted leftOut list second second') :
    assemble first second = assemble first' second' := by
  apply congrArg Entries.ofPairs
  induction early generalizing second second' with
  | nil =>
      cases late
      rfl
  | stays kept here rest inductionHypothesis =>
      cases late with
      | stays later _ others =>
          rw [List.zipWith_cons_cons, List.zipWith_cons_cons, List.filterMap_cons,
            List.filterMap_cons, inductionHypothesis others]
      | goes there _ => exact absurd (here.symm.trans there) Bool.false_ne_true
  | goes here rest inductionHypothesis =>
      cases late with
      | stays later there _ => exact absurd (there.symm.trans here) Bool.false_ne_true
      | goes _ others => exact inductionHypothesis others

/-- The steps of the entries that stay agree, and the others take a step without a
trace on the left alone. -/
theorem lockstep_sifted {related : Progress → Progress → Prop}
    {failures : InvalidPattern → InvalidPattern → Prop} {leftOut : α → Bool} {image : α → γ}
    {step : α → Walk (Option β)} {other : γ → Walk (Option β)} {list : List α}
    (stays : ∀ element ∈ list, leftOut element = false →
      Agree related (step element) (other (image element)) related failures)
    (goes : ∀ element ∈ list, leftOut element = true → ∀ first second, related first second →
      ∃ last, (step element).outcome first = (.ok none, last) ∧ related last second) :
    Lockstep related (list.mapM step)
      (((list.filter fun element => !leftOut element).map image).mapM other)
      (fun left right first second => Sifted leftOut list left right ∧ related first second)
      failures := by
  induction list with
  | nil => exact Lockstep.pure fun _ _ holds => ⟨.nil, holds⟩
  | cons head tail inductionHypothesis =>
      have rest := inductionHypothesis
        (fun element member => stays element (List.mem_cons_of_mem _ member))
        (fun element member => goes element (List.mem_cons_of_mem _ member))
      rw [List.mapM_cons]
      cases here : leftOut head with
      | true =>
          rw [List.filter_cons_of_neg (by simp [here]), ← bind_pure (List.mapM other _)]
          have passes : ∀ first second, related first second → ∃ kept last,
              (step head).outcome first = (.ok kept, last) ∧ (kept = none ∧ related last second) := by
            intro first second holds
            rcases goes head List.mem_cons_self here first second holds with ⟨last, passed, kept⟩
            exact ⟨none, last, passed, rfl, kept⟩
          apply Lockstep.bind_left passes
          intro kept first second holds
          have nothing := holds.1
          subst nothing
          have later : Lockstep related
              (tail.mapM step >>= fun others => Pure.pure (none :: others))
              (((tail.filter fun element => !leftOut element).map image).mapM other >>= Pure.pure)
              (fun left right first second =>
                Sifted leftOut (head :: tail) left right ∧ related first second) failures :=
            rest.bind fun _ _ => Lockstep.pure fun _ _ found => ⟨.goes here found.1, found.2⟩
          exact later first second holds.2
      | false =>
          rw [List.filter_cons_of_pos (by simp [here]), List.map_cons, List.mapM_cons]
          refine (stays head List.mem_cons_self here).bind fun kept => ?_
          exact rest.bind fun _ _ =>
            Lockstep.pure fun _ _ found => ⟨.stays kept here found.1, found.2⟩

/-! ## Trees -/

section

variable {left right : Settings} {names : String → Bool} (thins : left.Thins right names)
  (base : Path) (start : Progress)
include thins

/-- An entry that is left out is gone past, and nothing happens on the right. -/
theorem goes_of_isAmong {key : Key} (among : key.isAmong names = true)
    {step : Walk (Option (Key × Tree))}
    (passes : ∀ name, key = .name name → left.Inapplicable name → ∀ progress : Progress,
      progress.patterns.Sound →
        ∃ last, step.outcome progress = (.ok none, last) ∧ progress.Idle last)
    (first second : Progress) (holds : Shifted base start first second) :
    ∃ last, step.outcome first = (.ok none, last) ∧ Shifted base start last second := by
  cases key with
  | index position => cases among
  | name name =>
      rcases passes name rfl (thins.leftOut among) first holds.sound.1 with ⟨last, passed, idle⟩
      exact ⟨last, passed, holds.idle idle (.refl second)⟩

theorem readsAlike_of_stays {key : Key} (stays : key.isAmong names = false) (name : String)
    (isName : key = .name name) : left.ReadsAlike right name := by
  subst isName
  exact thins.kept stays

/-- The first pass, when the walks over the values agree. -/
theorem firstPass_without (rest : Path) (entries : Mapping)
    (values : ∀ entry ∈ entries, Agree (Shifted base start)
      (resolveChild left (base.below rest) entry)
      (resolveChild right rest (entry.1, entry.2.without names)) (Shifted base start)
      fun failure other => failure = other.under base) :
    Lockstep (Shifted base start)
      (entries.mapM fun entry =>
        firstEntry left (base.below rest) entry.1 (resolveChild left (base.below rest) entry))
      ((Tree.withoutEntries names entries).mapM fun entry =>
        firstEntry right rest entry.1 (resolveChild right rest entry))
      (fun kept others first second =>
        Sifted (fun entry => entry.1.isAmong names) entries kept others ∧
          Shifted base start first second)
      fun failure other => failure = other.under base := by
  have mirrors := Shifted.mirrors base start rest
  rw [Tree.withoutEntries_eq_map]
  apply lockstep_sifted
  · intro entry member stays
    apply mirrors.agree_firstEntry (fun _ _ => rfl) (fun _ _ => id) entry.1
    · exact readsAlike_of_stays thins stays
    · exact fun _ => values entry member
  · intro entry member among
    apply goes_of_isAmong thins base start among
    intro name isName inapplicable progress sound
    rw [isName]
    exact firstEntry_of_inapplicable inapplicable _ sound

/-- The second pass likewise.  The resolvers see the mappings with and without the
entries that are left out. -/
theorem secondPass_without (rest : Path) (entries : Mapping)
    (values : ∀ entry ∈ entries, Agree (Shifted base start)
      (resolveChild left (base.below rest) entry)
      (resolveChild right rest (entry.1, entry.2.without names)) (Shifted base start)
      fun failure other => failure = other.under base) :
    Lockstep (Shifted base start)
      (entries.mapM fun entry => secondEntry left (base.below rest) entries entry.1 entry.2
        (resolveChild left (base.below rest) entry))
      ((Tree.withoutEntries names entries).mapM fun entry =>
        secondEntry right rest (Tree.withoutEntries names entries) entry.1 entry.2
          (resolveChild right rest entry))
      (fun kept others first second =>
        Sifted (fun entry => entry.1.isAmong names) entries kept others ∧
          Shifted base start first second)
      fun failure other => failure = other.under base := by
  have mirrors := Shifted.mirrors base start rest
  have sameFields : ∀ field : String, '@' ∉ field.toList →
      (Entries.get? entries (.name field)).bind Parameter.patternText? =
        (Entries.get? (Tree.withoutEntries names entries) (.name field)).bind
          Parameter.patternText? := by
    intro field clean
    exact (Tree.fieldPattern_withoutEntries names entries (thins.stays clean)).symm
  nth_rewrite 2 [Tree.withoutEntries_eq_map]
  apply lockstep_sifted
  · intro entry member stays
    apply mirrors.agree_secondEntry mirrors (fun _ _ => rfl) (fun _ _ => id) sameFields entry.1
    · exact readsAlike_of_stays thins stays
    · exact (Tree.isSequence_without names entry.2).symm
    · exact fun _ => values entry member
  · intro entry member among
    apply goes_of_isAmong thins base start among
    intro name isName inapplicable progress sound
    rw [isName]
    exact secondEntry_of_inapplicable inapplicable _ _ _ progress

/-- What is assembled is the same, since nothing is kept of what is left out. -/
theorem resolveEntries_without (rest : Path) (entries : Mapping)
    (values : ∀ entry ∈ entries, Agree (Shifted base start)
      (resolveChild left (base.below rest) entry)
      (resolveChild right rest (entry.1, entry.2.without names)) (Shifted base start)
      fun failure other => failure = other.under base) :
    Agree (Shifted base start)
      (resolveEntries left (base.below rest) (resolveChild left (base.below rest)) entries)
      (resolveEntries right rest (resolveChild right rest) (Tree.withoutEntries names entries))
      (Shifted base start) fun failure other => failure = other.under base := by
  have firstPass := firstPass_without thins base start rest entries values
  have secondPass := secondPass_without thins base start rest entries values
  refine firstPass.bind fun early early' => Lockstep.given fun sifted => ?_
  refine secondPass.bind fun late late' => Lockstep.given fun others => ?_
  rw [sifted.assemble_eq others]
  exact (Shifted.mirrors base start rest).agree_restoreAliases _

/-- A tree is resolved in lockstep with what is left of it when inapplicable entries are
left out, wherever either stands. -/
theorem resolveTree_without (tree : Tree) (rest : Path) :
    Agree (Shifted base start) (resolveTree left (base.below rest) tree)
      (resolveTree right rest (tree.without names)) (Shifted base start)
      fun failure other => failure = other.under base := by
  induction tree using Tree.induction generalizing rest with
  | scalar tree scalar =>
      rw [Tree.without_of_isScalar names scalar, resolveTree_scalar _ _ scalar,
        resolveTree_scalar _ _ scalar]
      exact Agree.pure tree fun _ _ holds => holds
  | sequence items inductionHypothesis =>
      have each : ∀ head tail, head :: tail <:+ Tree.positioned items 0 →
          Agree (Shifted base start) (resolveChild left (base.below rest) head)
            (resolveChild right rest (head.1, head.2.without names)) (Shifted base start)
            fun failure other => failure = other.under base := by
        intro head tail suffix
        have member := Tree.mem_of_mem_positioned (suffix.subset List.mem_cons_self)
        rw [resolveChild, ← Path.below_child]
        exact inductionHypothesis head.2 member (rest.child head.1)
      rw [Tree.without, resolveTree_sequence, resolveTree_sequence, Tree.positioned_withoutItems,
        List.mapM_map, map_eq_pure_bind, map_eq_pure_bind]
      have values := Agree.mapM (fun _ => Shifted base start) each
      exact values.bind fun resolved => Agree.pure _ fun _ _ holds => holds
  | mapping entries inductionHypothesis =>
      have values : ∀ entry ∈ entries, Agree (Shifted base start)
          (resolveChild left (base.below rest) entry)
          (resolveChild right rest (entry.1, entry.2.without names)) (Shifted base start)
          fun failure other => failure = other.under base := by
        intro entry member
        rw [resolveChild, ← Path.below_child]
        exact inductionHypothesis entry member (rest.child entry.1)
      rw [Tree.without, resolveTree_mapping, resolveTree_mapping, map_eq_pure_bind,
        map_eq_pure_bind]
      have passes := resolveEntries_without thins base start rest entries values
      exact passes.bind fun kept => Agree.pure _ fun _ _ holds => holds

end

end Walk
end Resolution
end TaggedContent
