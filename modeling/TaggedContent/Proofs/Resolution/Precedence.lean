import TaggedContent.Proofs.Resolution.Aliases
import TaggedContent.Proofs.Resolution.Assembly
import TaggedContent.Proofs.Resolution.Independence

namespace TaggedContent
namespace Resolution

/-!
# Which entry a key gets its value from

In a mapping whose names have at most one tag each, a key without `@` gets its value
from the first locale entry for it that applies.  If there is none, it gets it from the
last plain or parameterized entry for it that applies.  The locks carry this from one
entry to the next: a key is locked exactly when a locale entry before has claimed it,
and no name with a tag is ever locked.
-/

/-- Whether the entry is an applicable locale entry for the key. -/
def Settings.claims (settings : Settings) (key : String) (entry : Key × Tree) : Bool :=
  match entry.1 with
  | .index _ => false
  | .name name =>
      match Tag.ofKey settings.table name with
      | .tagged ⟨_, marked, .locale base pattern⟩ => base == key && settings.admits pattern marked
      | _ => false

/-- Whether the entry is a plain one for the key, or a parameterized one for it that its
resolver accepts. -/
def Settings.takes (settings : Settings) (node : Mapping) (key : String) (entry : Key × Tree) :
    Bool :=
  match entry.1 with
  | .index _ => false
  | .name name =>
      match Tag.ofKey settings.table name with
      | .tagged ⟨stripped, _, .plain⟩ => stripped == key
      | .tagged ⟨_, _, .parameter base parameter argument⟩ =>
          base == key && settings.accepts node base parameter argument
      | _ => false

/-- The entry that a key gets its value from: the first that claims it, or else the last
that takes it. -/
def Settings.winner? (settings : Settings) (entries : Mapping) (key : String) :
    Option (Key × Tree) :=
  (entries.find? (settings.claims key)).or (entries.reverse.find? (settings.takes entries key))

/-- Only names without `@` are locked. -/
def CleanLocks (locked : String → Bool) : Prop :=
  ∀ name, locked name = true → '@' ∉ name.toList

section

variable {settings : Settings} {node : Mapping} {key : String} {entry : Key × Tree}
  {locked : String → Bool}

theorem CleanLocks.unlocked (clean : CleanLocks locked) {name : String}
    (tagged : '@' ∈ name.toList) : locked name = false := by
  rw [Bool.eq_false_iff]
  exact fun isLocked => clean name isLocked tagged

theorem base?_of_claims (claims : settings.claims key entry = true) :
    settings.base? entry.1 = some key := by
  rw [Settings.claims] at claims
  split at claims
  case h_1 => cases claims
  case h_2 name isName =>
      split at claims
      case h_1 tagged =>
          rw [Bool.and_eq_true, beq_iff_eq] at claims
          rw [isName, Settings.base?, tagged, ← claims.1]
          rfl
      case h_2 => cases claims

theorem base?_of_takes (takes : settings.takes node key entry = true) :
    settings.base? entry.1 = some key := by
  rw [Settings.takes] at takes
  split at takes
  case h_1 => cases takes
  case h_2 name isName =>
      split at takes
      case h_1 tagged =>
          rw [isName, Settings.base?, tagged, ← beq_iff_eq.mp takes]
          rfl
      case h_2 tagged =>
          rw [Bool.and_eq_true, beq_iff_eq] at takes
          rw [isName, Settings.base?, tagged, ← takes.1]
          rfl
      case h_3 => cases takes

/-- As long as no name with a tag is locked, the first pass keeps an entry under a key
exactly when it claims the key and the key is free. -/
theorem firstTarget?_eq_some_iff (clean : CleanLocks locked) :
    settings.firstTarget? locked entry.1 = some (.name key) ↔
      settings.claims key entry = true ∧ locked key = false := by
  rcases entry with ⟨name | position, value⟩
  · rw [Settings.firstTarget?, Settings.claims]
    dsimp only
    cases read : Tag.ofKey settings.table name with
    | comment => simp
    | tagged tagged =>
        rcases tagged with ⟨stripped, marked, form⟩
        cases form with
        | plain => simp
        | parameter base parameter argument => simp
        | locale base pattern =>
            have tag := Tag.mem_toList_of_form_ne_plain read TagForm.noConfusion
            rw [clean.unlocked tag]
            by_cases same : base = key
            · simp [same]
            · simp [same]
  · simp [Settings.firstTarget?, Settings.claims]

/-- Likewise for the second pass. -/
theorem secondTarget?_eq_some_iff (clean : CleanLocks locked) :
    settings.secondTarget? node locked entry.1 = some key ↔
      settings.takes node key entry = true ∧ locked key = false := by
  rcases entry with ⟨name | position, value⟩
  · rw [Settings.secondTarget?, Settings.takes]
    dsimp only
    cases read : Tag.ofKey settings.table name with
    | comment => simp
    | tagged tagged =>
        rcases tagged with ⟨stripped, marked, form⟩
        cases form with
        | locale base pattern => simp
        | plain =>
            -- A name that is not its own base ends in a mark, and is not locked.
            have lockedName : (locked name || locked stripped) = locked stripped := by
              by_cases tag : '@' ∈ name.toList
              · rw [clean.unlocked tag, Bool.false_or]
              · rw [Tag.ofKey_of_clean settings.table tag] at read
                cases read
                exact Bool.or_self (locked name)
            dsimp only
            rw [lockedName]
            by_cases same : stripped = key
            · simp [same]
            · simp [same]
        | parameter base parameter argument =>
            have tag := Tag.mem_toList_of_form_ne_plain read TagForm.noConfusion
            rw [clean.unlocked tag]
            by_cases same : base = key
            · simp [same, and_comm]
            · simp [same]
  · simp [Settings.secondTarget?, Settings.takes]

end

/-! ## What the passes keep -/

section

variable {settings : Settings} {path : Path} {entries : Mapping}

/-- What the first pass keeps: for every key that was free the value of the first entry
that claims it, and for every index its value.  The claimed keys are locked. -/
structure FirstKeeps (settings : Settings) (path : Path) (entries : Mapping) (start : Progress)
    (early : List (Option (Key × Tree))) (last : Progress) : Prop where
  sound : last.patterns.Sound
  marks : last.marks = start.marks
  locks (key : String) : last.locks.isLocked path key =
    (start.locks.isLocked path key || entries.any (settings.claims key))
  names (key : String) : (Entries.get? (early.filterMap id) (.name key)).map .ok =
    if start.locks.isLocked path key then none
    else (entries.find? (settings.claims key)).map fun entry => settings.resolve entry.2
  indices (position : Int64) : (Entries.get? (early.filterMap id) (.index position)).map .ok =
    (Entries.get? entries (.index position)).map settings.resolve
  distinct : (Entries.keys (early.filterMap id)).Nodup

theorem firstKeeps_nil {start : Progress} (sound : start.patterns.Sound) :
    FirstKeeps settings path [] start [] start where
  sound := sound
  marks := rfl
  locks key := by simp
  names key := by simp
  indices position := rfl
  distinct := List.nodup_nil

/-- An entry without a target claims no free key. -/
theorem FirstKeeps.cons_passed {head : Key × Tree} {tail : Mapping} {start middle last : Progress}
    {early : List (Option (Key × Tree))} (clean : CleanLocks (start.locks.isLocked path))
    (target : settings.firstTarget? (start.locks.isLocked path) head.1 = none)
    (idle : start.Idle middle) (rest : FirstKeeps settings path tail middle early last) :
    FirstKeeps settings path (head :: tail) start (none :: early) last := by
  have claimsLocked : ∀ key, settings.claims key head = true →
      start.locks.isLocked path key = true := by
    intro key claims
    by_contra free
    have kept := (firstTarget?_eq_some_iff clean).mpr ⟨claims, Bool.eq_false_iff.mpr free⟩
    rw [target] at kept
    cases kept
  have notIndex : ∀ position, head.1 ≠ .index position := by
    intro position isIndex
    rw [isIndex] at target
    cases target
  refine ⟨rest.sound, rest.marks.trans idle.marks, fun key => ?_, fun key => ?_, fun position => ?_,
    rest.distinct⟩
  · rw [rest.locks, idle.locks, List.any_cons]
    cases claims : settings.claims key head with
    | false => rw [Bool.false_or]
    | true => rw [claimsLocked key claims, Bool.true_or, Bool.true_or]
  · rw [List.filterMap_cons, id_eq, rest.names, idle.locks, List.find?_cons]
    cases claims : settings.claims key head with
    | false => rfl
    | true => rw [claimsLocked key claims, if_pos rfl, if_pos rfl]
  · rw [List.filterMap_cons, id_eq, rest.indices, ← Prod.eta head, Entries.get?_cons,
      if_neg (notIndex position)]

theorem FirstKeeps.cons_index {head : Key × Tree} {tail : Mapping} {start last : Progress}
    {early : List (Option (Key × Tree))} {position : Int64} {value : Tree}
    (isIndex : head.1 = .index position) (resolved : settings.resolve head.2 = .ok value)
    (fresh : head.1 ∉ Entries.keys tail) (rest : FirstKeeps settings path tail start early last) :
    FirstKeeps settings path (head :: tail) start (some (head.1, value) :: early) last := by
  rcases head with ⟨key, content⟩
  dsimp only at isIndex resolved fresh
  subst isIndex
  have noClaim : ∀ key, settings.claims key (.index position, content) = false := fun _ => rfl
  refine ⟨rest.sound, rest.marks, fun key => ?_, fun key => ?_, fun other => ?_, ?_⟩
  · rw [rest.locks, List.any_cons, noClaim, Bool.false_or]
  · rw [List.filterMap_cons, id_eq, Entries.get?_cons, if_neg Key.noConfusion, rest.names,
      List.find?_cons, noClaim]
  · rw [List.filterMap_cons, id_eq, Entries.get?_cons, Entries.get?_cons]
    by_cases here : position = other
    · rw [if_pos (congrArg Key.index here), if_pos (congrArg Key.index here), Option.map_some,
        Option.map_some, resolved]
    · have apart : Key.index position ≠ .index other := fun same => here (Key.index.inj same)
      rw [if_neg apart, if_neg apart, rest.indices]
  · rw [List.filterMap_cons, id_eq, Entries.keys_cons, List.nodup_cons]
    refine ⟨?_, rest.distinct⟩
    rw [← Entries.get?_eq_none_iff, ← Option.map_eq_none_iff (f := Except.ok), rest.indices,
      (Entries.get?_eq_none_iff tail _).mpr fresh]
    rfl

/-- An entry that is selected is the first that claims its base. -/
theorem FirstKeeps.cons_selected {head : Key × Tree} {tail : Mapping}
    {start middle last : Progress} {early : List (Option (Key × Tree))} {base : String}
    {value : Tree} (claims : settings.claims base head = true)
    (free : start.locks.isLocked path base = false)
    (claimed : Walk.Selected path base true start middle)
    (resolved : settings.resolve head.2 = .ok value)
    (rest : FirstKeeps settings path tail middle early last) :
    FirstKeeps settings path (head :: tail) start (some (.name base, value) :: early) last := by
  have claimsOther : ∀ key, key ≠ base → settings.claims key head = false := by
    intro key apart
    rw [Bool.eq_false_iff]
    intro claimsKey
    have same := (base?_of_claims claimsKey).symm.trans (base?_of_claims claims)
    exact apart (Option.some.inj same)
  have notIndex : ∀ position, head.1 ≠ .index position := by
    intro position isIndex
    have isBase := base?_of_claims claims
    rw [isIndex] at isBase
    cases isBase
  have locked : ∀ key, middle.locks.isLocked path key =
      (start.locks.isLocked path key || decide (base = key)) := by
    intro key
    rw [claimed.locks, if_pos rfl, Locks.isLocked_lock]
    simp
  refine ⟨rest.sound, rest.marks.trans claimed.marks, fun key => ?_, fun key => ?_,
    fun position => ?_, ?_⟩
  · rw [rest.locks, locked, List.any_cons, Bool.or_assoc]
    by_cases here : key = base
    · rw [here, claims, decide_eq_true rfl, Bool.true_or]
    · rw [claimsOther key here, decide_eq_false (Ne.symm here)]
  · rw [List.filterMap_cons, id_eq, Entries.get?_cons]
    by_cases here : key = base
    · rw [here, if_pos rfl, free, if_neg Bool.false_ne_true, List.find?_cons_of_pos claims,
        Option.map_some, Option.map_some, resolved]
    · have apart : Key.name base ≠ .name key := fun same => here (Key.name.inj same).symm
      rw [if_neg apart, rest.names, locked, decide_eq_false (Ne.symm here), Bool.or_false,
        List.find?_cons, claimsOther key here]
  · rw [List.filterMap_cons, id_eq, Entries.get?_cons, if_neg Key.noConfusion, rest.indices,
      ← Prod.eta head, Entries.get?_cons, if_neg (notIndex position)]
  · rw [List.filterMap_cons, id_eq, Entries.keys_cons, List.nodup_cons]
    refine ⟨?_, rest.distinct⟩
    rw [← Entries.get?_eq_none_iff, ← Option.map_eq_none_iff (f := Except.ok), rest.names, locked,
      decide_eq_true rfl, Bool.or_true, if_pos rfl]

theorem CleanLocks.selected {start middle : Progress} {base : String}
    (clean : CleanLocks (start.locks.isLocked path)) (baseClean : '@' ∉ base.toList)
    (claimed : Walk.Selected path base true start middle) :
    CleanLocks (middle.locks.isLocked path) := by
  intro name locked
  rw [claimed.locks, if_pos rfl, Locks.isLocked_lock, Bool.or_eq_true, decide_eq_true_eq] at locked
  rcases locked with before | ⟨_, same⟩
  · exact clean name before
  · exact same ▸ baseClean

theorem firstKeeps_of_steps (simple : SimpleKeys entries)
    (distinct : (Entries.keys entries).Nodup) {start last : Progress}
    {early : List (Option (Key × Tree))} (sound : start.patterns.Sound)
    (clean : CleanLocks (start.locks.isLocked path))
    (steps : Walk.Steps (fun entry => Walk.firstEntry settings path entry.1
      (Walk.ofExcept (settings.resolveApart path entry))) entries start early last) :
    FirstKeeps settings path entries start early last ∧
      CleanLocks (last.locks.isLocked path) := by
  induction steps with
  | nil progress => exact ⟨firstKeeps_nil sound, clean⟩
  | @cons head tail start middle last kept early first rest inductionHypothesis =>
      rw [Entries.keys_cons, List.nodup_cons] at distinct
      have tailSimple : SimpleKeys tail := fun name member =>
        simple name (List.mem_cons_of_mem _ member)
      have later := inductionHypothesis tailSimple distinct.2
      cases Walk.firstEntry_success sound first with
      | passed target idle =>
          rcases later (idle.patterns sound) (idle.locks ▸ clean) with ⟨keeps, cleanLast⟩
          exact ⟨keeps.cons_passed clean target idle, cleanLast⟩
      | index isIndex resolved =>
          rcases resolved_apart resolved with ⟨found, same⟩
          subst same
          rcases later sound clean with ⟨keeps, cleanLast⟩
          exact ⟨keeps.cons_index isIndex found distinct.1, cleanLast⟩
      | selected isName target claimed resolved =>
          rcases resolved_apart resolved with ⟨found, same⟩
          subst same
          rcases (firstTarget?_eq_some_iff clean).mp target with ⟨claims, free⟩
          have baseClean := simple.base_clean List.mem_cons_self (base?_of_claims claims)
          rcases later (claimed.patterns sound) (clean.selected baseClean claimed) with
            ⟨keeps, cleanLast⟩
          exact ⟨keeps.cons_selected claims free claimed found, cleanLast⟩

/-- What the second pass keeps: for every free key the value of the last entry that
takes it.  A key is marked only by a marked entry with a sequence that takes it. -/
structure SecondKeeps (settings : Settings) (path : Path) (node entries : Mapping)
    (start : Progress) (late : List (Option (Key × Tree))) (last : Progress) : Prop where
  locks : last.locks = start.locks
  names (key : String) : (Entries.get? (late.filterMap id).reverse (.name key)).map .ok =
    if start.locks.isLocked path key then none
    else (entries.reverse.find? (settings.takes node key)).map fun entry =>
      settings.resolve entry.2
  indices (position : Int64) : Entries.get? (late.filterMap id).reverse (.index position) = none
  marked {key : String} (mark : key ∈ last.marks.keysAt path) :
    key ∈ start.marks.keysAt path ∨
      ∃ entry ∈ entries, settings.takes node key entry = true ∧ settings.marks entry.1 = true ∧
        entry.2.isSequence = true

theorem SecondKeeps.cons_passed {node : Mapping} {head : Key × Tree} {tail : Mapping}
    {start middle last : Progress} {late : List (Option (Key × Tree))}
    (clean : CleanLocks (start.locks.isLocked path))
    (target : settings.secondTarget? node (start.locks.isLocked path) head.1 = none)
    (idle : start.Idle middle) (rest : SecondKeeps settings path node tail middle late last) :
    SecondKeeps settings path node (head :: tail) start (none :: late) last := by
  refine ⟨rest.locks.trans idle.locks, fun key => ?_, rest.indices, fun mark => ?_⟩
  · rw [List.filterMap_cons, id_eq, rest.names, idle.locks, List.reverse_cons, List.find?_append]
    by_cases free : start.locks.isLocked path key = true
    · rw [if_pos free, if_pos free]
    · have refused : settings.takes node key head = false := by
        rw [Bool.eq_false_iff]
        intro takes
        have kept := (secondTarget?_eq_some_iff clean).mpr ⟨takes, Bool.eq_false_iff.mpr free⟩
        rw [target] at kept
        cases kept
      rw [if_neg free, if_neg free, List.find?_cons, refused, List.find?_nil, Option.or_none]
  · rcases rest.marked mark with before | ⟨entry, member, found⟩
    · exact Or.inl (idle.marks ▸ before)
    · exact Or.inr ⟨entry, List.mem_cons_of_mem _ member, found⟩

theorem SecondKeeps.cons_kept {node : Mapping} {head : Key × Tree} {tail : Mapping}
    {start middle last : Progress} {late : List (Option (Key × Tree))} {base : String}
    {value : Tree} (takes : settings.takes node base head = true)
    (free : start.locks.isLocked path base = false)
    (marking : Walk.Marked path base (settings.marks head.1 && head.2.isSequence) start middle)
    (resolved : settings.resolve head.2 = .ok value)
    (rest : SecondKeeps settings path node tail middle late last) :
    SecondKeeps settings path node (head :: tail) start (some (.name base, value) :: late) last := by
  refine ⟨rest.locks.trans marking.locks, fun key => ?_, fun position => ?_, fun mark => ?_⟩
  · rw [List.filterMap_cons, id_eq, List.reverse_cons, Entries.get?_append, Option.map_or,
      rest.names, marking.locks, List.reverse_cons, List.find?_append, Entries.get?_cons,
      Entries.get?_nil, List.find?_cons, List.find?_nil]
    by_cases here : key = base
    · rw [here, free, if_neg Bool.false_ne_true, if_neg Bool.false_ne_true, if_pos rfl, takes,
        Option.map_or, Option.map_some, Option.map_some, resolved]
    · have apart : Key.name base ≠ .name key := fun same => here (Key.name.inj same).symm
      have refused : settings.takes node key head = false := by
        rw [Bool.eq_false_iff]
        intro takesKey
        have same := (base?_of_takes takesKey).symm.trans (base?_of_takes takes)
        exact here (Option.some.inj same)
      rw [if_neg apart, refused, Option.map_none, Option.or_none, Option.or_none]
  · rw [List.filterMap_cons, id_eq, List.reverse_cons, Entries.get?_append, rest.indices,
      Entries.get?_cons, if_neg Key.noConfusion]
    rfl
  · rcases rest.marked mark with before | ⟨entry, member, found⟩
    · rw [marking.marks] at before
      split at before
      case isTrue extracted =>
          rcases (Marks.mem_keysAt_mark _ _ _ _).mp before with earlier | same
          · exact Or.inl earlier
          · rw [Bool.and_eq_true] at extracted
            exact Or.inr ⟨head, List.mem_cons_self, same ▸ takes, extracted.1, extracted.2⟩
      case isFalse => exact Or.inl before
    · exact Or.inr ⟨entry, List.mem_cons_of_mem _ member, found⟩

theorem secondKeeps_of_steps {node : Mapping} {start last : Progress}
    {late : List (Option (Key × Tree))} (sound : start.patterns.Sound)
    (clean : CleanLocks (start.locks.isLocked path))
    (steps : Walk.Steps (fun entry => Walk.secondEntry settings path node entry.1 entry.2
      (Walk.ofExcept (settings.resolveApart path entry))) entries start late last) :
    SecondKeeps settings path node entries start late last := by
  induction steps with
  | nil progress => exact ⟨rfl, fun key => by simp, fun _ => rfl, Or.inl⟩
  | @cons head tail start middle last kept late first rest inductionHypothesis =>
      have keepsSound : Walk.Preserves (fun progress => progress.patterns.Sound)
          (Walk.ofExcept (settings.resolveApart path head)) :=
        Walk.preserves_ofExcept (fun progress => progress.patterns.Sound) _
      cases Walk.secondEntry_success sound keepsSound first with
      | passed target idle =>
          have later := inductionHypothesis (idle.patterns sound) (idle.locks ▸ clean)
          exact later.cons_passed clean target idle
      | rejected target idle resolved dropped =>
          have stays := (resolved_apart resolved).2
          subst stays
          have whole := idle.trans dropped
          have later := inductionHypothesis (whole.patterns sound) (whole.locks ▸ clean)
          exact later.cons_passed clean target whole
      | kept isName target idle resolved marked =>
          rcases resolved_apart resolved with ⟨found, same⟩
          subst same
          rcases (secondTarget?_eq_some_iff clean).mp target with ⟨takes, free⟩
          have marking := marked.after_idle idle
          have later := inductionHypothesis (marking.patterns sound) (marking.locks ▸ clean)
          exact later.cons_kept takes free marking found

/-! ## Both passes together -/

theorem base?_of_winner? {key : String} {entry : Key × Tree}
    (wins : settings.winner? entries key = some entry) :
    entry ∈ entries ∧ settings.base? entry.1 = some key := by
  rw [Settings.winner?, Option.or_eq_some_iff] at wins
  rcases wins with claims | ⟨_, takes⟩
  · exact ⟨List.mem_of_find?_eq_some claims, base?_of_claims (List.find?_some claims)⟩
  · exact ⟨List.mem_reverse.mp (List.mem_of_find?_eq_some takes),
      base?_of_takes (List.find?_some takes)⟩

section

variable {middle last : Progress} {early late : List (Option (Key × Tree))}

/-- From a start without locks every key holds the value of its winner. -/
theorem get?_assemble_name (first : FirstKeeps settings path entries .initial early middle)
    (second : SecondKeeps settings path entries entries middle late last)
    (disjoint : List.Forall₂ (fun kept later => kept = none ∨ later = none) early late)
    (key : String) :
    (Entries.get? (Walk.assemble early late) (.name key)).map .ok =
      (settings.winner? entries key).map fun entry => settings.resolve entry.2 := by
  have unlocked : Progress.initial.locks.isLocked path key = false := Locks.isLocked_empty path key
  have claimed := first.names key
  have taken := second.names key
  rw [unlocked, if_neg Bool.false_ne_true, ← Entries.get?_reverse first.distinct] at claimed
  rw [first.locks, unlocked, Bool.false_or] at taken
  cases claimer : entries.find? (settings.claims key) with
  | none =>
      have nobody : entries.any (settings.claims key) = false := by
        rw [List.any_eq_false]
        exact List.find?_eq_none.mp claimer
      rw [claimer, Option.map_none, Option.map_eq_none_iff] at claimed
      rw [nobody, if_neg Bool.false_ne_true] at taken
      rw [get?_assemble disjoint (Or.inl claimed), claimed, Option.none_or, taken,
        Settings.winner?, claimer, Option.none_or]
  | some entry =>
      have somebody : entries.any (settings.claims key) = true :=
        List.any_eq_true.mpr ⟨entry, List.mem_of_find?_eq_some claimer, List.find?_some claimer⟩
      rw [somebody, if_pos rfl, Option.map_eq_none_iff] at taken
      rw [get?_assemble disjoint (Or.inr taken), taken, Option.or_none, claimed,
        Settings.winner?, claimer, Option.some_or]

theorem get?_assemble_index (first : FirstKeeps settings path entries .initial early middle)
    (second : SecondKeeps settings path entries entries middle late last)
    (disjoint : List.Forall₂ (fun kept later => kept = none ∨ later = none) early late)
    (position : Int64) :
    (Entries.get? (Walk.assemble early late) (.index position)).map .ok =
      (Entries.get? entries (.index position)).map settings.resolve := by
  have nothing := second.indices position
  rw [get?_assemble disjoint (Or.inr nothing), nothing, Option.or_none,
    Entries.get?_reverse first.distinct, first.indices]

end

end

/-- A mapping comes to what its passes assemble, where every key holds what its winner
comes to, with the aliases of keys that a marked entry with a sequence takes. -/
theorem Settings.resolve_mapping_assembled {settings : Settings} {entries : Mapping}
    (distinct : (Entries.keys entries).Nodup) (simple : SimpleKeys entries) {result : Tree}
    (success : settings.resolve (.mapping entries) = .ok result) :
    ∃ (assembled : Mapping) (marked : List String),
      result = .mapping (addAliases marked assembled).1 ∧
      (∀ key : String, (Entries.get? assembled (.name key)).map .ok =
        (settings.winner? entries key).map fun entry => settings.resolve entry.2) ∧
      (∀ position : Int64, (Entries.get? assembled (.index position)).map .ok =
        (Entries.get? entries (.index position)).map settings.resolve) ∧
      ∀ key ∈ marked, ∃ entry ∈ entries, settings.takes entries key entry = true ∧
        settings.marks entry.1 = true ∧ entry.2.isSequence = true := by
  rw [settings.resolve_mapping_apart distinct] at success
  rcases walked : (Walk.resolveEntries settings .root
    (fun entry => Walk.ofExcept (settings.resolveApart .root entry)) entries).outcome .initial with
    ⟨error | kept, last⟩
  · rw [walked] at success
    cases success
  · rw [walked] at success
    cases success
    rcases Walk.resolveEntries_success walked with
      ⟨early, middle, late, after, firstSteps, secondSteps, isKept, _⟩
    have startClean : CleanLocks (Progress.initial.locks.isLocked .root) :=
      fun name locked => absurd locked Bool.false_ne_true
    rcases firstKeeps_of_steps simple distinct Pattern.Cache.sound_empty startClean firstSteps with
      ⟨first, middleClean⟩
    have second := secondKeeps_of_steps first.sound middleClean secondSteps
    have disjoint := Walk.forall₂_kept_of_steps firstSteps secondSteps
    refine ⟨Walk.assemble early late, after.marks.keysAt .root, congrArg Tree.mapping isKept,
      get?_assemble_name first second disjoint, get?_assemble_index first second disjoint,
      fun key mark => ?_⟩
    rcases second.marked mark with before | taker
    · rw [first.marks] at before
      cases before
    · exact taker

/-- Who wins each key of a mapping whose names have at most one tag each: a key without
`@` holds what its winner comes to, every index is kept, and all else are the aliases of
keys with sequences that a marked entry takes. -/
theorem Settings.resolve_mapping_winners {settings : Settings} {entries : Mapping}
    (distinct : (Entries.keys entries).Nodup) (simple : SimpleKeys entries) {result : Tree}
    (success : settings.resolve (.mapping entries) = .ok result) :
    ∃ kept : Mapping, result = .mapping kept ∧
      (∀ key : String, '@' ∉ key.toList →
        (Entries.get? kept (.name key)).map .ok =
          (settings.winner? entries key).map fun entry => settings.resolve entry.2) ∧
      (∀ position : Int64,
        (Entries.get? kept (.index position)).map .ok =
          (Entries.get? entries (.index position)).map settings.resolve) ∧
      ∀ name : String, .name name ∈ Entries.keys kept → '@' ∈ name.toList →
        ∃ key items, '@' ∉ key.toList ∧ name = aliasOf key ∧
          Entries.get? kept (.name key) = some (.sequence items) ∧
          Entries.get? kept (.name name) = some (.sequence items) ∧
          ∃ entry ∈ entries, settings.takes entries key entry = true ∧
            settings.marks entry.1 = true ∧ entry.2.isSequence = true := by
  rcases settings.resolve_mapping_assembled distinct simple success with
    ⟨assembled, marked, isResult, names, indices, takers⟩
  have cleanMarks : ∀ key ∈ marked, '@' ∉ key.toList := by
    intro key mark
    rcases takers key mark with ⟨entry, member, takes, _⟩
    exact simple.base_clean member (base?_of_takes takes)
  have isolated := isolated_of_clean cleanMarks
  have cleanName : ∀ key : String, '@' ∉ key.toList →
      Entries.get? (addAliases marked assembled).1 (.name key) =
        Entries.get? assembled (.name key) := by
    intro key clean
    apply get?_addAliases_of_ne isolated
    intro other _ same
    rw [Key.name.inj same] at clean
    exact clean (mem_toList_aliasOf other)
  have assembledClean : ∀ name : String, .name name ∈ Entries.keys assembled →
      '@' ∉ name.toList := by
    intro name member
    have found := names name
    cases wins : settings.winner? entries name with
    | none =>
        rw [wins, Option.map_none, Option.map_eq_none_iff, Entries.get?_eq_none_iff] at found
        exact absurd member found
    | some entry =>
        have isBase := base?_of_winner? wins
        exact simple.base_clean isBase.1 isBase.2
  refine ⟨_, isResult, fun key clean => ?_, fun position => ?_, fun name member tag => ?_⟩
  · rw [cleanName key clean, names]
  · rw [get?_addAliases_of_ne isolated fun _ _ => Key.noConfusion, indices]
  · rcases mem_keys_addAliases isolated member with there | ⟨key, mark, items, same, held, aliased⟩
    · exact absurd tag (assembledClean name there)
    · have clean := cleanMarks key mark
      exact ⟨key, items, clean, Key.name.inj same, (cleanName key clean).trans held, aliased,
        takers key mark⟩

/-- Two locale entries that apply, after a plain entry for the same key. -/
theorem Settings.resolve_mapping_winners_translated :
    let settings : Settings := ⟨some "fr", none⟩
    let entries : Mapping := [(.name "title", .string "Hello"),
      (.name "title@fr|nl", .string "Bonjour"), (.name "title@fr", .string "Salut"),
      (.name "tags@", .sequence [.string "a"])]
    (Entries.keys entries).Nodup ∧ SimpleKeys entries ∧
      ∃ kept : Mapping, settings.resolve (.mapping entries) = .ok (.mapping kept) ∧
        (Entries.get? kept (.name "title")).map .ok =
          (settings.winner? entries "title").map fun entry => settings.resolve entry.2 := by
  intro settings entries
  have distinct : (Entries.keys entries).Nodup := by decide
  have simple : SimpleKeys entries := by
    intro name member
    simp only [entries, Entries.keys_cons, Entries.keys_nil, List.mem_cons, Key.name.injEq,
      List.not_mem_nil, or_false] at member
    rcases member with same | same | same | same
    · exact same ▸ Or.inr ⟨"title".toList, [], by decide, Or.inl rfl, Or.inl (by decide)⟩
    · exact same ▸ Or.inr ⟨"title".toList, [], by decide, Or.inl rfl,
        Or.inr ⟨"fr|nl".toList, by decide, by decide, by decide⟩⟩
    · exact same ▸ Or.inr ⟨"title".toList, [], by decide, Or.inl rfl,
        Or.inr ⟨"fr".toList, by decide, by decide, by decide⟩⟩
    · exact same ▸ Or.inr ⟨"tags".toList, ['@'], by decide, Or.inr rfl, Or.inl (by decide)⟩
  have succeeds : (settings.resolve (.mapping entries)).isOk = true := by decide +kernel
  rcases success : settings.resolve (.mapping entries) with error | result
  · rw [success] at succeeds
    cases succeeds
  · rcases Settings.resolve_mapping_winners distinct simple success with ⟨kept, same, names, _⟩
    exact ⟨distinct, simple, kept, congrArg Except.ok same, names "title" (by decide)⟩

end Resolution
end TaggedContent
