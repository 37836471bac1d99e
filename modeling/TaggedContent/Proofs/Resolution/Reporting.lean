import TaggedContent.Proofs.Resolution.Targets

namespace TaggedContent
namespace Resolution

/-!
# What a walk reports

Every event but the report of a near miss tells of a decision: a name that is dropped, a
base that is selected or an alias that is restored.  A walk accounts for a list of
decisions when its events tell of these and no others, each once, and when the locks that
it takes are those of the bases it has selected.  The order is left open, so that accounts
of one walk after another are added up.
-/

inductive Decision where
  | dropped (path : Path) (name : String)
  | selected (path : Path) (base : String)
  | aliased (path : Path) (key : String)

namespace Decision

def dropped? : Decision → Option (Path × String)
  | dropped path name => some (path, name)
  | _ => none

def selected? : Decision → Option (Path × String)
  | selected path base => some (path, base)
  | _ => none

def aliased? : Decision → Option (Path × String)
  | aliased path key => some (path, key)
  | _ => none

end Decision

/-- The decision that an event tells of. -/
def Event.decision? : Event → Option Decision
  | dropped path key _ => some (.dropped path key)
  | selected path _ base => some (.selected path base)
  | aliasRestored path key => some (.aliased path key)
  | nearMiss _ => none

/-- Between the two states these decisions have been reported, and the locks of the selected
bases taken. -/
structure Accounts (start last : Progress) (made : List Decision) : Prop where
  events : (last.events.filterMap Event.decision?).Perm
    (made ++ start.events.filterMap Event.decision?)
  locks : last.locks.claimed.Perm (made.filterMap Decision.selected? ++ start.locks.claimed)

namespace Accounts

variable {start middle last : Progress} {made others : List Decision}

theorem refl (progress : Progress) : Accounts progress progress [] :=
  ⟨.refl _, .refl _⟩

/-- Nothing but the patterns and the marks has changed. -/
theorem of_eq (events : last.events = start.events) (locks : last.locks = start.locks) :
    Accounts start last [] := by
  refine ⟨?_, ?_⟩
  · rw [events]
    exact .refl _
  · rw [locks]
    exact .refl _

theorem perm (accounts : Accounts start last made) (same : made.Perm others) :
    Accounts start last others :=
  ⟨accounts.events.trans (same.append_right _),
    accounts.locks.trans ((same.filterMap _).append_right _)⟩

theorem trans (before : Accounts start middle made) (after : Accounts middle last others) :
    Accounts start last (made ++ others) := by
  refine ⟨?_, ?_⟩
  · refine after.events.trans ((before.events.append_left others).trans ?_)
    rw [← List.append_assoc]
    exact List.perm_append_comm.append_right _
  · refine after.locks.trans ((before.locks.append_left _).trans ?_)
    rw [← List.append_assoc, List.filterMap_append]
    exact List.perm_append_comm.append_right _

theorem trans_quiet (before : Accounts start middle made) (after : Accounts middle last []) :
    Accounts start last made := by
  have whole := before.trans after
  rwa [List.append_nil] at whole

/-- A walk from the beginning reports its decisions and nothing else. -/
theorem of_initial (accounts : Accounts .initial last made) :
    (last.events.filterMap Event.decision?).Perm made ∧
      last.locks.claimed.Perm (made.filterMap Decision.selected?) := by
  have noEvents : Progress.initial.events.filterMap Event.decision? = [] := rfl
  have noLocks : Progress.initial.locks.claimed = [] := rfl
  have events := accounts.events
  have locks := accounts.locks
  rw [noEvents, List.append_nil] at events
  rw [noLocks, List.append_nil] at locks
  exact ⟨events, locks⟩

end Accounts

/-- Whether a locale entry is dropped without a word: no locale is given, and it is neither
marked nor locked. -/
def Settings.dropsSilently (settings : Settings) (locked : String → Bool) (name : String)
    (marked : Bool) : Bool :=
  settings.locale.isNone && !marked && !locked name

namespace Walk

variable {settings : Settings} {path : Path} {start last : Progress}

/-! ## Single steps -/

theorem accounts_drop {key : String} {reason : DropReason} {value result : α}
    (success : (drop path key reason >>= fun _ => pure value : Walk α).outcome start =
      (.ok result, last)) :
    result = value ∧ Accounts start last [.dropped path key] := by
  cases success
  exact ⟨rfl, .refl _, .refl _⟩

theorem accounts_reportNearMiss {key : String} {value : Unit}
    (success : (reportNearMiss settings key).outcome start = (.ok value, last)) :
    Accounts start last [] := by
  unfold reportNearMiss at success
  split at success
  · cases success
    exact ⟨.refl _, .refl _⟩
  · cases success
    exact .refl start

theorem accounts_withPatterns {key : String} {value : α}
    {step : Pattern.Cache → Except Pattern.PatternError α × Pattern.Cache}
    (success : (withPatterns path key step).outcome start = (.ok value, last)) :
    Accounts start last [] := by
  rw [outcome_withPatterns] at success
  rw [← (Prod.mk.inj success).2]
  exact .of_eq rfl rfl

theorem accounts_select {base key : String} (free : start.locks.isLocked path base = false) :
    Accounts start { start with
      locks := start.locks.lock path base
      events := .selected path key base :: start.events } [.selected path base] := by
  have claimed : (start.locks.lock path base).claimed = (path, base) :: start.locks.claimed := by
    rw [Locks.lock, free, if_neg Bool.false_ne_true]
  refine ⟨.refl _, ?_⟩
  dsimp only
  rw [claimed]
  exact .refl _

theorem accounts_selectLocale {key base pattern : String} {marked chosen : Bool}
    (success : (selectLocale settings path key base pattern marked).outcome start =
      (.ok chosen, last)) :
    Accounts start last
      (if chosen then [.selected path base]
        else if settings.dropsSilently (start.locks.isLocked path) key marked then []
        else [.dropped path key]) := by
  rw [selectLocale, outcome_bind_of_ok (outcome_isLocked path key start)] at success
  cases lockedKey : start.locks.isLocked path key with
  | true =>
      simp only [lockedKey, if_true] at success
      rcases accounts_drop success with ⟨rfl, dropped⟩
      simpa [Settings.dropsSilently, lockedKey] using dropped
  | false =>
      simp only [lockedKey, Bool.false_eq_true, if_false] at success
      cases marked with
      | true =>
          rcases accounts_drop success with ⟨rfl, dropped⟩
          simpa [Settings.dropsSilently] using dropped
      | false =>
          simp only [Bool.false_eq_true, if_false] at success
          cases given : settings.locale with
          | none =>
              simp only [given] at success
              cases success
              simpa [Settings.dropsSilently, given, lockedKey] using Accounts.refl start
          | some locale =>
              simp only [given] at success
              rcases outcome_bind_eq_ok success with ⟨matched, middle, asked, success⟩
              have reached := accounts_withPatterns asked
              cases matched with
              | false =>
                  rcases accounts_drop success with ⟨rfl, dropped⟩
                  simpa [Settings.dropsSilently, given] using reached.trans dropped
              | true =>
                  rw [if_pos rfl, outcome_bind_of_ok (outcome_isLocked path base _)] at success
                  cases lockedBase : middle.locks.isLocked path base with
                  | true =>
                      simp only [lockedBase, if_true] at success
                      rcases accounts_drop success with ⟨rfl, dropped⟩
                      simpa [Settings.dropsSilently, given] using reached.trans dropped
                  | false =>
                      simp only [lockedBase, Bool.false_eq_true, if_false] at success
                      cases success
                      exact reached.trans (accounts_select lockedBase)

theorem accounts_mayTake {key base : String} {free : Bool}
    (success : (mayTake path key base).outcome start = (.ok free, last)) :
    Accounts start last (if free then [] else [.dropped path key]) := by
  rw [mayTake, outcome_bind_of_ok (outcome_isLocked path key start)] at success
  cases lockedKey : start.locks.isLocked path key with
  | true =>
      simp only [lockedKey, if_true] at success
      rcases accounts_drop success with ⟨rfl, dropped⟩
      exact dropped
  | false =>
      simp only [lockedKey, Bool.false_eq_true, if_false] at success
      rw [outcome_bind_of_ok (outcome_isLocked path base start)] at success
      cases lockedBase : start.locks.isLocked path base with
      | true =>
          simp only [lockedBase, if_true] at success
          rcases accounts_drop success with ⟨rfl, dropped⟩
          exact dropped
      | false =>
          simp only [lockedBase, Bool.false_eq_true, if_false] at success
          cases success
          exact .refl start

theorem accounts_applyResolver {name : String} {resolver : Parameter.Resolver}
    {request : Parameter.Request} {kept : Option (Key × Tree)}
    (success : (applyResolver path name resolver request).outcome start = (.ok kept, last)) :
    Accounts start last (if kept.isSome then [] else [.dropped path name]) := by
  rcases outcome_bind_eq_ok success with ⟨found, middle, asked, success⟩
  have reached := accounts_withPatterns asked
  cases found with
  | none =>
      rcases accounts_drop success with ⟨rfl, dropped⟩
      exact reached.trans dropped
  | some entry =>
      cases success
      exact reached

theorem accounts_markExtraction {isMarked : Bool} {content : Tree} {key : Key} {value : Unit}
    (success : (markExtraction path isMarked content key).outcome start = (.ok value, last)) :
    Accounts start last [] := by
  unfold markExtraction at success
  split at success
  · split at success
    · cases success
      exact .of_eq rfl rfl
    · cases success
      exact .refl start
  · cases success
    exact .refl start

theorem accounts_reports {keys : List String} {value : PUnit}
    (success : (keys.forM fun key => report (.aliasRestored path key) : Walk PUnit).outcome start =
      (.ok value, last)) :
    Accounts start last (keys.map (.aliased path)) := by
  induction keys generalizing start with
  | nil =>
      cases success
      exact .refl _
  | cons key keys inductionHypothesis =>
      rcases outcome_bind_eq_ok success with ⟨_, middle, reported, success⟩
      cases reported
      have here : Accounts start { start with events := .aliasRestored path key :: start.events }
          [.aliased path key] := ⟨.refl _, .refl _⟩
      exact here.trans (inductionHypothesis success)

/-- Every alias that is inserted is reported. -/
theorem accounts_restoreAliases {entries result : Mapping}
    (success : (restoreAliases path entries).outcome start = (.ok result, last)) :
    Accounts start last
      ((addAliases (start.marks.keysAt path) entries).2.map (.aliased path)) := by
  rw [restoreAliases, outcome_bind_of_ok (outcome_get start),
    outcome_bind_of_ok (outcome_modify _ start)] at success
  rcases outcome_bind_eq_ok success with ⟨_, middle, reported, success⟩
  cases success
  have forgotten : Accounts start { start with
      marks := (start.marks.restore path entries).marks } [] := .of_eq rfl rfl
  exact forgotten.trans (accounts_reports reported)

end Walk

/-! ## Entries -/

/-- What the first pass decides about an entry, given which keys are locked. -/
def Settings.firstDecision? (settings : Settings) (path : Path) (locked : String → Bool)
    (key : Key) : Option Decision :=
  match key with
  | .index _ => none
  | .name name =>
      match Tag.ofKey settings.table name with
      | .comment => some (.dropped path name)
      | .tagged ⟨_, marked, .locale base pattern⟩ =>
          if settings.admits pattern marked && !locked name && !locked base then
            some (.selected path base)
          else if settings.dropsSilently locked name marked then none
          else some (.dropped path name)
      | .tagged _ => none

/-- What the second pass decides about an entry, apart from keeping it. -/
def Settings.secondDecision? (settings : Settings) (path : Path) (node : Mapping)
    (locked : String → Bool) (key : Key) : Option Decision :=
  match key with
  | .index _ => none
  | .name name =>
      if settings.decidesSecond key && (settings.secondTarget? node locked key).isNone then
        some (.dropped path name)
      else none

/-- Whether the second pass resolves the value of an entry: no lock is in the way, and the
parameter, if there is one, is enabled.  Its resolver is asked only afterwards. -/
def Settings.attempts (settings : Settings) (locked : String → Bool) (key : Key) : Bool :=
  match key with
  | .index _ => false
  | .name name =>
      match Tag.ofKey settings.table name with
      | .tagged ⟨stripped, _, .plain⟩ => !(locked name || locked stripped)
      | .tagged ⟨_, _, .parameter base parameter _⟩ =>
          !(locked name || locked base) && (settings.resolver? parameter).isSome
      | _ => false

theorem Settings.decidesSecond_of_attempts {settings : Settings} {locked : String → Bool}
    {key : Key} (attempts : settings.attempts locked key = true) :
    settings.decidesSecond key = true := by
  rcases key with name | position
  · rw [Settings.attempts] at attempts
    split at attempts
    case h_1 read => simp only [decidesSecond, read]
    case h_2 read => simp only [decidesSecond, read]
    case h_3 => cases attempts
  · cases attempts

namespace Walk

/-- Whenever the walk begins with nothing locked or marked at the path or below, it accounts
for these decisions. -/
def AccountsBelow (place : Path) (walk : Walk α) (made : List Decision) : Prop :=
  ∀ {start last : Progress} {value : α}, start.FreshBelow place →
    walk.outcome start = (.ok value, last) → Accounts start last made

variable {settings : Settings} {path : Path} {start last : Progress} {key : Key}
  {below : Walk Tree} {inner : List Decision} {kept : Option (Key × Tree)}

theorem accounts_firstEntry (sound : start.patterns.Sound)
    (fresh : settings.decidesFirst key = true → start.FreshBelow (path.child key))
    (inside : AccountsBelow (path.child key) below inner)
    (success : (firstEntry settings path key below).outcome start = (.ok kept, last)) :
    Accounts start last
      ((settings.firstDecision? path (start.locks.isLocked path) key).toList ++
        if (settings.firstTarget? (start.locks.isLocked path) key).isSome then inner else []) := by
  cases key with
  | index position =>
      rcases outcome_bind_eq_ok success with ⟨value, after, resolved, success⟩
      cases success
      exact inside (fresh rfl) resolved
  | name name =>
      rcases outcome_bind_eq_ok success with ⟨_, noticed, near, success⟩
      have idle := reportNearMiss_success near
      have quiet := accounts_reportNearMiss near
      cases tagged : Tag.ofKey settings.table name with
      | comment =>
          simp only [tagged] at success
          rcases accounts_drop success with ⟨_, dropped⟩
          simpa [Settings.firstDecision?, Settings.firstTarget?, tagged] using quiet.trans dropped
      | tagged form =>
          rcases form with ⟨stripped, marked, _ | ⟨base, pattern⟩ | ⟨base, parameter, argument⟩⟩
          · simp only [tagged] at success
            cases success
            simpa [Settings.firstDecision?, Settings.firstTarget?, tagged] using quiet
          · simp only [tagged] at success
            rcases outcome_bind_eq_ok success with ⟨chosen, middle, decided, success⟩
            rcases selectLocale_success (idle.patterns sound) decided with ⟨choice, selected⟩
            have reported := quiet.trans (accounts_selectLocale decided)
            rw [idle.locks] at choice reported
            simp only [Settings.firstDecision?, Settings.firstTarget?, tagged, ← choice]
            cases chosen with
            | false =>
                simp only [Bool.false_eq_true, if_false] at success reported ⊢
                cases success
                cases silently : settings.dropsSilently (start.locks.isLocked path) name marked with
                | false => simpa [silently] using reported
                | true => simpa [silently] using reported
            | true =>
                simp only [if_true] at success reported ⊢
                rcases outcome_bind_eq_ok success with ⟨value, after, resolved, success⟩
                cases success
                have visited : settings.decidesFirst (.name name) = true := by
                  simp only [Settings.decidesFirst, tagged]
                have there := ((fresh visited).idle idle).lock
                  (fun rest => Path.child_below_ne_self path rest _) base
                exact reported.trans (inside (there.idle selected.idle) resolved)
          · simp only [tagged] at success
            cases success
            simpa [Settings.firstDecision?, Settings.firstTarget?, tagged] using quiet

/-- A plain entry is dropped when its name or its base is locked, and is kept otherwise. -/
theorem accounts_secondEntry_of_plain {name stripped : String} {marked : Bool}
    (tagged : Tag.ofKey settings.table name = .tagged ⟨stripped, marked, .plain⟩)
    (fresh : start.FreshBelow (path.child (.name name)))
    (inside : AccountsBelow (path.child (.name name)) below inner) {node : Mapping} {content : Tree}
    (success : (secondEntry settings path node (.name name) content below).outcome start =
      (.ok kept, last)) :
    Accounts start last
      ((settings.secondDecision? path node (start.locks.isLocked path) (.name name)).toList ++
        if settings.attempts (start.locks.isLocked path) (.name name) then inner else []) := by
  simp only [secondEntry, tagged] at success
  rcases outcome_bind_eq_ok success with ⟨free, middle, taken, success⟩
  rcases mayTake_success taken with ⟨choice, idle⟩
  have reported := accounts_mayTake taken
  have attempts : settings.attempts (start.locks.isLocked path) (.name name) = free := by
    simp only [Settings.attempts, tagged, choice]
  have target : settings.secondTarget? node (start.locks.isLocked path) (.name name) =
      if free then some stripped else none := by
    simp only [Settings.secondTarget?, tagged, choice]
    cases start.locks.isLocked path name || start.locks.isLocked path stripped <;> rfl
  have decides : settings.decidesSecond (.name name) = true := by
    simp only [Settings.decidesSecond, tagged]
  simp only [Settings.secondDecision?, decides, target, attempts]
  cases free with
  | false =>
      cases success
      exact reported
  | true =>
      rcases outcome_bind_eq_ok success with ⟨result, after, resolved, success⟩
      rcases outcome_bind_eq_ok success with ⟨_, final, marking, success⟩
      cases success
      exact (reported.trans (inside (fresh.idle idle) resolved)).trans_quiet
        (accounts_markExtraction marking)

/-- The resolver is the last to decide about a parameterized entry. -/
theorem accounts_decideParameter {name base parameter argument : String} {marked : Bool}
    {resolver : Parameter.Resolver} (enabled : settings.resolver? parameter = some resolver)
    (sound : start.patterns.Sound) {node : Mapping} {content result : Tree}
    (success : (do
      let kept ← applyResolver path name resolver
        ⟨node, base, parameter, argument, result, settings.locale⟩
      if let some (keptKey, _) := kept then
        markExtraction path marked content keptKey
      return kept : Walk (Option (Key × Tree))).outcome start = (.ok kept, last)) :
    Accounts start last
      (if settings.accepts node base parameter argument then [] else [.dropped path name]) := by
  rcases outcome_bind_eq_ok success with ⟨found, middle, applied, success⟩
  rcases applyResolver_success sound applied with ⟨verdict, _⟩
  have answered := accounts_applyResolver applied
  have accepts : found.isSome = settings.accepts node base parameter argument := by
    rw [verdict]
    simp only [Settings.accepts, enabled]
    split
    case isTrue accepted => rw [accepted]; rfl
    case isFalse rejected => rw [Bool.eq_false_iff.mpr rejected]; rfl
  rw [accepts] at answered
  cases found with
  | none =>
      cases success
      exact answered
  | some entry =>
      rcases outcome_bind_eq_ok success with ⟨_, final, marking, success⟩
      cases success
      exact answered.trans_quiet (accounts_markExtraction marking)

/-- A parameterized entry is dropped when a lock is in the way, when its parameter is not
enabled, or when its resolver rejects it after its value has been resolved. -/
theorem accounts_secondEntry_of_parameter {name stripped base parameter argument : String}
    {marked : Bool}
    (tagged : Tag.ofKey settings.table name =
      .tagged ⟨stripped, marked, .parameter base parameter argument⟩)
    (fresh : start.FreshBelow (path.child (.name name)))
    (keeps : Preserves (fun progress => progress.patterns.Sound) below)
    (inside : AccountsBelow (path.child (.name name)) below inner) {node : Mapping} {content : Tree}
    (success : (secondEntry settings path node (.name name) content below).outcome start =
      (.ok kept, last)) :
    Accounts start last
      ((settings.secondDecision? path node (start.locks.isLocked path) (.name name)).toList ++
        if settings.attempts (start.locks.isLocked path) (.name name) then inner else []) := by
  simp only [secondEntry, tagged] at success
  rcases outcome_bind_eq_ok success with ⟨free, middle, taken, success⟩
  rcases mayTake_success taken with ⟨choice, idle⟩
  have reported := accounts_mayTake taken
  have attempts : settings.attempts (start.locks.isLocked path) (.name name) =
      (free && (settings.resolver? parameter).isSome) := by
    simp only [Settings.attempts, tagged, choice]
  have target : settings.secondTarget? node (start.locks.isLocked path) (.name name) =
      if free && settings.accepts node base parameter argument then some base else none := by
    simp only [Settings.secondTarget?, tagged, choice]
    cases start.locks.isLocked path name || start.locks.isLocked path base <;> simp
  have decides : settings.decidesSecond (.name name) = true := by
    simp only [Settings.decidesSecond, tagged]
  simp only [Settings.secondDecision?, decides, target, attempts]
  cases free with
  | false =>
      cases success
      exact reported
  | true =>
      simp only [if_true] at success reported
      cases enabled : settings.resolver? parameter with
      | none =>
          simp only [enabled] at success
          rcases accounts_drop success with ⟨_, dropped⟩
          simpa [Settings.accepts, enabled] using reported.trans dropped
      | some resolver =>
          simp only [enabled] at success
          rcases outcome_bind_eq_ok success with ⟨result, after, resolved, success⟩
          have there := fresh.idle idle
          have visited := reported.trans (inside there resolved)
          have answered := accounts_decideParameter enabled (keeps resolved there.sound) success
          refine (visited.trans answered).perm ?_
          cases accepted : settings.accepts node base parameter argument with
          | false => exact List.perm_append_comm
          | true => simp

theorem accounts_secondEntry {node : Mapping} {content : Tree}
    (fresh : settings.decidesSecond key = true → start.FreshBelow (path.child key))
    (keeps : Preserves (fun progress => progress.patterns.Sound) below)
    (inside : AccountsBelow (path.child key) below inner)
    (success : (secondEntry settings path node key content below).outcome start =
      (.ok kept, last)) :
    Accounts start last
      ((settings.secondDecision? path node (start.locks.isLocked path) key).toList ++
        if settings.attempts (start.locks.isLocked path) key then inner else []) := by
  cases decided : settings.decidesSecond key with
  | false =>
      rw [secondEntry_of_not_decidesSecond decided] at success
      cases success
      have passes : settings.attempts (start.locks.isLocked path) key = false := by
        rw [Bool.eq_false_iff]
        intro attempts
        rw [Settings.decidesSecond_of_attempts attempts] at decided
        cases decided
      have nothing : settings.secondDecision? path node (start.locks.isLocked path) key = none := by
        rcases key with name | position
        · simp only [Settings.secondDecision?, decided, Bool.false_and, Bool.false_eq_true, if_false]
        · rfl
      rw [passes, nothing]
      exact .refl start
  | true =>
      rcases key with name | position
      · cases tagged : Tag.ofKey settings.table name with
        | comment => simp [Settings.decidesSecond, tagged] at decided
        | tagged form =>
            rcases form with ⟨stripped, marked, _ | ⟨base, pattern⟩ | ⟨base, parameter, argument⟩⟩
            · exact accounts_secondEntry_of_plain tagged (fresh decided) inside success
            · simp [Settings.decidesSecond, tagged] at decided
            · exact accounts_secondEntry_of_parameter tagged (fresh decided) keeps inside success
      · cases decided

end Walk
end Resolution
end TaggedContent
