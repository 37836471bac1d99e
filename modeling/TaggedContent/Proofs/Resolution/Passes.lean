import TaggedContent.Proofs.Resolution.Outcome
import TaggedContent.Proofs.Tag
import TaggedContent.Proofs.Tree

namespace TaggedContent
namespace Resolution

/-!
# The two passes as lists of steps

A pass takes one step for each entry, and a sequence one for each position.  Each step
is told the walk over the value of its entry.  What a successful step does is then
said once for each pass, in terms of the key under which the entry may be kept: this
depends on the settings, on the locks at hand and, for a parameter, on the mapping as
written, but never on what the value comes to.
-/

theorem Settings.resolve_eq_outcome (settings : Settings) (tree : Tree) :
    settings.resolve tree = ((Walk.resolveTree settings .root tree).outcome .initial).1 :=
  rfl

namespace Walk

/-- The walk over the value of an entry of the node at `path`. -/
def resolveChild (settings : Settings) (path : Path) (entry : Key × Tree) : Walk Tree :=
  resolveTree settings (path.child entry.1) entry.2

/-- Both passes over the entries and their assembly, where `below` walks over the value
of an entry. -/
def resolveEntries (settings : Settings) (path : Path) (below : Key × Tree → Walk Tree)
    (entries : Mapping) : Walk Mapping := do
  let first ← entries.mapM fun entry => firstEntry settings path entry.1 (below entry)
  let second ← entries.mapM fun entry =>
    secondEntry settings path entries entry.1 entry.2 (below entry)
  restoreAliases path (assemble first second)

theorem firstPass_eq_mapM (settings : Settings) (path : Path) (entries : Mapping) :
    firstPass settings path entries =
      entries.mapM fun entry =>
        firstEntry settings path entry.1 (resolveChild settings path entry) := by
  induction entries with
  | nil => rfl
  | cons entry rest inductionHypothesis =>
      rw [List.mapM_cons, ← inductionHypothesis]
      rfl

theorem secondPass_eq_mapM (settings : Settings) (path : Path) (node entries : Mapping) :
    secondPass settings path node entries =
      entries.mapM fun entry =>
        secondEntry settings path node entry.1 entry.2 (resolveChild settings path entry) := by
  induction entries with
  | nil => rfl
  | cons entry rest inductionHypothesis =>
      rw [List.mapM_cons, ← inductionHypothesis]
      rfl

theorem resolveItems_eq_mapM (settings : Settings) (path : Path) (items : List Tree)
    (position : Nat) :
    resolveItems settings path position items =
      (Tree.positioned items position).mapM (resolveChild settings path) := by
  induction items generalizing position with
  | nil => rfl
  | cons item items inductionHypothesis =>
      rw [Tree.positioned_cons, List.mapM_cons, ← inductionHypothesis]
      rfl

theorem resolveTree_mapping (settings : Settings) (path : Path) (entries : Mapping) :
    resolveTree settings path (.mapping entries) =
      Tree.mapping <$> resolveEntries settings path (resolveChild settings path) entries := by
  rw [resolveTree, firstPass_eq_mapM, secondPass_eq_mapM]
  simp only [resolveEntries, map_eq_pure_bind, bind_assoc]

theorem resolveTree_sequence (settings : Settings) (path : Path) (items : List Tree) :
    resolveTree settings path (.sequence items) =
      Tree.sequence <$> (Tree.positioned items 0).mapM (resolveChild settings path) := by
  rw [resolveTree, resolveItems_eq_mapM, map_eq_pure_bind]

theorem resolveTree_scalar (settings : Settings) (path : Path) {tree : Tree}
    (scalar : tree.IsScalar) : resolveTree settings path tree = pure tree := by
  cases tree <;> first | rfl | cases scalar

end Walk

/-! ## What decides about an entry -/

/-- Whether the first pass decides the entry: it has an index or a locale tag. -/
def Settings.decidesFirst (settings : Settings) (key : Key) : Bool :=
  match key with
  | .index _ => true
  | .name name =>
      match Tag.ofKey settings.table name with
      | .tagged ⟨_, _, .locale _ _⟩ => true
      | _ => false

/-- Whether the second pass decides the entry: it is plain or parameterized. -/
def Settings.decidesSecond (settings : Settings) (key : Key) : Bool :=
  match key with
  | .index _ => false
  | .name name =>
      match Tag.ofKey settings.table name with
      | .tagged ⟨_, _, .plain⟩ => true
      | .tagged ⟨_, _, .parameter _ _ _⟩ => true
      | _ => false

/-- Whether a locale entry with this pattern applies: it is not marked, and its pattern
matches the locale. -/
def Settings.admits (settings : Settings) (pattern : String) (marked : Bool) : Bool :=
  match marked, settings.locale with
  | false, some locale => (Pattern.verdict pattern locale).toOption == some true
  | _, _ => false

/-- The key under which the first pass keeps an entry, given which keys are locked. -/
def Settings.firstTarget? (settings : Settings) (locked : String → Bool) (key : Key) :
    Option Key :=
  match key with
  | .index _ => some key
  | .name name =>
      match Tag.ofKey settings.table name with
      | .tagged ⟨_, marked, .locale base pattern⟩ =>
          if settings.admits pattern marked && !locked name && !locked base then
            some (.name base)
          else none
      | _ => none

/-- Whether the parameter of an entry is enabled and its resolver accepts the entry. -/
def Settings.accepts (settings : Settings) (node : Mapping) (base parameter argument : String) :
    Bool :=
  match settings.resolver? parameter with
  | some resolver =>
      (resolver.verdict ⟨node, base, parameter, argument, .null, settings.locale⟩).toOption ==
        some true
  | none => false

/-- The key under which the second pass keeps an entry of the mapping `node`, given
which keys are locked. -/
def Settings.secondTarget? (settings : Settings) (node : Mapping) (locked : String → Bool)
    (key : Key) : Option String :=
  match key with
  | .index _ => none
  | .name name =>
      match Tag.ofKey settings.table name with
      | .tagged ⟨stripped, _, .plain⟩ =>
          if locked name || locked stripped then none else some stripped
      | .tagged ⟨_, _, .parameter base parameter argument⟩ =>
          if locked name || locked base then none
          else if settings.accepts node base parameter argument then some base
          else none
      | _ => none

/-- Whether the entry carries the extraction mark. -/
def Settings.marks (settings : Settings) (key : Key) : Bool :=
  match key with
  | .index _ => false
  | .name name =>
      match Tag.ofKey settings.table name with
      | .tagged tagged => tagged.marked
      | .comment => false

/-- The key that an entry is for, unless it is a comment or has an index. -/
def Settings.base? (settings : Settings) (key : Key) : Option String :=
  match key with
  | .index _ => none
  | .name name =>
      match Tag.ofKey settings.table name with
      | .tagged tagged => some tagged.base
      | .comment => none

section

variable {settings : Settings} {key : Key} {locked : String → Bool} {base : String}

theorem Settings.base?_of_firstTarget?
    (target : settings.firstTarget? locked key = some (.name base)) :
    settings.base? key = some base := by
  rcases key with name | position
  · rw [firstTarget?] at target
    split at target
    case h_1 read =>
        split at target
        case isTrue =>
            cases target
            simp only [base?, read, TaggedKey.base]
        case isFalse => cases target
    case h_2 => cases target
  · cases target

theorem Settings.base?_of_secondTarget? {node : Mapping}
    (target : settings.secondTarget? node locked key = some base) :
    settings.base? key = some base := by
  rcases key with name | position
  · rw [secondTarget?] at target
    split at target
    case h_1 read =>
        split at target
        case isTrue => cases target
        case isFalse =>
            cases target
            simp only [base?, read, TaggedKey.base]
    case h_2 read =>
        split at target
        case isTrue => cases target
        case isFalse =>
            split at target
            case isTrue =>
                cases target
                simp only [base?, read, TaggedKey.base]
            case isFalse => cases target
    case h_3 => cases target
  · cases target

/-- Every name has at most one tag, or is a comment. -/
def SimpleKeys (entries : Mapping) : Prop :=
  ∀ name, .name name ∈ Entries.keys entries → Tag.HasSimpleShape name

theorem SimpleKeys.base_clean {entries : Mapping} (simple : SimpleKeys entries)
    {entry : Key × Tree} (member : entry ∈ entries) (isBase : settings.base? entry.1 = some base) :
    '@' ∉ base.toList := by
  rcases entry with ⟨name | position, value⟩
  · rw [Settings.base?] at isBase
    cases read : Tag.ofKey settings.table name with
    | comment =>
        rw [read] at isBase
        cases isBase
    | tagged tagged =>
        rw [read] at isBase
        cases isBase
        exact (simple name (Entries.mem_keys_of_mem member)).base_clean read
  · cases isBase

end

/-! ## What a successful step does -/

/-- Nothing is locked or marked in between, and the cache stays sound. -/
structure Progress.Idle (before after : Progress) : Prop where
  locks : after.locks = before.locks
  marks : after.marks = before.marks
  patterns : before.patterns.Sound → after.patterns.Sound

theorem Progress.Idle.refl (progress : Progress) : progress.Idle progress :=
  ⟨rfl, rfl, id⟩

theorem Progress.Idle.trans {first second third : Progress} (before : first.Idle second)
    (after : second.Idle third) : first.Idle third :=
  ⟨after.locks.trans before.locks, after.marks.trans before.marks,
    after.patterns ∘ before.patterns⟩

namespace Walk

variable {settings : Settings} {path : Path}

theorem outcome_reportNearMiss (settings : Settings) (key : String) (progress : Progress) :
    ∃ after, (reportNearMiss settings key).outcome progress = (.ok (), after) ∧
      progress.Idle after := by
  unfold reportNearMiss
  split
  · exact ⟨_, outcome_report _ progress, rfl, rfl, id⟩
  · exact ⟨progress, rfl, rfl, rfl, id⟩

theorem reportNearMiss_success {key : String} {start last : Progress}
    (success : (reportNearMiss settings key).outcome start = (.ok (), last)) :
    start.Idle last := by
  rcases outcome_reportNearMiss settings key start with ⟨_, reported, idle⟩
  rw [reported] at success
  cases success
  exact idle

theorem withPatterns_success {key : String} {value : α} {start last : Progress}
    {step : Pattern.Cache → Except Pattern.PatternError α × Pattern.Cache}
    {answer : Except Pattern.PatternError α} (answers : Pattern.Cache.Answers step answer)
    (sound : start.patterns.Sound)
    (success : (withPatterns path key step).outcome start = (.ok value, last)) :
    answer = .ok value ∧ start.Idle last := by
  rcases answers start.patterns sound with ⟨same, after⟩
  rw [outcome_withPatterns, same] at success
  cases answer with
  | error error => cases success
  | ok found =>
      cases success
      exact ⟨rfl, rfl, rfl, fun _ => after⟩

theorem outcome_drop (path : Path) (key : String) (reason : DropReason) (value : α)
    (progress : Progress) :
    ∃ last, (drop path key reason >>= fun _ => pure value : Walk α).outcome progress =
        (.ok value, last) ∧ progress.Idle last :=
  ⟨_, rfl, rfl, rfl, id⟩

theorem drop_success {key : String} {reason : DropReason} {value result : α}
    {start last : Progress}
    (success : (drop path key reason >>= fun _ => pure value : Walk α).outcome start =
      (.ok result, last)) :
    result = value ∧ start.Idle last := by
  rcases outcome_drop path key reason value start with ⟨_, dropped, idle⟩
  rw [dropped] at success
  cases success
  exact ⟨rfl, idle⟩

/-- What a locale entry does that is chosen or not: it locks its base, or nothing. -/
structure Selected (path : Path) (base : String) (chosen : Bool) (start last : Progress) :
    Prop where
  locks : last.locks = if chosen then start.locks.lock path base else start.locks
  marks : last.marks = start.marks
  patterns : start.patterns.Sound → last.patterns.Sound

theorem Selected.of_idle {base : String} {start last : Progress} (idle : start.Idle last) :
    Selected path base false start last :=
  ⟨idle.locks, idle.marks, idle.patterns⟩

/-- Apart from its lock an entry that is chosen leaves no trace. -/
theorem Selected.idle {base : String} {start last : Progress}
    (selected : Selected path base true start last) :
    { start with locks := start.locks.lock path base }.Idle last :=
  ⟨selected.locks, selected.marks, selected.patterns⟩

/-- A locale entry is chosen exactly when its pattern applies and neither its name nor
its base is locked; then, and only then, its base is locked. -/
theorem selectLocale_success {key base pattern : String} {marked chosen : Bool}
    {start last : Progress} (sound : start.patterns.Sound)
    (success : (selectLocale settings path key base pattern marked).outcome start =
      (.ok chosen, last)) :
    chosen = (settings.admits pattern marked && !start.locks.isLocked path key &&
        !start.locks.isLocked path base) ∧
      Selected path base chosen start last := by
  rw [selectLocale, outcome_bind_of_ok (outcome_isLocked path key start)] at success
  cases lockedKey : start.locks.isLocked path key with
  | true =>
      simp only [lockedKey, if_true] at success
      rcases drop_success success with ⟨rfl, idle⟩
      exact ⟨by simp, .of_idle idle⟩
  | false =>
      simp only [lockedKey, Bool.false_eq_true, if_false] at success
      cases marked with
      | true =>
          rcases drop_success success with ⟨rfl, idle⟩
          exact ⟨by simp [Settings.admits], .of_idle idle⟩
      | false =>
          simp only [Bool.false_eq_true, if_false] at success
          cases given : settings.locale with
          | none =>
              simp only [given] at success
              cases success
              exact ⟨by simp [Settings.admits, given], .of_idle (.refl _)⟩
          | some locale =>
              simp only [given] at success
              rcases outcome_bind_eq_ok success with ⟨matched, middle, asked, success⟩
              rcases withPatterns_success
                  (Pattern.Cache.fullMatch_answers pattern locale) sound asked with
                ⟨verdict, reached⟩
              have admits : settings.admits pattern false = matched := by
                cases matched <;> simp [Settings.admits, given, verdict, Except.toOption]
              rw [admits]
              cases matched with
              | false =>
                  rcases drop_success success with ⟨rfl, idle⟩
                  exact ⟨by simp, .of_idle (reached.trans idle)⟩
              | true =>
                  rw [if_pos rfl, outcome_bind_of_ok (outcome_isLocked path base _),
                    reached.locks] at success
                  cases lockedBase : start.locks.isLocked path base with
                  | true =>
                      simp only [lockedBase, if_true] at success
                      rcases drop_success success with ⟨rfl, idle⟩
                      exact ⟨by simp, .of_idle (reached.trans idle)⟩
                  | false =>
                      simp only [lockedBase, Bool.false_eq_true, if_false] at success
                      cases success
                      exact ⟨by simp, congrArg (Locks.lock · path base) reached.locks, reached.marks,
                        reached.patterns⟩

/-- Taking a base under a name is refused when either is locked. -/
theorem outcome_mayTake (path : Path) (key base : String) (progress : Progress) :
    ∃ last, (mayTake path key base).outcome progress =
        (.ok !(progress.locks.isLocked path key || progress.locks.isLocked path base), last) ∧
      progress.Idle last := by
  rw [mayTake, outcome_bind_of_ok (outcome_isLocked path key progress)]
  cases progress.locks.isLocked path key with
  | true => exact outcome_drop path key _ false progress
  | false =>
      rw [if_neg Bool.false_ne_true, outcome_bind_of_ok (outcome_isLocked path base progress)]
      cases progress.locks.isLocked path base with
      | true => exact outcome_drop path key _ false progress
      | false => exact ⟨progress, rfl, .refl progress⟩

theorem mayTake_success {key base : String} {free : Bool} {start last : Progress}
    (success : (mayTake path key base).outcome start = (.ok free, last)) :
    free = !(start.locks.isLocked path key || start.locks.isLocked path base) ∧
      start.Idle last := by
  rcases outcome_mayTake path key base start with ⟨_, taken, idle⟩
  rw [taken] at success
  cases success
  exact ⟨rfl, idle⟩

/-- What a successful step of the first pass does.  An entry is passed over without a
target; otherwise its value is resolved after a base that it claims has been locked,
and is kept under the target. -/
inductive FirstStep (settings : Settings) (path : Path) (key : Key) (below : Walk Tree)
    (start : Progress) : Option (Key × Tree) → Progress → Prop where
  | passed {last : Progress}
      (target : settings.firstTarget? (start.locks.isLocked path) key = none)
      (idle : start.Idle last) : FirstStep settings path key below start none last
  | index {position : Int64} {value : Tree} {last : Progress} (isIndex : key = .index position)
      (resolved : below.outcome start = (.ok value, last)) :
      FirstStep settings path key below start (some (key, value)) last
  | selected {name base : String} {value : Tree} {middle last : Progress}
      (isName : key = .name name)
      (target : settings.firstTarget? (start.locks.isLocked path) key = some (.name base))
      (claimed : Selected path base true start middle)
      (resolved : below.outcome middle = (.ok value, last)) :
      FirstStep settings path key below start (some (.name base, value)) last

/-- A step over a locale entry, which takes its base when it is selected. -/
theorem firstEntry_success_of_locale {name stripped base pattern : String} {marked : Bool}
    (tagged : Tag.ofKey settings.table name = .tagged ⟨stripped, marked, .locale base pattern⟩)
    {below : Walk Tree} {kept : Option (Key × Tree)} {start last : Progress}
    (sound : start.patterns.Sound)
    (success : (firstEntry settings path (.name name) below).outcome start = (.ok kept, last)) :
    FirstStep settings path (.name name) below start kept last := by
  rcases outcome_bind_eq_ok success with ⟨_, noticed, near, success⟩
  have idle := reportNearMiss_success near
  simp only [tagged] at success
  rcases outcome_bind_eq_ok success with ⟨chosen, middle, decided, success⟩
  rcases selectLocale_success (idle.patterns sound) decided with ⟨choice, selected⟩
  rw [idle.locks] at choice
  have target : settings.firstTarget? (start.locks.isLocked path) (.name name) =
      if chosen then some (.name base) else none := by
    simp only [Settings.firstTarget?, tagged, choice]
  cases chosen with
  | false =>
      simp only [Bool.false_eq_true, if_false] at success target
      cases success
      exact .passed target ⟨selected.locks.trans idle.locks,
        selected.marks.trans idle.marks, selected.patterns ∘ idle.patterns⟩
  | true =>
      simp only [if_true] at success target
      rcases outcome_bind_eq_ok success with ⟨value, after, resolved, success⟩
      cases success
      exact .selected rfl target ⟨by rw [selected.locks, idle.locks],
        selected.marks.trans idle.marks, selected.patterns ∘ idle.patterns⟩ resolved

theorem firstEntry_success {key : Key} {below : Walk Tree} {kept : Option (Key × Tree)}
    {start last : Progress} (sound : start.patterns.Sound)
    (success : (firstEntry settings path key below).outcome start = (.ok kept, last)) :
    FirstStep settings path key below start kept last := by
  cases key with
  | index position =>
      rcases outcome_bind_eq_ok success with ⟨value, after, resolved, success⟩
      cases success
      exact .index rfl resolved
  | name name =>
      rcases outcome_bind_eq_ok success with ⟨_, noticed, near, rest⟩
      have idle := reportNearMiss_success near
      cases tagged : Tag.ofKey settings.table name with
      | comment =>
          simp only [tagged] at rest
          rcases drop_success rest with ⟨rfl, dropped⟩
          exact .passed (by simp [Settings.firstTarget?, tagged]) (idle.trans dropped)
      | tagged key =>
          rcases key with ⟨stripped, marked, form⟩
          cases form with
          | locale base pattern => exact firstEntry_success_of_locale tagged sound success
          | plain =>
              simp only [tagged] at rest
              cases rest
              exact .passed (by simp [Settings.firstTarget?, tagged]) idle
          | parameter base parameter argument =>
              simp only [tagged] at rest
              cases rest
              exact .passed (by simp [Settings.firstTarget?, tagged]) idle

/-- The resolver decides by its verdict, which does not look at the resolved value. -/
theorem applyResolver_success {name : String} {resolver : Parameter.Resolver}
    {request : Parameter.Request} {kept : Option (Key × Tree)} {start last : Progress}
    (sound : start.patterns.Sound)
    (success : (applyResolver path name resolver request).outcome start = (.ok kept, last)) :
    kept = (if (resolver.verdict { request with content := .null }).toOption == some true then
        some (.name request.base, request.content) else none) ∧ start.Idle last := by
  rcases outcome_bind_eq_ok success with ⟨found, middle, asked, success⟩
  rcases withPatterns_success (resolver.resolve_answers request) sound asked with ⟨answer, idle⟩
  have sameVerdict := resolver.verdict_congr request request.node .null rfl
  have decided : found =
      if (resolver.verdict { request with content := .null }).toOption == some true then
        some (.name request.base, request.content) else none := by
    rw [sameVerdict]
    cases verdict : resolver.verdict request with
    | error error =>
        rw [verdict] at answer
        cases answer
    | ok applies =>
        rw [verdict] at answer
        cases answer
        cases applies <;> simp [Except.toOption]
  rw [← decided]
  cases found with
  | none =>
      rcases drop_success success with ⟨rfl, dropped⟩
      exact ⟨rfl, idle.trans dropped⟩
  | some entry =>
      cases success
      exact ⟨rfl, idle⟩

/-- What keeping an entry does: it marks the base, or nothing. -/
structure Marked (path : Path) (base : String) (marked : Bool) (start last : Progress) :
    Prop where
  locks : last.locks = start.locks
  marks : last.marks = if marked then start.marks.mark path base else start.marks
  patterns : start.patterns.Sound → last.patterns.Sound

/-- Apart from its mark an entry that is kept leaves no trace. -/
theorem Marked.idle {base : String} {start last : Progress}
    (marked : Marked path base true start last) :
    { start with marks := start.marks.mark path base }.Idle last :=
  ⟨marked.locks, marked.marks, marked.patterns⟩

theorem Marked.idle_of_unmarked {base : String} {start last : Progress}
    (marked : Marked path base false start last) : start.Idle last :=
  ⟨marked.locks, marked.marks, marked.patterns⟩

theorem Marked.after_idle {base : String} {marked : Bool} {start middle last : Progress}
    (marking : Marked path base marked middle last) (idle : start.Idle middle) :
    Marked path base marked start last :=
  ⟨marking.locks.trans idle.locks, by rw [marking.marks, idle.marks],
    marking.patterns ∘ idle.patterns⟩

theorem markExtraction_success {marked : Bool} {value : Tree} {base : String}
    {start last : Progress}
    (success : (markExtraction path marked value (.name base)).outcome start = (.ok (), last)) :
    Marked path base (marked && value.isSequence) start last := by
  unfold markExtraction at success
  cases marking : marked && value.isSequence with
  | true =>
      simp only [marking, if_true] at success
      cases success
      exact ⟨rfl, rfl, id⟩
  | false =>
      simp only [marking, Bool.false_eq_true, if_false] at success
      cases success
      exact ⟨rfl, rfl, id⟩

/-- What a successful step of the second pass does.  An entry without a target is passed
over, or is dropped by its resolver when its value has been resolved; otherwise it is
kept under the target, and marked when it is to be extracted. -/
inductive SecondStep (settings : Settings) (path : Path) (node : Mapping) (key : Key)
    (value : Tree) (below : Walk Tree) (start : Progress) :
    Option (Key × Tree) → Progress → Prop where
  | passed {last : Progress}
      (target : settings.secondTarget? node (start.locks.isLocked path) key = none)
      (idle : start.Idle last) : SecondStep settings path node key value below start none last
  | rejected {result : Tree} {middle after last : Progress}
      (target : settings.secondTarget? node (start.locks.isLocked path) key = none)
      (idle : start.Idle middle) (resolved : below.outcome middle = (.ok result, after))
      (dropped : after.Idle last) : SecondStep settings path node key value below start none last
  | kept {name base : String} {result : Tree} {middle after last : Progress}
      (isName : key = .name name)
      (target : settings.secondTarget? node (start.locks.isLocked path) key = some base)
      (idle : start.Idle middle) (resolved : below.outcome middle = (.ok result, after))
      (marked : Marked path base (settings.marks key && value.isSequence) after last) :
      SecondStep settings path node key value below start (some (.name base, result)) last

/-- A step over a plain entry, which is kept unless its name or its base is locked. -/
theorem secondEntry_success_of_plain {name stripped : String} {marked : Bool}
    (tagged : Tag.ofKey settings.table name = .tagged ⟨stripped, marked, .plain⟩)
    {node : Mapping} {value : Tree} {below : Walk Tree} {kept : Option (Key × Tree)}
    {start last : Progress}
    (success : (secondEntry settings path node (.name name) value below).outcome start =
      (.ok kept, last)) :
    SecondStep settings path node (.name name) value below start kept last := by
  have marks : settings.marks (.name name) = marked := by
    simp only [Settings.marks, tagged]
  simp only [secondEntry, tagged] at success
  rcases outcome_bind_eq_ok success with ⟨free, middle, taken, success⟩
  rcases mayTake_success taken with ⟨choice, idle⟩
  cases free with
  | false =>
      cases success
      exact .passed (by simpa [Settings.secondTarget?, tagged] using choice) idle
  | true =>
      rcases outcome_bind_eq_ok success with ⟨result, after, resolved, success⟩
      rcases outcome_bind_eq_ok success with ⟨_, final, marking, success⟩
      cases success
      refine .kept rfl ?_ idle resolved (marks ▸ markExtraction_success marking)
      simpa [Settings.secondTarget?, tagged] using choice

/-- A step over a parameterized entry.  Its value is resolved when its parameter is
enabled, before the resolver decides whether it is kept. -/
theorem secondEntry_success_of_parameter {name stripped base parameter argument : String}
    {marked : Bool}
    (tagged : Tag.ofKey settings.table name =
      .tagged ⟨stripped, marked, .parameter base parameter argument⟩)
    {node : Mapping} {value : Tree} {below : Walk Tree} {kept : Option (Key × Tree)}
    {start last : Progress} (sound : start.patterns.Sound)
    (keeps : Preserves (fun progress => progress.patterns.Sound) below)
    (success : (secondEntry settings path node (.name name) value below).outcome start =
      (.ok kept, last)) :
    SecondStep settings path node (.name name) value below start kept last := by
  have marks : settings.marks (.name name) = marked := by
    simp only [Settings.marks, tagged]
  simp only [secondEntry, tagged] at success
  rcases outcome_bind_eq_ok success with ⟨free, middle, taken, success⟩
  rcases mayTake_success taken with ⟨choice, idle⟩
  cases free with
  | false =>
      cases success
      exact .passed (by simp_all [Settings.secondTarget?]) idle
  | true =>
      have target : settings.secondTarget? node (start.locks.isLocked path) (.name name) =
          if settings.accepts node base parameter argument then some base else none := by
        simp_all [Settings.secondTarget?]
      simp only [if_true] at success
      cases enabled : settings.resolver? parameter with
      | none =>
          simp only [enabled] at success
          rcases drop_success success with ⟨rfl, dropped⟩
          exact .passed (by simp [target, Settings.accepts, enabled]) (idle.trans dropped)
      | some resolver =>
          simp only [enabled] at success
          rcases outcome_bind_eq_ok success with ⟨result, after, resolved, success⟩
          rcases outcome_bind_eq_ok success with ⟨found, decided, applied, success⟩
          rcases applyResolver_success (keeps resolved (idle.patterns sound)) applied with
            ⟨verdict, dropped⟩
          have accepts : settings.accepts node base parameter argument =
              ((resolver.verdict ⟨node, base, parameter, argument, .null,
                settings.locale⟩).toOption == some true) := by
            simp only [Settings.accepts, enabled]
          simp only [← accepts] at verdict
          cases accepted : settings.accepts node base parameter argument with
          | false =>
              simp only [accepted, Bool.false_eq_true, if_false] at verdict target
              subst verdict
              cases success
              exact .rejected target idle resolved dropped
          | true =>
              simp only [accepted, if_true] at verdict target
              subst verdict
              rcases outcome_bind_eq_ok success with ⟨_, final, marking, success⟩
              cases success
              have marked := markExtraction_success marking
              exact .kept rfl target idle resolved (marks ▸ marked.after_idle dropped)

theorem secondEntry_success {node : Mapping} {key : Key} {value : Tree} {below : Walk Tree}
    {kept : Option (Key × Tree)} {start last : Progress} (sound : start.patterns.Sound)
    (keeps : Preserves (fun progress => progress.patterns.Sound) below)
    (success : (secondEntry settings path node key value below).outcome start =
      (.ok kept, last)) :
    SecondStep settings path node key value below start kept last := by
  cases key with
  | index position =>
      cases success
      exact .passed rfl (.refl _)
  | name name =>
      cases tagged : Tag.ofKey settings.table name with
      | comment =>
          simp only [secondEntry, tagged] at success
          cases success
          exact .passed (by simp [Settings.secondTarget?, tagged]) (.refl _)
      | tagged key =>
          rcases key with ⟨stripped, marked, form⟩
          cases form with
          | plain => exact secondEntry_success_of_plain tagged success
          | parameter base parameter argument =>
              exact secondEntry_success_of_parameter tagged sound keeps success
          | locale base pattern =>
              simp only [secondEntry, tagged] at success
              cases success
              exact .passed (by simp [Settings.secondTarget?, tagged]) (.refl _)

/-! ## Each entry is decided by one pass -/

theorem outcome_firstEntry_of_not_decidesFirst {key : Key}
    (decided : settings.decidesFirst key = false) (below : Walk Tree) (progress : Progress) :
    ∃ last, (firstEntry settings path key below).outcome progress = (.ok none, last) ∧
      progress.Idle last := by
  rcases key with name | position
  · rcases outcome_reportNearMiss settings name progress with ⟨noticed, reported, idle⟩
    rw [Settings.decidesFirst] at decided
    dsimp only [firstEntry]
    rw [outcome_bind_of_ok reported]
    split
    case h_1 =>
        rcases outcome_drop path name .comment none noticed with ⟨last, dropped, later⟩
        exact ⟨last, dropped, idle.trans later⟩
    case h_2 read =>
        rw [read] at decided
        cases decided
    case h_3 => exact ⟨noticed, rfl, idle⟩
  · cases decided

theorem firstEntry_of_not_decidesFirst {key : Key} (decided : settings.decidesFirst key = false)
    {below : Walk Tree} {kept : Option (Key × Tree)} {start last : Progress}
    (success : (firstEntry settings path key below).outcome start = (.ok kept, last)) :
    kept = none := by
  rcases outcome_firstEntry_of_not_decidesFirst decided below start with ⟨_, passed, _⟩
  rw [passed] at success
  cases success
  rfl

theorem secondEntry_of_not_decidesSecond {key : Key}
    (decided : settings.decidesSecond key = false) (node : Mapping) (value : Tree)
    (below : Walk Tree) : secondEntry settings path node key value below = pure none := by
  rcases key with name | position
  · rw [Settings.decidesSecond] at decided
    split at decided
    case h_1 => cases decided
    case h_2 => cases decided
    case h_3 notPlain notParameter =>
        dsimp only [secondEntry]
        split
        case h_1 read => exact absurd read (notPlain _ _)
        case h_2 read => exact absurd read (notParameter _ _ _ _ _)
        case h_3 => rfl
  · rfl

theorem decidesSecond_of_decidesFirst {key : Key} (decided : settings.decidesFirst key = true) :
    settings.decidesSecond key = false := by
  rcases key with name | position
  · rw [Settings.decidesFirst] at decided
    split at decided
    case h_1 read => simp only [Settings.decidesSecond, read]
    case h_2 => cases decided
  · rfl

theorem secondEntry_of_decidesFirst {key : Key} (decided : settings.decidesFirst key = true)
    (node : Mapping) (value : Tree) (below : Walk Tree) :
    secondEntry settings path node key value below = pure none :=
  secondEntry_of_not_decidesSecond (decidesSecond_of_decidesFirst decided) node value below

/-- Nothing is kept of one entry by both passes. -/
theorem forall₂_kept_of_steps {node entries : Mapping} {below : Key × Tree → Walk Tree}
    {start middle start' last : Progress} {early late : List (Option (Key × Tree))}
    (first : Steps (fun entry => firstEntry settings path entry.1 (below entry)) entries start
      early middle)
    (second : Steps (fun entry => secondEntry settings path node entry.1 entry.2 (below entry))
      entries start' late last) :
    List.Forall₂ (fun kept later => kept = none ∨ later = none) early late := by
  induction first generalizing start' late with
  | nil =>
      cases second
      exact .nil
  | @cons head tail start middle last kept early here rest inductionHypothesis =>
      cases second with
      | cons there others =>
          refine .cons ?_ (inductionHypothesis others)
          cases decided : settings.decidesFirst head.1 with
          | false => exact Or.inl (firstEntry_of_not_decidesFirst decided here)
          | true =>
              rw [secondEntry_of_decidesFirst decided] at there
              cases there
              exact Or.inr rfl

/-! ## Restoring aliases -/

theorem outcome_reports (path : Path) (keys : List String) (progress : Progress) :
    ∃ after, (keys.forM fun key => report (.aliasRestored path key) : Walk PUnit).outcome progress =
        (.ok (), after) ∧ progress.Idle after := by
  induction keys generalizing progress with
  | nil => exact ⟨progress, rfl, .refl progress⟩
  | cons key keys inductionHypothesis =>
      rcases inductionHypothesis
          { progress with events := .aliasRestored path key :: progress.events } with
        ⟨after, reported, idle⟩
      exact ⟨after, (outcome_bind_of_ok (outcome_report _ progress) _).trans reported,
        idle.locks, idle.marks, idle.patterns⟩

/-- The marks of the mapping are used up. -/
theorem outcome_restoreAliases (path : Path) (entries : Mapping) (progress : Progress) :
    ∃ after, (restoreAliases path entries).outcome progress =
        (.ok (addAliases (progress.marks.keysAt path) entries).1, after) ∧
      { progress with marks := progress.marks.forget path }.Idle after := by
  rcases outcome_reports path (progress.marks.restore path entries).keys
      { progress with marks := progress.marks.forget path } with ⟨after, reported, idle⟩
  refine ⟨after, ?_, idle⟩
  rw [restoreAliases, outcome_bind_of_ok (outcome_get progress),
    outcome_bind_of_ok (outcome_modify _ progress)]
  exact outcome_bind_of_ok reported _

end Walk
end Resolution
end TaggedContent
