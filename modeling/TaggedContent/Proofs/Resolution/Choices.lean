import TaggedContent.Proofs.Resolution.Independence

namespace TaggedContent
namespace Resolution

/-!
# Both passes without a walk

What either pass makes of an entry depends on nothing but the entry, the keys that are
locked at that time and, for a parameter, the mapping as written.  With distinct keys a
mapping is therefore resolved by a computation without a state: the first pass hands on
the keys that are locked so far, the second goes by those locked in the end, and the
marks are read off the entries that it keeps.
-/

namespace Settings

/-! ## Choices for one entry -/

/-- Whether a locale entry is selected, when these keys are locked. -/
def selects (settings : Settings) (locked : String → Bool) (key base pattern : String)
    (marked : Bool) : Except Pattern.PatternError Bool :=
  if locked key || marked then .ok false
  else
    match settings.locale with
    | none => .ok false
    | some locale => (Pattern.verdict pattern locale).map (· && !locked base)

/-- What the first pass keeps of an entry of the node at `path`. -/
def firstChoice (settings : Settings) (path : Path) (locked : String → Bool)
    (entry : Key × Tree) : Except InvalidPattern (Option (Key × Tree)) :=
  match entry.1 with
  | .index _ => do
      let value ← settings.resolveApart path entry
      return some (entry.1, value)
  | .name name =>
      match Tag.ofKey settings.table name with
      | .tagged ⟨_, marked, .locale base pattern⟩ => do
          let selected ← (settings.selects locked name base pattern marked).mapError
            fun error => ⟨path, name, error.pattern⟩
          if selected then
            let value ← settings.resolveApart path entry
            return some (.name base, value)
          else return none
      | _ => return none

/-- What the second pass keeps of an entry of `node`, which stands at `path`. -/
def secondChoice (settings : Settings) (path : Path) (node : Mapping) (locked : String → Bool)
    (entry : Key × Tree) : Except InvalidPattern (Option (Key × Tree)) :=
  match entry.1 with
  | .index _ => return none
  | .name name =>
      match Tag.ofKey settings.table name with
      | .tagged ⟨stripped, _, .plain⟩ =>
          if locked name || locked stripped then return none
          else do
            let value ← settings.resolveApart path entry
            return some (.name stripped, value)
      | .tagged ⟨_, _, .parameter base parameter argument⟩ =>
          if locked name || locked base then return none
          else
            match settings.resolver? parameter with
            | none => return none
            | some resolver => do
                let value ← settings.resolveApart path entry
                let applies ← (resolver.verdict
                    ⟨node, base, parameter, argument, .null, settings.locale⟩).mapError
                  fun error => ⟨path, name, error.pattern⟩
                return if applies then some (.name base, value) else none
      | _ => return none

/-! ## What an entry leaves for the others -/

/-- What is locked after the first pass has decided the entry. -/
def lockNext (settings : Settings) (locked : String → Bool) (entry : Key × Tree) (name : String) :
    Bool :=
  locked name || settings.firstTarget? locked entry.1 == some (.name name)

/-- What is locked after the first pass has gone over the entries. -/
def lockedBy (settings : Settings) (locked : String → Bool) (entries : Mapping) : String → Bool :=
  entries.foldl settings.lockNext locked

/-- The key that the second pass marks for an entry of `node`. -/
def markedTarget? (settings : Settings) (node : Mapping) (locked : String → Bool)
    (entry : Key × Tree) : Option String :=
  if settings.marks entry.1 && entry.2.isSequence then settings.secondTarget? node locked entry.1
  else none

end Settings

/-- Every key is marked once, at the place where it is marked first. -/
def addMarks (marked keys : List String) : List String :=
  keys.foldl (fun marked key => if key ∈ marked then marked else marked ++ [key]) marked

theorem addMarks_append (marked keys others : List String) :
    addMarks marked (keys ++ others) = addMarks (addMarks marked keys) others :=
  List.foldl_append

theorem addMarks_filterMap_cons (marked : List String) (target? : α → Option String) (head : α)
    (tail : List α) :
    addMarks marked ((head :: tail).filterMap target?) =
      addMarks (addMarks marked (target? head).toList) (tail.filterMap target?) := by
  rw [List.filterMap_cons, ← addMarks_append]
  cases target? head <;> rfl

theorem mem_addMarks_iff (marked keys : List String) (key : String) :
    key ∈ addMarks marked keys ↔ key ∈ marked ∨ key ∈ keys := by
  induction keys generalizing marked with
  | nil => simp [addMarks]
  | cons head tail inductionHypothesis =>
      have step : addMarks marked (head :: tail) = addMarks (addMarks marked [head]) tail :=
        addMarks_append marked [head] tail
      have here : key ∈ addMarks marked [head] ↔ key ∈ marked ∨ key = head := by
        rw [addMarks, List.foldl_cons, List.foldl_nil]
        split
        case isTrue known =>
          constructor
          · exact Or.inl
          · rintro (before | same)
            · exact before
            · exact same ▸ known
        case isFalse => rw [List.mem_append, List.mem_singleton]
      rw [step, inductionHypothesis, here, List.mem_cons, or_assoc]

namespace Settings

/-! ## Choices for all entries -/

/-- What the first pass keeps of the entries. -/
def firstChoices (settings : Settings) (path : Path) (locked : String → Bool) :
    Mapping → Except InvalidPattern (List (Option (Key × Tree)))
  | [] => return []
  | entry :: rest => do
      let kept ← settings.firstChoice path locked entry
      let others ← settings.firstChoices path (settings.lockNext locked entry) rest
      return kept :: others

/-- The keys that are marked when both passes are over. -/
def markedBy (settings : Settings) (entries : Mapping) : List String :=
  addMarks [] (entries.filterMap
    (settings.markedTarget? entries (settings.lockedBy (fun _ => false) entries)))

/-- The entries of the mapping at `path` as they are kept, with their aliases. -/
def resolveChoices (settings : Settings) (path : Path) (entries : Mapping) :
    Except InvalidPattern Mapping := do
  let locked := settings.lockedBy (fun _ => false) entries
  let early ← settings.firstChoices path (fun _ => false) entries
  let late ← entries.mapM (settings.secondChoice path entries locked)
  return (addAliases (settings.markedBy entries) (Walk.assemble early late)).1

end Settings

namespace Walk

variable {settings : Settings} {path : Path} {locked : String → Bool} {marked : List String}

/-! ## Walks that come to a choice -/

theorem outcome_selectLocale_fst (settings : Settings) (path : Path) (key base pattern : String)
    (isMarked : Bool) {progress : Progress} (sound : progress.patterns.Sound) :
    ((selectLocale settings path key base pattern isMarked).outcome progress).1 =
      (settings.selects (progress.locks.isLocked path) key base pattern isMarked).mapError
        fun error => ⟨path, key, error.pattern⟩ := by
  rw [selectLocale, outcome_bind_of_ok (outcome_isLocked path key progress), Settings.selects]
  cases progress.locks.isLocked path key with
  | true => rfl
  | false =>
      cases isMarked with
      | true => rfl
      | false =>
          cases settings.locale with
          | none => rfl
          | some locale =>
              have asked := outcome_withPatterns path key (·.fullMatch pattern locale) progress
              rw [(Pattern.Cache.fullMatch_answers pattern locale progress.patterns sound).1] at asked
              simp only [Bool.or_self, Bool.false_eq_true, if_false]
              rw [outcome_bind, asked]
              rcases Pattern.verdict pattern locale with error | _ | _
              · rfl
              · rfl
              · dsimp only [Except.mapError]
                rw [if_pos rfl, outcome_bind_of_ok (outcome_isLocked path base _)]
                dsimp only [Except.map]
                rw [Bool.true_and]
                cases progress.locks.isLocked path base <;> rfl

/-- The walk over an entry whose value is resolved apart. -/
abbrev firstApart (settings : Settings) (path : Path) (entry : Key × Tree) :
    Walk (Option (Key × Tree)) :=
  firstEntry settings path entry.1 (ofExcept (settings.resolveApart path entry))

abbrev secondApart (settings : Settings) (path : Path) (node : Mapping) (entry : Key × Tree) :
    Walk (Option (Key × Tree)) :=
  secondEntry settings path node entry.1 entry.2 (ofExcept (settings.resolveApart path entry))

theorem outcome_firstApart_fst {entry : Key × Tree} {progress : Progress}
    (sound : progress.patterns.Sound) :
    ((firstApart settings path entry).outcome progress).1 =
      settings.firstChoice path (progress.locks.isLocked path) entry := by
  rcases entry with ⟨name | position, value⟩
  · rcases outcome_reportNearMiss settings name progress with ⟨noticed, reported, idle⟩
    dsimp only [firstApart, firstEntry, Settings.firstChoice]
    rw [outcome_bind_of_ok reported]
    rcases Tag.ofKey settings.table name with _ | ⟨stripped, marked, _ | ⟨base, pattern⟩ | _⟩
    · rfl
    · rfl
    · dsimp only
      have decided := outcome_selectLocale_fst settings path name base pattern marked
        (idle.patterns sound)
      rw [idle.locks] at decided
      rw [outcome_bind, ← decided]
      rcases (selectLocale settings path name base pattern marked).outcome noticed with
        ⟨_ | _ | _, middle⟩
      · rfl
      · rfl
      · dsimp only
        rw [if_pos rfl, outcome_bind, outcome_ofExcept]
        cases settings.resolveApart path (.name name, value) <;> rfl
    · rfl
  · dsimp only [firstApart, firstEntry, Settings.firstChoice]
    rw [outcome_bind, outcome_ofExcept]
    cases settings.resolveApart path (.index position, value) <;> rfl

/-- Marking an entry does not fail. -/
theorem outcome_markExtraction (path : Path) (isMarked : Bool) (value : Tree) (key : Key)
    (progress : Progress) :
    ∃ last, (markExtraction path isMarked value key).outcome progress = (.ok (), last) := by
  unfold markExtraction
  cases key with
  | index position => exact ⟨progress, rfl⟩
  | name name =>
      dsimp only
      split
      · exact ⟨_, rfl⟩
      · exact ⟨progress, rfl⟩

theorem outcome_applyResolver_fst (path : Path) (name : String) (resolver : Parameter.Resolver)
    (request : Parameter.Request) {progress : Progress} (sound : progress.patterns.Sound) :
    ((applyResolver path name resolver request).outcome progress).1 =
      ((resolver.verdict request).mapError fun error => ⟨path, name, error.pattern⟩).map
        fun applies => if applies then some (.name request.base, request.content) else none := by
  have asked := outcome_withPatterns path name (resolver.resolve request) progress
  rw [(resolver.resolve_answers request progress.patterns sound).1] at asked
  rw [applyResolver, outcome_bind, asked]
  rcases resolver.verdict request with error | _ | _ <;> rfl

/-- The resolver decides by its verdict, and what it keeps is marked when it is to be. -/
theorem outcome_decideParameter_fst (path : Path) (name : String) (isMarked : Bool) (value : Tree)
    (resolver : Parameter.Resolver) (request : Parameter.Request) {progress : Progress}
    (sound : progress.patterns.Sound) :
    (Walk.outcome (do
      let kept ← applyResolver path name resolver request
      if let some (keptKey, _) := kept then
        markExtraction path isMarked value keptKey
      return kept) progress).1 =
      ((resolver.verdict { request with content := .null }).mapError
        fun error => ⟨path, name, error.pattern⟩).map
          fun applies => if applies then some (.name request.base, request.content) else none := by
  have decided := outcome_applyResolver_fst path name resolver request sound
  rw [← resolver.verdict_congr request request.node .null rfl] at decided
  rw [outcome_bind]
  generalize (applyResolver path name resolver request).outcome progress = applied at decided ⊢
  rcases applied with ⟨found, reached⟩
  dsimp only at decided
  subst decided
  rcases resolver.verdict { request with content := .null } with _ | _ | _
  · rfl
  · rfl
  · rcases outcome_markExtraction path isMarked value (.name request.base) reached with
      ⟨last, marking⟩
    exact congrArg Prod.fst (outcome_bind_of_ok marking _)

theorem outcome_secondApart_fst {node : Mapping} {entry : Key × Tree} {progress : Progress}
    (sound : progress.patterns.Sound) :
    ((secondApart settings path node entry).outcome progress).1 =
      settings.secondChoice path node (progress.locks.isLocked path) entry := by
  rcases entry with ⟨name | position, value⟩
  · dsimp only [secondApart, secondEntry, Settings.secondChoice]
    rcases Tag.ofKey settings.table name with
      _ | ⟨stripped, marked, _ | _ | ⟨base, parameter, argument⟩⟩
    · rfl
    · rcases outcome_mayTake path name stripped progress with ⟨middle, taken, idle⟩
      dsimp only
      rw [outcome_bind_of_ok taken]
      cases progress.locks.isLocked path name || progress.locks.isLocked path stripped with
      | true => rfl
      | false =>
          simp only [Bool.not_false, if_true, Bool.false_eq_true, if_false]
          rw [outcome_bind, outcome_ofExcept]
          cases settings.resolveApart path (.name name, value) with
          | error error => rfl
          | ok result =>
              rcases outcome_markExtraction path marked value (.name stripped) middle with
                ⟨last, marking⟩
              exact congrArg Prod.fst (outcome_bind_of_ok marking _)
    · rfl
    · rcases outcome_mayTake path name base progress with ⟨middle, taken, idle⟩
      dsimp only
      rw [outcome_bind_of_ok taken]
      cases progress.locks.isLocked path name || progress.locks.isLocked path base with
      | true => rfl
      | false =>
          simp only [Bool.not_false, if_true, Bool.false_eq_true, if_false]
          cases settings.resolver? parameter with
          | none => rfl
          | some resolver =>
              dsimp only
              rw [outcome_bind, outcome_ofExcept]
              cases settings.resolveApart path (.name name, value) with
              | error error => rfl
              | ok result =>
                  refine (outcome_decideParameter_fst path name marked value resolver
                    ⟨node, base, parameter, argument, result, settings.locale⟩
                    (idle.patterns sound)).trans ?_
                  rcases resolver.verdict
                    ⟨node, base, parameter, argument, .null, settings.locale⟩ with _ | _ <;> rfl
  · rfl

/-! ## The state at the path -/

/-- At the path exactly these keys are locked and marked, and the cache is sound. -/
structure Stands (path : Path) (locked : String → Bool) (marked : List String)
    (progress : Progress) : Prop where
  sound : progress.patterns.Sound
  locked : progress.locks.isLocked path = locked
  marked : progress.marks.keysAt path = marked

theorem Stands.idle {start last : Progress} (stands : Stands path locked marked start)
    (idle : start.Idle last) : Stands path locked marked last where
  sound := idle.patterns stands.sound
  locked := by rw [idle.locks, stands.locked]
  marked := by rw [idle.marks, stands.marked]

theorem lockNext_of_passed {entry : Key × Tree} (target : settings.firstTarget? locked entry.1 = none) :
    settings.lockNext locked entry = locked := by
  funext name
  rw [Settings.lockNext, target]
  exact Bool.or_false _

theorem lockNext_of_index {entry : Key × Tree} {position : Int64} (isIndex : entry.1 = .index position) :
    settings.lockNext locked entry = locked := by
  funext name
  rw [Settings.lockNext, isIndex]
  exact Bool.or_false _

theorem lockNext_of_selected {entry : Key × Tree} {base : String}
    (target : settings.firstTarget? locked entry.1 = some (.name base)) (name : String) :
    settings.lockNext locked entry name = (locked name || decide (base = name)) := by
  rw [Settings.lockNext, target]
  by_cases same : base = name <;> simp [same]

theorem Stands.selected {start last : Progress} {entry : Key × Tree} {base : String}
    (stands : Stands path locked marked start)
    (target : settings.firstTarget? locked entry.1 = some (.name base))
    (claimed : Selected path base true start last) :
    Stands path (settings.lockNext locked entry) marked last where
  sound := claimed.patterns stands.sound
  locked := by
    funext name
    rw [claimed.locks, if_pos rfl, Locks.isLocked_lock, stands.locked, lockNext_of_selected target]
    simp
  marked := by rw [claimed.marks, stands.marked]

theorem computes_firstApart (settings : Settings) (path : Path) (locked : String → Bool)
    (marked : List String) (entry : Key × Tree) :
    Computes (Stands path locked marked) (firstApart settings path entry)
      (settings.firstChoice path locked entry)
      (Stands path (settings.lockNext locked entry) marked) := by
  intro start stands
  refine ⟨by rw [outcome_firstApart_fst stands.sound, stands.locked], fun kept last success => ?_⟩
  cases firstEntry_success stands.sound success with
  | passed target idle =>
      rw [stands.locked] at target
      rw [lockNext_of_passed target]
      exact stands.idle idle
  | index isIndex resolved =>
      rw [lockNext_of_index isIndex]
      exact (resolved_apart resolved).2 ▸ stands
  | selected isName target claimed resolved =>
      rw [stands.locked] at target
      exact (resolved_apart resolved).2 ▸ stands.selected target claimed

/-- The first pass, by induction over the entries: each is decided by the locks that those
before it have left. -/
theorem computes_firstChoices (settings : Settings) (path : Path) (locked : String → Bool)
    (marked : List String) (entries : Mapping) :
    Computes (Stands path locked marked) (entries.mapM (firstApart settings path))
      (settings.firstChoices path locked entries)
      (Stands path (settings.lockedBy locked entries) marked) := by
  induction entries generalizing locked with
  | nil => exact .pure [] fun _ => id
  | cons entry rest inductionHypothesis =>
      rw [List.mapM_cons, Settings.firstChoices]
      refine (computes_firstApart settings path locked marked entry).bind fun kept => ?_
      exact (inductionHypothesis _).bind fun others => .pure (kept :: others) fun _ => id

theorem Stands.kept {node : Mapping} {start last : Progress} {entry : Key × Tree} {base : String}
    (stands : Stands path locked marked start)
    (target : settings.secondTarget? node locked entry.1 = some base)
    (marking : Marked path base (settings.marks entry.1 && entry.2.isSequence) start last) :
    Stands path locked (addMarks marked (settings.markedTarget? node locked entry).toList) last where
  sound := marking.patterns stands.sound
  locked := by rw [marking.locks, stands.locked]
  marked := by
    rw [marking.marks, Settings.markedTarget?, target]
    split
    · rw [Marks.keysAt_mark, stands.marked, Option.toList_some, addMarks, List.foldl_cons,
        List.foldl_nil]
      split <;> simp_all
    · exact stands.marked

theorem computes_secondApart (settings : Settings) (path : Path) (node : Mapping)
    (locked : String → Bool) (marked : List String) (entry : Key × Tree) :
    Computes (Stands path locked marked) (secondApart settings path node entry)
      (settings.secondChoice path node locked entry)
      (Stands path locked (addMarks marked (settings.markedTarget? node locked entry).toList)) := by
  intro start stands
  refine ⟨by rw [outcome_secondApart_fst stands.sound, stands.locked], fun kept last success => ?_⟩
  have unmarked : ∀ {last : Progress}, settings.secondTarget? node locked entry.1 = none →
      start.Idle last →
        Stands path locked (addMarks marked (settings.markedTarget? node locked entry).toList) last := by
    intro last target idle
    rw [Settings.markedTarget?, target, ite_self]
    exact stands.idle idle
  have keepsSound : Preserves (fun progress => progress.patterns.Sound)
      (ofExcept (settings.resolveApart path entry)) :=
    preserves_ofExcept (fun progress => progress.patterns.Sound) _
  cases secondEntry_success stands.sound keepsSound success with
  | passed target idle =>
      rw [stands.locked] at target
      exact unmarked target idle
  | rejected target idle resolved dropped =>
      rw [stands.locked] at target
      have stays := (resolved_apart resolved).2
      exact unmarked target (idle.trans (stays ▸ dropped))
  | kept isName target idle resolved marking =>
      rw [stands.locked] at target
      have stays := (resolved_apart resolved).2
      exact stands.kept target ((stays ▸ marking).after_idle idle)

/-- The second pass: the locks stay as they are, and each entry adds its mark. -/
theorem computes_secondChoices (settings : Settings) (path : Path) (node : Mapping)
    (locked : String → Bool) (marked : List String) (entries : Mapping) :
    Computes (Stands path locked marked) (entries.mapM (secondApart settings path node))
      (entries.mapM (settings.secondChoice path node locked))
      (Stands path locked
        (addMarks marked (entries.filterMap (settings.markedTarget? node locked)))) := by
  induction entries generalizing marked with
  | nil => exact .pure [] fun _ => id
  | cons entry rest inductionHypothesis =>
      rw [List.mapM_cons, List.mapM_cons, addMarks_filterMap_cons]
      refine (computes_secondApart settings path node locked marked entry).bind fun kept => ?_
      exact (inductionHypothesis _).bind fun others => .pure (kept :: others) fun _ => id

theorem computes_resolveChoices (settings : Settings) (path : Path) (entries : Mapping) :
    Computes (Stands path (fun _ => false) [])
      (resolveEntries settings path (fun entry => ofExcept (settings.resolveApart path entry)) entries)
      (settings.resolveChoices path entries)
      (Stands path (settings.lockedBy (fun _ => false) entries) []) := by
  refine (computes_firstChoices settings path _ [] entries).bind fun early => ?_
  refine (computes_secondChoices settings path entries _ [] entries).bind fun late => ?_
  intro start stands
  rcases outcome_restoreAliases path (assemble early late) start with ⟨reached, restored, idle⟩
  rw [restored]
  refine ⟨by rw [stands.marked]; rfl, fun kept last same => ?_⟩
  cases same
  refine ⟨idle.patterns stands.sound, by rw [idle.locks, stands.locked], ?_⟩
  rw [idle.marks, Marks.keysAt_forget, if_pos rfl]

/-- Nothing is locked or marked when a walk begins. -/
theorem Stands.initial (path : Path) : Stands path (fun _ => false) [] .initial :=
  ⟨Pattern.Cache.sound_empty, funext (Locks.isLocked_empty path), Marks.keysAt_empty path⟩

/-- With distinct keys the walk over a mapping comes to the choices for its entries, and
leaves locked what the first pass locks for them. -/
theorem resolveEntries_choices (settings : Settings) {entries : Mapping}
    (distinct : (Entries.keys entries).Nodup) :
    ((resolveEntries settings .root (resolveChild settings .root) entries).outcome .initial).1 =
        settings.resolveChoices .root entries ∧
      ∀ kept last, (resolveEntries settings .root (resolveChild settings .root) entries).outcome
        .initial = (.ok kept, last) →
          last.locks.isLocked .root = settings.lockedBy (fun _ => false) entries := by
  have apart := resolveEntries_apart settings .root distinct
  have start := Apart.initial .root (· ∈ Entries.keys entries)
  rcases computes_resolveChoices settings .root entries .initial (Stands.initial .root) with
    ⟨result, stands⟩
  refine ⟨(apart.outcome_fst_eq start).trans result, fun kept last success => ?_⟩
  rcases apart.success start success with ⟨reached, alone, alike⟩
  rw [← (stands kept reached alone).locked]
  exact funext alike.locked

end Walk

/-- With distinct keys a mapping is resolved by the choices for its entries. -/
theorem Settings.resolve_mapping_choices (settings : Settings) {entries : Mapping}
    (distinct : (Entries.keys entries).Nodup) :
    settings.resolve (.mapping entries) = (settings.resolveChoices .root entries).map .mapping := by
  rw [Settings.resolve_eq_outcome, Walk.resolveTree_mapping, Walk.outcome_map,
    (Walk.resolveEntries_choices settings distinct).1]

end Resolution
end TaggedContent
