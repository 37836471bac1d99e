import TaggedContent.Proofs.Pattern.LeastSize
import TaggedContent.Proofs.Pattern.WholeMatch
import TaggedContent.Proofs.Resolution.Failures

namespace TaggedContent
namespace Resolution

/-!
# Patterns that resolution refuses

A walk fails only where a pattern has to be matched, and with the pattern that could
not be.  So whatever the tree, its shape and its keys, the pattern of a failure is one
that matching always refuses: it is not accepted alone, or it does not stand being put
between anchors.
-/

namespace Walk

variable {α β : Type}

/-- From a sound cache the walk comes to a sound cache again, and when it fails it names
a pattern that is always rejected. -/
def Refuses (walk : Walk α) : Prop :=
  ∀ start : Progress, start.patterns.Sound →
    (walk.outcome start).2.patterns.Sound ∧
      ∀ error, (walk.outcome start).1 = .error error → Pattern.Rejected error.pattern

theorem refuses_of_total {walk : Walk α}
    (total : ∀ start : Progress, start.patterns.Sound →
      ∃ value last, walk.outcome start = (.ok value, last) ∧ last.patterns.Sound) :
    Refuses walk := by
  intro start sound
  rcases total start sound with ⟨value, last, success, soundLast⟩
  rw [success]
  exact ⟨soundLast, fun _ impossible => nomatch impossible⟩

theorem refuses_pure (value : α) : Refuses (pure value : Walk α) :=
  refuses_of_total fun start sound => ⟨value, start, rfl, sound⟩

theorem refuses_bind {walk : Walk α} {next : α → Walk β} (first : Refuses walk)
    (others : ∀ value, Refuses (next value)) : Refuses (walk >>= next) := by
  intro start sound
  rcases first start sound with ⟨soundFirst, rejected⟩
  rw [outcome_bind]
  rcases ended : walk.outcome start with ⟨error | value, middle⟩
  · rw [ended] at soundFirst rejected
    refine ⟨soundFirst, fun other failed => ?_⟩
    cases failed
    exact rejected error rfl
  · rw [ended] at soundFirst
    exact others value middle soundFirst

theorem refuses_map {walk : Walk α} (change : α → β) (refuses : Refuses walk) :
    Refuses (change <$> walk) := by
  rw [map_eq_pure_bind]
  exact refuses_bind refuses fun value => refuses_pure (change value)

theorem refuses_mapM {step : α → Walk β} {list : List α}
    (each : ∀ element ∈ list, Refuses (step element)) : Refuses (list.mapM step) := by
  induction list with
  | nil => exact refuses_pure []
  | cons head tail inductionHypothesis =>
      rcases List.forall_mem_cons.mp each with ⟨first, rest⟩
      rw [List.mapM_cons]
      exact refuses_bind first fun value => refuses_bind (inductionHypothesis rest) fun others =>
        refuses_pure (value :: others)

theorem refuses_report (event : Event) : Refuses (report event) :=
  refuses_of_total fun _ sound => ⟨_, _, rfl, sound⟩

theorem refuses_isLocked (path : Path) (key : String) : Refuses (isLocked path key) :=
  refuses_of_total fun _ sound => ⟨_, _, rfl, sound⟩

theorem refuses_lock (path : Path) (key : String) : Refuses (lock path key) :=
  refuses_of_total fun _ sound => ⟨_, _, rfl, sound⟩

/-- A step on the cache that answers with a failure names a rejected pattern. -/
theorem refuses_withPatterns (path : Path) (key : String)
    {step : Pattern.Cache → Except Pattern.PatternError α × Pattern.Cache}
    {answer : Except Pattern.PatternError α} (answers : Pattern.Cache.Answers step answer)
    (rejected : ∀ error, answer = .error error → Pattern.Rejected error.pattern) :
    Refuses (withPatterns path key step) := by
  intro start sound
  rcases answers start.patterns sound with ⟨same, soundLast⟩
  rw [outcome_withPatterns, same]
  refine ⟨soundLast, fun error failed => ?_⟩
  rcases except_mapError_eq_error failed with ⟨fault, asked, rfl⟩
  exact rejected fault asked

/-! ## Entries -/

theorem refuses_reportNearMiss (settings : Settings) (key : String) :
    Refuses (reportNearMiss settings key) := by
  unfold reportNearMiss
  split
  · exact refuses_report _
  · exact refuses_pure ()

theorem refuses_selectLocale (settings : Settings) (path : Path) (key base pattern : String)
    (marked : Bool) : Refuses (selectLocale settings path key base pattern marked) := by
  have refused : ∀ reason, Refuses (do drop path key reason; pure false) := fun reason =>
    refuses_bind (refuses_report _) fun _ => refuses_pure false
  refine refuses_bind (refuses_isLocked path key) fun taken => ?_
  split
  · exact refused _
  · split
    · exact refused _
    · split
      · exact refuses_pure false
      case h_2 locale _ =>
        refine refuses_bind (refuses_withPatterns path key
          (Pattern.Cache.fullMatch_answers pattern locale) ?_) fun applies => ?_
        · intro error failed
          rcases Pattern.rejected_of_verdict failed with ⟨rfl, rejected⟩
          exact rejected
        · split
          · refine refuses_bind (refuses_isLocked path base) fun won => ?_
            split
            · exact refused _
            · exact refuses_bind (refuses_lock path base) fun _ =>
                refuses_bind (refuses_report _) fun _ => refuses_pure true
          · exact refused _

theorem refuses_mayTake (path : Path) (key base : String) : Refuses (mayTake path key base) := by
  have refused : ∀ reason, Refuses (do drop path key reason; pure false) := fun reason =>
    refuses_bind (refuses_report _) fun _ => refuses_pure false
  refine refuses_bind (refuses_isLocked path key) fun taken => ?_
  split
  · exact refused _
  · refine refuses_bind (refuses_isLocked path base) fun won => ?_
    split
    · exact refused _
    · exact refuses_pure true

theorem refuses_applyResolver (path : Path) (key : String) (resolver : Parameter.Resolver)
    (request : Parameter.Request) : Refuses (applyResolver path key resolver request) := by
  refine refuses_bind (refuses_withPatterns path key (resolver.resolve_answers request) ?_)
    fun kept => ?_
  · intro error failed
    exact (Parameter.Resolver.evaluates_of_verdict (except_map_eq_error failed)).2
  · split
    · exact refuses_bind (refuses_report _) fun _ => refuses_pure kept
    · exact refuses_pure kept

theorem refuses_markExtraction (path : Path) (marked : Bool) (value : Tree) (key : Key) :
    Refuses (markExtraction path marked value key) := by
  unfold markExtraction
  split
  · split
    · exact refuses_of_total fun _ sound => ⟨_, _, rfl, sound⟩
    · exact refuses_pure ()
  · exact refuses_pure ()

theorem refuses_restoreAliases (path : Path) (entries : Mapping) :
    Refuses (restoreAliases path entries) := by
  refine refuses_of_total fun start sound => ?_
  rcases outcome_restoreAliases path entries start with ⟨last, restored, idle⟩
  exact ⟨_, last, restored, idle.patterns sound⟩

theorem refuses_firstEntry (settings : Settings) (path : Path) (key : Key) {below : Walk Tree}
    (inside : Refuses below) : Refuses (firstEntry settings path key below) := by
  cases key with
  | index position => exact refuses_bind inside fun value => refuses_pure _
  | name name =>
      refine refuses_bind (refuses_reportNearMiss settings name) fun _ => ?_
      split
      · exact refuses_bind (refuses_report _) fun _ => refuses_pure none
      · refine refuses_bind (refuses_selectLocale settings path name _ _ _) fun selected => ?_
        split
        · exact refuses_bind inside fun value => refuses_pure _
        · exact refuses_pure none
      · exact refuses_pure none

theorem refuses_secondEntry (settings : Settings) (path : Path) (node : Mapping) (key : Key)
    (value : Tree) {below : Walk Tree} (inside : Refuses below) :
    Refuses (secondEntry settings path node key value below) := by
  cases key with
  | index position => exact refuses_pure none
  | name name =>
      unfold secondEntry
      split
      case h_1 impossible => cases impossible
      case h_2 name same =>
        split
        · refine refuses_bind (refuses_mayTake path name _) fun takes => ?_
          split
          · exact refuses_bind inside fun resolved =>
              refuses_bind (refuses_markExtraction path _ value _) fun _ => refuses_pure _
          · exact refuses_pure none
        · refine refuses_bind (refuses_mayTake path name _) fun takes => ?_
          split
          · split
            · exact refuses_bind (refuses_report _) fun _ => refuses_pure none
            · refine refuses_bind inside fun resolved =>
                refuses_bind (refuses_applyResolver path name _ _) fun kept => ?_
              split
              · exact refuses_bind (refuses_markExtraction path _ value _) fun _ => refuses_pure _
              · exact refuses_pure _
          · exact refuses_pure none
        · exact refuses_pure none

/-! ## Trees -/

theorem refuses_resolveEntries (settings : Settings) (path : Path)
    {below : Key × Tree → Walk Tree} {entries : Mapping}
    (inside : ∀ entry ∈ entries, Refuses (below entry)) :
    Refuses (resolveEntries settings path below entries) := by
  refine refuses_bind (refuses_mapM fun entry there =>
    refuses_firstEntry settings path entry.1 (inside entry there)) fun first => ?_
  refine refuses_bind (refuses_mapM fun entry there =>
    refuses_secondEntry settings path entries entry.1 entry.2 (inside entry there)) fun second => ?_
  exact refuses_restoreAliases path (assemble first second)

theorem refuses_resolveTree (settings : Settings) (path : Path) (tree : Tree) :
    Refuses (resolveTree settings path tree) := by
  induction tree using Tree.induction generalizing path with
  | scalar tree scalar =>
      rw [resolveTree_scalar settings path scalar]
      exact refuses_pure tree
  | sequence items inductionHypothesis =>
      rw [resolveTree_sequence]
      refine refuses_map _ (refuses_mapM fun entry there => ?_)
      exact inductionHypothesis entry.2 (Tree.mem_of_mem_positioned there) _
  | mapping entries inductionHypothesis =>
      rw [resolveTree_mapping]
      exact refuses_map _ (refuses_resolveEntries settings path fun entry there =>
        inductionHypothesis entry there _)

end Walk

theorem Settings.rejected_of_error {settings : Settings} {tree : Tree} {error : InvalidPattern}
    (failed : settings.resolve tree = .error error) : Pattern.Rejected error.pattern := by
  rw [resolve_eq_outcome] at failed
  exact (Walk.refuses_resolveTree settings .root tree .initial Pattern.Cache.sound_empty).2 error
    failed

theorem exists_error_iff (cache : Pattern.Cache) (sound : cache.Sound)
    (pattern candidate : String) :
    (∃ error, (cache.fullMatch pattern candidate).1 = .error error) ↔
      Pattern.Regex.compile? pattern = none ∨
        Pattern.Unanchorable Pattern.Expression.fits pattern := by
  rw [(Pattern.Cache.fullMatch_answers pattern candidate cache sound).1, Pattern.Regex.compile?,
    ← Pattern.compileAnchoredWithin_eq_error_iff]
  change _ ↔ Pattern.compileAnchored pattern = _
  constructor
  · rintro ⟨error, refused⟩
    rcases compiled : Pattern.compileAnchored pattern with fault | regex
    · rw [Pattern.compileAnchored_eq_error compiled]
    · rw [Pattern.verdict_of_compiled compiled] at refused
      cases refused
  · exact fun refused => ⟨_, Pattern.verdict_of_error refused candidate⟩

/-- After any earlier calls and with any candidate, matching is refused for a pattern that
is not accepted alone and for one that is refused between anchors, and for no other
pattern; and resolution of a tree fails with no other pattern.  Compiling between anchors
is refused for these reasons whatever the test is that decides which patterns are too
large.  Too large alone is every pattern with more than 327,680 letters in a row. -/
theorem Settings.refused_patterns (calls : List (String × String)) (pattern candidate : String) :
    ((∃ error, ((Pattern.Cache.after calls).fullMatch pattern candidate).1 = .error error) ↔
      Pattern.Regex.compile? pattern = none ∨
        Pattern.Unanchorable Pattern.Expression.fits pattern) ∧
    (∀ (settings : Settings) (tree : Tree) (path : Path) (key : String),
      settings.resolve tree = .error ⟨path, key, pattern⟩ →
        Pattern.Regex.compile? pattern = none ∨
          Pattern.Unanchorable Pattern.Expression.fits pattern) ∧
    (∀ fits : Pattern.Expression → Bool,
      Pattern.compileAnchoredWithin fits pattern = .error ⟨pattern⟩ ↔
        Pattern.Regex.compileWithin? fits pattern = none ∨ Pattern.Unanchorable fits pattern) ∧
    ∀ expression, Pattern.Expression.read? pattern = some expression →
      327680 < expression.letters → Pattern.Regex.compile? pattern = none := by
  refine ⟨exists_error_iff _ (Pattern.Cache.sound_after calls) pattern candidate, ?_, ?_, ?_⟩
  · intro settings tree path key failed
    have rejected : Pattern.Rejected pattern := rejected_of_error failed
    rw [← exists_error_iff .empty Pattern.Cache.sound_empty pattern candidate]
    exact ⟨_, rejected .empty Pattern.Cache.sound_empty candidate⟩
  · exact fun fits => Pattern.compileAnchoredWithin_eq_error_iff
  · exact fun expression known many => Pattern.Regex.compile?_eq_none_of_letters known many

/-- A valid pattern with a comment behind it, in the tag of an entry. -/
theorem Settings.refused_patterns_comment :
    let settings : Settings := ⟨some "fr", none⟩
    let tree : Tree := .mapping [(.name "title@(?x)fr # French", .string "Bonjour")]
    let pattern := "(?x)fr # French"
    settings.resolve tree = .error ⟨.root, "title@(?x)fr # French", pattern⟩ ∧
      (Pattern.Regex.compile? pattern = none ∨
        Pattern.Unanchorable Pattern.Expression.fits pattern) := by
  intro settings tree pattern
  have fails : (match settings.resolve tree with
      | .error error => decide (error = ⟨.root, "title@(?x)fr # French", pattern⟩)
      | .ok _ => false) = true := by decide +kernel
  have failed : settings.resolve tree = .error ⟨.root, "title@(?x)fr # French", pattern⟩ := by
    cases outcome : settings.resolve tree with
    | error error =>
        rw [outcome] at fails
        rw [of_decide_eq_true fails]
    | ok result =>
        rw [outcome] at fails
        cases fails
  exact ⟨failed, (Settings.refused_patterns [] pattern "fr").2.1 settings tree .root _ failed⟩

/-- A pattern that is accepted alone and refused between anchors, where its comment takes
up the closing parenthesis. -/
theorem Settings.comment_refused :
    (Pattern.Regex.compile? "(?x)fr # French").isSome = true ∧
      (Pattern.Regex.compile? (Pattern.anchored "(?x)fr # French")).isSome = false ∧
      (Pattern.Cache.empty.fullMatch "(?x)fr # French" "fr").1 = .error ⟨"(?x)fr # French"⟩ ∧
      ((Settings.mk (some "fr") none).resolve
        (.mapping [(.name "title@(?x)fr # French", .string "Bonjour")])).isOk = false := by
  decide +kernel

end Resolution
end TaggedContent
