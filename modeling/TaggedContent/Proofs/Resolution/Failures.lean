import TaggedContent.Proofs.Parameter.Question
import TaggedContent.Proofs.Resolution.Choices
import TaggedContent.Proofs.Resolution.Precedence
import TaggedContent.Proofs.Tree.Addressing

namespace TaggedContent

/-!
# Where resolution fails

A failure names a mapping of the tree, one of its keys and a pattern.  It is genuine: the
path leads to the mapping, the key is there, deciding it evaluates the pattern, and the
pattern cannot be compiled.  In the other direction no locale pattern of a mapping with
simple keys is passed over, since no name with a tag is ever locked, and a pattern is
compiled before the lock of its base is looked at.
-/

namespace Pattern

/-- Matching the pattern fails, whatever the candidate and whatever has been compiled. -/
def Rejected (pattern : String) : Prop :=
  ∀ cache : Cache, cache.Sound → ∀ candidate,
    (cache.fullMatch pattern candidate).1 = .error ⟨pattern⟩

theorem Rejected.verdict_eq {pattern : String} (rejected : Rejected pattern) (candidate : String) :
    verdict pattern candidate = .error ⟨pattern⟩ :=
  rejected .empty Cache.sound_empty candidate

/-- A pattern that fails with one candidate fails with all. -/
theorem rejected_of_verdict {pattern candidate : String} {error : PatternError}
    (failed : verdict pattern candidate = .error error) :
    error = ⟨pattern⟩ ∧ Rejected pattern := by
  rcases compiled : compileAnchored pattern with fault | regex
  · rw [verdict_of_error compiled] at failed
    cases failed
    have same := compileAnchored_eq_error compiled
    refine ⟨same, fun cache sound other => ?_⟩
    rw [(Cache.fullMatch_answers pattern other cache sound).1, verdict_of_error compiled, same]
  · rw [verdict_of_compiled compiled] at failed
    cases failed

end Pattern

namespace Parameter

/-- The pattern that the resolver evaluates for an argument in a mapping. -/
inductive Resolver.Evaluates (node : Mapping) (argument : String) (locale : Option String) :
    Resolver → String → Prop where
  | literal {text : String} (given : text ≠ "") :
      Evaluates node argument locale (.literal text) argument
  | field {text pattern : String} {collection pod : Mapping}
      (chain : fieldPattern? [node, collection, pod] argument = some pattern) :
      Evaluates node argument locale (.field text collection pod) pattern
  | localeField {identifier pattern : String} {collection pod : Mapping}
      (given : locale = some identifier)
      (chain : fieldPattern? [node, collection, pod] argument = some pattern) :
      Evaluates node argument locale (.localeField collection pod) pattern

theorem Resolver.evaluates_of_question? {resolver : Resolver} {request : Request}
    {pattern text : String} (asked : resolver.question? request = some (pattern, text)) :
    resolver.Evaluates request.node request.argument request.locale pattern := by
  cases asks_iff.mpr asked with
  | literal given => exact .literal given
  | field supplied => exact .field (supplies_iff.mp supplied)
  | localeField given supplied => exact .localeField given (supplies_iff.mp supplied)

theorem Resolver.evaluates_of_verdict {resolver : Resolver} {request : Request}
    {error : Pattern.PatternError} (failed : resolver.verdict request = .error error) :
    resolver.Evaluates request.node request.argument request.locale error.pattern ∧
      Pattern.Rejected error.pattern := by
  rw [verdict] at failed
  cases asked : resolver.question? request with
  | none =>
      rw [asked] at failed
      cases failed
  | some question =>
      rcases question with ⟨pattern, text⟩
      rw [asked] at failed
      rcases Pattern.rejected_of_verdict failed with ⟨same, rejected⟩
      subst same
      exact ⟨evaluates_of_question? asked, rejected⟩

end Parameter

namespace Resolution

/-- Deciding an entry with this name in the mapping evaluates the pattern: that of its own
unmarked locale tag when there is a locale, or that which the resolver of its parameter
evaluates. -/
inductive Settings.Evaluates (settings : Settings) (node : Mapping) (name : String) :
    String → Prop where
  | locale {stripped base pattern identifier : String} (given : settings.locale = some identifier)
      (tagged : Tag.ofKey settings.table name =
        .tagged ⟨stripped, false, .locale base pattern⟩) :
      Evaluates settings node name pattern
  | parameter {stripped base parameter argument pattern : String} {marked : Bool}
      {resolver : Parameter.Resolver}
      (tagged : Tag.ofKey settings.table name =
        .tagged ⟨stripped, marked, .parameter base parameter argument⟩)
      (enabled : settings.resolver? parameter = some resolver)
      (evaluates : resolver.Evaluates node argument settings.locale pattern) :
      Evaluates settings node name pattern

/-- How resolution fails at an entry of the mapping `node`, which stands at `path`: in its
value, or with a pattern that deciding the entry evaluates. -/
inductive Settings.Fails (settings : Settings) (path : Path) (node : Mapping)
    (entry : Key × Tree) : InvalidPattern → Prop where
  | below {error : InvalidPattern} (alone : settings.resolve entry.2 = .error error) :
      Fails settings path node entry (error.under (path.child entry.1))
  | here {name pattern : String} (isName : entry.1 = .name name)
      (evaluates : settings.Evaluates node name pattern) (rejected : Pattern.Rejected pattern) :
      Fails settings path node entry ⟨path, name, pattern⟩

/-! ## Computations that fail -/

section

variable {ε ε' α β : Type}

/-- A sequence fails in its first part, or in its second after a success of the first. -/
theorem except_bind_eq_error {computation : Except ε α} {next : α → Except ε β} {error : ε}
    (failed : computation >>= next = .error error) :
    computation = .error error ∨ ∃ value, computation = .ok value ∧ next value = .error error := by
  cases computation with
  | error fault =>
      cases failed
      exact Or.inl rfl
  | ok value => exact Or.inr ⟨value, rfl, failed⟩

theorem except_map_eq_error {computation : Except ε α} {change : α → β} {error : ε}
    (failed : computation.map change = .error error) : computation = .error error := by
  cases computation with
  | error fault =>
      cases failed
      rfl
  | ok value => cases failed

theorem except_mapError_eq_error {computation : Except ε α} {change : ε → ε'} {error : ε'}
    (failed : computation.mapError change = .error error) :
    ∃ fault, computation = .error fault ∧ change fault = error := by
  cases computation with
  | error fault =>
      cases failed
      exact ⟨fault, rfl, rfl⟩
  | ok value => cases failed

/-- A list of computations fails with the failure of one of them. -/
theorem except_mapM_eq_error {step : α → Except ε β} {list : List α} {error : ε}
    (failed : list.mapM step = .error error) : ∃ element ∈ list, step element = .error error := by
  induction list with
  | nil => cases failed
  | cons head tail inductionHypothesis =>
      rw [List.mapM_cons] at failed
      rcases except_bind_eq_error failed with here | ⟨_, _, later⟩
      · exact ⟨head, List.mem_cons_self, here⟩
      · rcases except_bind_eq_error later with others | ⟨_, _, impossible⟩
        · rcases inductionHypothesis others with ⟨element, member, refused⟩
          exact ⟨element, List.mem_cons_of_mem _ member, refused⟩
        · cases impossible

end

/-! ## Where the passes fail -/

section

variable {settings : Settings} {path : Path} {node : Mapping} {entry : Key × Tree}
  {locked : String → Bool} {error : InvalidPattern}

theorem Settings.fails_of_resolveApart (node : Mapping)
    (failed : settings.resolveApart path entry = .error error) :
    settings.Fails path node entry error := by
  rcases except_mapError_eq_error failed with ⟨fault, alone, same⟩
  subst same
  exact .below alone

theorem Settings.evaluates_of_selects (node : Mapping) {name stripped base pattern : String}
    {marked : Bool}
    (tagged : Tag.ofKey settings.table name = .tagged ⟨stripped, marked, .locale base pattern⟩)
    {fault : Pattern.PatternError}
    (failed : settings.selects locked name base pattern marked = .error fault) :
    settings.Evaluates node name fault.pattern ∧ Pattern.Rejected fault.pattern := by
  rw [selects] at failed
  split at failed
  case isTrue => cases failed
  case isFalse free =>
      have unmarked : marked = false := by
        rw [Bool.or_eq_true, not_or] at free
        exact Bool.eq_false_iff.mpr free.2
      subst unmarked
      split at failed
      case h_1 => cases failed
      case h_2 identifier given =>
          rcases asked : Pattern.verdict pattern identifier with other | matched
          · rw [asked] at failed
            cases failed
            rcases Pattern.rejected_of_verdict asked with ⟨same, rejected⟩
            subst same
            exact ⟨.locale given tagged, rejected⟩
          · rw [asked] at failed
            cases failed

/-- The first pass fails only at entries that it decides. -/
theorem Settings.fails_of_firstChoice (node : Mapping)
    (failed : settings.firstChoice path locked entry = .error error) :
    settings.decidesFirst entry.1 = true ∧ settings.Fails path node entry error := by
  rcases entry with ⟨name | position, value⟩
  · rw [firstChoice] at failed
    dsimp only at failed
    split at failed
    case h_1 marked base pattern tagged =>
        refine ⟨by simp only [decidesFirst, tagged], ?_⟩
        rcases except_bind_eq_error failed with refused | ⟨chosen, _, later⟩
        · rcases except_mapError_eq_error refused with ⟨fault, asked, same⟩
          subst same
          rcases evaluates_of_selects node tagged asked with ⟨evaluates, rejected⟩
          exact .here rfl evaluates rejected
        · cases chosen with
          | false => cases later
          | true =>
              rcases except_bind_eq_error later with alone | ⟨_, _, impossible⟩
              · exact fails_of_resolveApart node alone
              · cases impossible
    case h_2 => cases failed
  · refine ⟨rfl, ?_⟩
    rcases except_bind_eq_error failed with alone | ⟨_, _, impossible⟩
    · exact fails_of_resolveApart node alone
    · cases impossible

theorem Settings.fails_of_secondChoice
    (failed : settings.secondChoice path node locked entry = .error error) :
    settings.Fails path node entry error := by
  rcases entry with ⟨name | position, value⟩
  · rw [secondChoice] at failed
    dsimp only at failed
    split at failed
    case h_1 =>
        split at failed
        case isTrue => cases failed
        case isFalse =>
            rcases except_bind_eq_error failed with alone | ⟨_, _, impossible⟩
            · exact fails_of_resolveApart node alone
            · cases impossible
    case h_2 base parameter argument tagged =>
        split at failed
        case isTrue => cases failed
        case isFalse =>
            split at failed
            case h_1 => cases failed
            case h_2 resolver enabled =>
                rcases except_bind_eq_error failed with alone | ⟨_, _, later⟩
                · exact fails_of_resolveApart node alone
                · rcases except_bind_eq_error later with refused | ⟨_, _, impossible⟩
                  · rcases except_mapError_eq_error refused with ⟨fault, asked, same⟩
                    subst same
                    rcases Parameter.Resolver.evaluates_of_verdict asked with ⟨evaluates, rejected⟩
                    exact .here rfl (.parameter tagged enabled evaluates) rejected
                  · cases impossible
    case h_3 => cases failed
  · cases failed

end

/-! ## A failure is genuine -/

section

variable {settings : Settings} {path : Path} {entries : Mapping} {error : InvalidPattern}

theorem Settings.fails_of_firstChoices (node : Mapping) {locked : String → Bool}
    (failed : settings.firstChoices path locked entries = .error error) :
    ∃ entry ∈ entries, settings.Fails path node entry error := by
  induction entries generalizing locked with
  | nil => cases failed
  | cons entry rest inductionHypothesis =>
      rcases except_bind_eq_error failed with here | ⟨_, _, later⟩
      · exact ⟨entry, List.mem_cons_self, (fails_of_firstChoice node here).2⟩
      · rcases except_bind_eq_error later with others | ⟨_, _, impossible⟩
        · rcases inductionHypothesis others with ⟨found, member, fails⟩
          exact ⟨found, List.mem_cons_of_mem _ member, fails⟩
        · cases impossible

/-- A mapping fails at one of its entries. -/
theorem Settings.fails_of_resolveChoices
    (failed : settings.resolveChoices path entries = .error error) :
    ∃ entry ∈ entries, settings.Fails path entries entry error := by
  rcases except_bind_eq_error failed with first | ⟨_, _, later⟩
  · exact fails_of_firstChoices entries first
  · rcases except_bind_eq_error later with second | ⟨_, _, impossible⟩
    · rcases except_mapM_eq_error second with ⟨entry, member, refused⟩
      exact ⟨entry, member, fails_of_secondChoice refused⟩
    · cases impossible

/-- The path leads to a mapping that has the key, and deciding this key there evaluates the
pattern, which is rejected. -/
structure Settings.Genuine (settings : Settings) (tree : Tree) (error : InvalidPattern)
    (node : Mapping) : Prop where
  reached : tree.follow? error.path = some (.mapping node)
  present : .name error.key ∈ Entries.keys node
  evaluates : settings.Evaluates node error.key error.pattern
  rejected : Pattern.Rejected error.pattern

/-- What is genuine in the value of a child is genuine in the tree. -/
theorem Settings.Genuine.under_child {tree value : Tree} {key : Key} {node : Mapping}
    (genuine : settings.Genuine value error node) (found : tree.child? key = some value) :
    settings.Genuine tree (error.under (Path.root.child key)) node where
  reached := (Tree.follow?_child_below found error.path).trans genuine.reached
  present := genuine.present
  evaluates := genuine.evaluates
  rejected := genuine.rejected

theorem Settings.genuine_of_error {tree : Tree} (addressable : tree.Addressable)
    (failed : settings.resolve tree = .error error) :
    ∃ node, settings.Genuine tree error node := by
  induction tree using Tree.induction generalizing error with
  | scalar tree scalar =>
      rw [resolve_eq_outcome, Walk.resolveTree_scalar settings .root scalar] at failed
      cases failed
  | sequence items inductionHypothesis =>
      cases addressable with
      | scalar isScalar => cases isScalar
      | sequence short values =>
          rw [settings.resolve_sequence_apart (by omega)] at failed
          rcases except_mapM_eq_error (except_map_eq_error failed) with ⟨entry, member, refused⟩
          rcases except_mapError_eq_error refused with ⟨inner, alone, same⟩
          subst same
          have isItem := Tree.mem_of_mem_positioned member
          rcases inductionHypothesis entry.2 isItem (values entry.2 isItem) alone with
            ⟨node, genuine⟩
          exact ⟨node, genuine.under_child (Tree.child?_of_mem_positioned short member)⟩
  | mapping entries inductionHypothesis =>
      cases addressable with
      | scalar isScalar => cases isScalar
      | mapping distinct values =>
          rw [settings.resolve_mapping_choices distinct] at failed
          rcases fails_of_resolveChoices (except_map_eq_error failed) with ⟨entry, member, fails⟩
          cases fails with
          | below alone =>
              rcases inductionHypothesis entry member (values entry member) alone with
                ⟨node, genuine⟩
              exact ⟨node, genuine.under_child (Entries.get?_of_mem distinct member)⟩
          | here isName evaluates rejected =>
              refine ⟨entries, Tree.follow?_root _, ?_, evaluates, rejected⟩
              exact isName ▸ Entries.mem_keys_of_mem member

end

/-! ## No locale pattern is passed over -/

section

variable {settings : Settings} {path : Path} {locked : String → Bool} {name identifier : String}
  {stripped base pattern : String}

theorem CleanLocks.lockNext (clean : CleanLocks locked) {entries : Mapping}
    (simple : SimpleKeys entries) {entry : Key × Tree} (member : entry ∈ entries) :
    CleanLocks (settings.lockNext locked entry) := by
  intro key isLocked
  rw [Settings.lockNext, Bool.or_eq_true, beq_iff_eq] at isLocked
  rcases isLocked with before | target
  · exact clean key before
  · exact simple.base_clean member (Settings.base?_of_firstTarget? target)

/-- The pattern is matched before the lock of the base is looked at, and the name of a
locale entry is not locked itself. -/
theorem Settings.firstChoice_of_rejected (clean : CleanLocks locked)
    (given : settings.locale = some identifier)
    (tagged : Tag.ofKey settings.table name = .tagged ⟨stripped, false, .locale base pattern⟩)
    (rejected : Pattern.Rejected pattern) (value : Tree) :
    settings.firstChoice path locked (.name name, value) = .error ⟨path, name, pattern⟩ := by
  have free := clean.unlocked (Tag.mem_toList_of_form_ne_plain tagged TagForm.noConfusion)
  have refused : settings.selects locked name base pattern false = .error ⟨pattern⟩ := by
    simp only [selects, free, Bool.or_self, Bool.false_eq_true, if_false, given,
      rejected.verdict_eq]
    rfl
  simp only [firstChoice, tagged, refused]
  rfl

/-- The first pass fails at the entry, or at one before it. -/
theorem Settings.firstChoices_of_rejected (node : Mapping) (clean : CleanLocks locked)
    {before after : Mapping} {value : Tree}
    (simple : SimpleKeys (before ++ (.name name, value) :: after))
    (given : settings.locale = some identifier)
    (tagged : Tag.ofKey settings.table name = .tagged ⟨stripped, false, .locale base pattern⟩)
    (rejected : Pattern.Rejected pattern) :
    ∃ error, settings.firstChoices path locked (before ++ (.name name, value) :: after) =
        .error error ∧
      (error = ⟨path, name, pattern⟩ ∨
        ∃ entry ∈ before, settings.decidesFirst entry.1 = true ∧
          settings.Fails path node entry error) := by
  induction before generalizing locked with
  | nil =>
      refine ⟨_, ?_, Or.inl rfl⟩
      rw [List.nil_append, firstChoices, firstChoice_of_rejected clean given tagged rejected]
      rfl
  | cons head tail inductionHypothesis =>
      rw [List.cons_append, firstChoices]
      rcases here : settings.firstChoice path locked head with error | kept
      · exact ⟨error, rfl, Or.inr ⟨head, List.mem_cons_self, fails_of_firstChoice node here⟩⟩
      · have tailSimple : SimpleKeys (tail ++ (.name name, value) :: after) :=
          fun other member => simple other (List.mem_cons_of_mem _ member)
        rcases inductionHypothesis (clean.lockNext simple List.mem_cons_self) tailSimple with
          ⟨error, failed, source⟩
        refine ⟨error, by rw [failed]; rfl, ?_⟩
        rcases source with own | ⟨entry, member, fails⟩
        · exact Or.inl own
        · exact Or.inr ⟨entry, List.mem_cons_of_mem _ member, fails⟩

end

/-- Failures are genuine, and the locale patterns of a mapping with simple keys are all
matched: when one of them is rejected, resolution fails at its entry or at an earlier one
of the first pass, whatever else the mapping holds. -/
theorem Settings.resolve_failures (settings : Settings) :
    (∀ (tree : Tree) (error : InvalidPattern), tree.Addressable →
      settings.resolve tree = .error error →
        ∃ node : Mapping, tree.follow? error.path = some (.mapping node) ∧
          .name error.key ∈ Entries.keys node ∧
          settings.Evaluates node error.key error.pattern ∧ Pattern.Rejected error.pattern) ∧
    ∀ (before after : Mapping) (name : String) (value : Tree)
      (identifier stripped base pattern : String),
      (Entries.keys (before ++ (.name name, value) :: after)).Nodup →
      SimpleKeys (before ++ (.name name, value) :: after) →
      settings.locale = some identifier →
      Tag.ofKey settings.table name = .tagged ⟨stripped, false, .locale base pattern⟩ →
      Pattern.Rejected pattern →
        ∃ error, settings.resolve (.mapping (before ++ (.name name, value) :: after)) =
            .error error ∧
          (error = ⟨.root, name, pattern⟩ ∨
            ∃ entry ∈ before, settings.decidesFirst entry.1 = true ∧
              settings.Fails .root (before ++ (.name name, value) :: after) entry error) := by
  refine ⟨fun tree error addressable failed => ?_, ?_⟩
  · rcases genuine_of_error addressable failed with ⟨node, genuine⟩
    exact ⟨node, genuine.reached, genuine.present, genuine.evaluates, genuine.rejected⟩
  · intro before after name value identifier stripped base pattern distinct simple given tagged
      rejected
    have unlocked : CleanLocks fun _ => false := fun _ locked => absurd locked Bool.false_ne_true
    rcases firstChoices_of_rejected (before ++ (.name name, value) :: after) unlocked simple given
      tagged rejected with ⟨error, failed, source⟩
    refine ⟨error, ?_, source⟩
    rw [settings.resolve_mapping_choices distinct, resolveChoices, failed]
    rfl

/-- A field with a broken pattern inside a sequence, and a broken locale pattern after an
entry that has won its key. -/
theorem Settings.resolve_failures_unbalanced :
    let settings : Settings :=
      ⟨some "fr", some ⟨[("launch", some (.field "production" [] []))]⟩⟩
    let page : Mapping := [(.name "stage", .string "("), (.name "url@launch.stage", .null)]
    let tree : Tree := .sequence [.null, .mapping page]
    let titles : Mapping := [(.name "title@fr", .string "Bonjour"), (.name "title@(", .null),
      (.name "title", .string "Hello")]
    (tree.Addressable ∧ ∃ error, settings.resolve tree = .error error ∧
      ∃ node : Mapping, tree.follow? error.path = some (.mapping node) ∧
        .name error.key ∈ Entries.keys node ∧
        settings.Evaluates node error.key error.pattern ∧ Pattern.Rejected error.pattern) ∧
    (Entries.keys titles).Nodup ∧ SimpleKeys titles ∧ Pattern.Rejected "(" ∧
      ∃ error, settings.resolve (.mapping titles) = .error error ∧
        (error = ⟨.root, "title@(", "("⟩ ∨
          ∃ entry ∈ [(Key.name "title@fr", Tree.string "Bonjour")],
            settings.decidesFirst entry.1 = true ∧ settings.Fails .root titles entry error) := by
  intro settings page tree titles
  have pageValues : ∀ entry ∈ page, entry.2.Addressable := by
    intro entry member
    rcases List.mem_pair.mp member with rfl | rfl <;> exact .scalar trivial
  have addressable : tree.Addressable := by
    refine .sequence (by decide) fun item member => ?_
    rcases List.mem_pair.mp member with rfl | rfl
    · exact .scalar trivial
    · exact .mapping (by decide) pageValues
  have distinct : (Entries.keys titles).Nodup := by decide
  have simple : SimpleKeys titles := by
    intro name member
    have title : '@' ∉ "title".toList := by decide
    simp only [titles, Entries.keys_cons, Entries.keys_nil, List.mem_cons, Key.name.injEq,
      List.not_mem_nil, or_false] at member
    rcases member with same | same | same
    · exact same ▸ Or.inr ⟨_, [], title, Or.inl rfl,
        Or.inr ⟨"fr".toList, by decide, by decide, by decide⟩⟩
    · exact same ▸ Or.inr ⟨_, [], title, Or.inl rfl,
        Or.inr ⟨"(".toList, by decide, by decide, by decide⟩⟩
    · exact same ▸ Or.inr ⟨_, [], title, Or.inl rfl, Or.inl (by decide)⟩
  have asked : Pattern.verdict "(" "fr" = .error ⟨"("⟩ := by decide +kernel
  have rejected : Pattern.Rejected "(" := (Pattern.rejected_of_verdict asked).2
  have failures := settings.resolve_failures
  have fails : (settings.resolve tree).isOk = false := by decide +kernel
  refine ⟨⟨addressable, ?_⟩, distinct, simple, rejected, ?_⟩
  · rcases failed : settings.resolve tree with error | result
    · exact ⟨error, rfl, failures.1 tree error addressable failed⟩
    · rw [failed] at fails
      cases fails
  · exact failures.2 [(.name "title@fr", .string "Bonjour")] [(.name "title", .string "Hello")]
      "title@(" .null "fr" "title@(" "title" "(" distinct simple rfl (by decide) rejected

end Resolution
end TaggedContent
