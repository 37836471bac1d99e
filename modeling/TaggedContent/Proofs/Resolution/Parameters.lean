import TaggedContent.Proofs.Parameter.Question
import TaggedContent.Proofs.Path
import TaggedContent.Proofs.Resolution.Assembly

namespace TaggedContent

/-!
# Parameterized entries

Whether the key of a parameterized entry is locked is looked up before its value is
resolved and its resolver runs.  Looking up the key that the resolver returns, once it has
run, would tell the same: the resolver returns the base of the entry, and to resolve the
value locks nothing at the path of the mapping, only below it.
-/

namespace Resolution
namespace Walk

variable {settings : Settings} {path : Path}

/-- The cache is sound, and at the path exactly these keys are locked. -/
structure LocksExactly (path : Path) (locked : String → Bool) (progress : Progress) : Prop where
  sound : progress.patterns.Sound
  locked : progress.locks.isLocked path = locked

theorem LocksExactly.idle {locked : String → Bool} {first last : Progress}
    (holds : LocksExactly path locked first) (idle : first.Idle last) :
    LocksExactly path locked last :=
  ⟨idle.patterns holds.sound, by rw [idle.locks, holds.locked]⟩

/-- A mapping that stands elsewhere locks no key at the path. -/
theorem LocksExactly.invariant (settings : Settings) {place path : Path} (apart : place ≠ path)
    (locked : String → Bool) (entries : Mapping) :
    Invariant settings place entries (LocksExactly path locked) where
  sound holds := holds.sound
  idle idle holds := holds.idle idle
  lock key holds := by
    refine ⟨holds.sound, funext fun name => ?_⟩
    dsimp only
    rw [Locks.isLocked_lock_of_ne _ apart, holds.locked]
  mark _ _ _ _ _ holds := ⟨holds.sound, holds.locked⟩

/-- By induction over the tree: a walk stays at and below the place where it begins. -/
theorem resolveTree_locksExactly (settings : Settings) {place path : Path}
    (apart : ∀ rest, place.below rest ≠ path) (locked : String → Bool) (tree : Tree) :
    Preserves (LocksExactly path locked) (resolveTree settings place tree) := by
  have inside : ∀ {place : Path}, (∀ rest, place.below rest ≠ path) →
      ∀ (key : Key) rest, (place.child key).below rest ≠ path := by
    intro place apart key rest
    rw [Path.child_eq_below, Path.below_below]
    exact apart _
  induction tree using Tree.induction generalizing place with
  | scalar tree scalar =>
      intro start value last success initially
      exact preserves_scalar (LocksExactly path locked) scalar success initially
  | sequence items inductionHypothesis =>
      intro start value last success initially
      rcases resolveTree_sequence_success success with ⟨_, _, steps⟩
      refine steps.preserves (fun element member => ?_) initially
      exact inductionHypothesis element.2 (Tree.mem_of_mem_positioned member)
        (inside apart element.1)
  | mapping entries inductionHypothesis =>
      have here : place ≠ path := by
        rw [← Path.below_root place]
        exact apart .root
      apply preserves_mapping (LocksExactly path locked)
        (LocksExactly.invariant settings here locked entries)
      · exact id
      · exact fun holds => LocksExactly.idle ⟨holds.sound, holds.locked⟩
      · exact fun entry _ => resolveTree_sound settings _ entry.2
      · exact fun entry member => inductionHypothesis entry member (inside apart entry.1)

/-- A parameterized entry that is kept is kept under its base.  This key was free at the
start, and the locks of the mapping are the same when its resolver has run. -/
theorem secondEntry_keeps_base {name stripped base parameter argument : String} {marked : Bool}
    (tagged : Tag.ofKey settings.table name =
      .tagged ⟨stripped, marked, .parameter base parameter argument⟩)
    {node : Mapping} {value : Tree} {key : Key} {content : Tree} {start last : Progress}
    (sound : start.patterns.Sound)
    (success : (secondEntry settings path node (.name name) value
      (resolveTree settings (path.child (.name name)) value)).outcome start =
        (.ok (some (key, content)), last)) :
    key = .name base ∧ start.locks.isLocked path base = false ∧
      last.locks.isLocked path = start.locks.isLocked path := by
  cases secondEntry_success sound (resolveTree_sound settings _ value) success with
  | @kept _ other _ middle after _ isName target idle resolved marking =>
      have isBase : settings.base? (.name name) = some base := by
        simp only [Settings.base?, tagged, TaggedKey.base]
      rw [Settings.base?_of_secondTarget? target, Option.some.injEq] at isBase
      subst isBase
      have elsewhere := fun rest => Path.child_below_ne_self path rest (.name name)
      have locks := resolveTree_locksExactly settings elsewhere (start.locks.isLocked path) value
        resolved ⟨idle.patterns sound, by rw [idle.locks]⟩
      exact ⟨rfl, Settings.unlocked_of_secondTarget? target, by rw [marking.locks, locks.locked]⟩

end Walk
end Resolution

namespace Parameter

open Resolution

/-- A resolver asks at most one question.  Without one it matches nothing and drops the entry;
otherwise its answer, and what is left in the cache, are those of matching the pattern with
the text.  It fails exactly when the pattern is refused, and keeps the entry exactly when the
pattern matches, always under its base and with its content.  The defaults of documents are
those of their `localization` sections.  When the walk keeps a parameterized entry, whether its
key was locked before the resolver ran is whether the returned key is locked afterwards. -/
theorem Resolver.resolve_rule (resolver : Resolver) (request : Request) (cache : Pattern.Cache) :
    ((∀ pattern text, ¬ resolver.Asks request pattern text) →
      resolver.resolve request cache = (.ok none, cache)) ∧
    (∀ pattern text, resolver.Asks request pattern text →
      resolver.resolve request cache =
        ((cache.fullMatch pattern text).1.map fun applies =>
          if applies then some (.name request.base, request.content) else none,
        (cache.fullMatch pattern text).2)) ∧
    (∀ error, (resolver.resolve request cache).1 = .error error ↔
      ∃ pattern text, resolver.Asks request pattern text ∧
        (cache.fullMatch pattern text).1 = .error error) ∧
    (∀ kept, (resolver.resolve request cache).1 = .ok (some kept) ↔
      kept = (.name request.base, request.content) ∧
        ∃ pattern text, resolver.Asks request pattern text ∧
          (cache.fullMatch pattern text).1 = .ok true) ∧
    (∀ pod collection, ∃ podDefaults collectionDefaults,
      GivesDefaults pod podDefaults ∧ GivesDefaults collection collectionDefaults ∧
        ofSections pod collection = .localeField collectionDefaults podDefaults) ∧
    ∀ (settings : Settings) (path : Path) (node : Mapping) (value content : Tree) (key : Key)
      (name stripped base parameter argument : String) (marked : Bool) (start last : Progress),
      Tag.ofKey settings.table name =
          .tagged ⟨stripped, marked, .parameter base parameter argument⟩ →
        start.patterns.Sound →
        (Walk.secondEntry settings path node (.name name) value
          (Walk.resolveTree settings (path.child (.name name)) value)).outcome start =
            (.ok (some (key, content)), last) →
        key = .name base ∧ start.locks.isLocked path base = false ∧
          last.locks.isLocked path = start.locks.isLocked path := by
  refine ⟨fun unasked => resolve_of_unasked unasked cache,
    fun _ _ asks => resolve_of_asks asks cache, fun _ => resolve_eq_error_iff,
    fun _ => resolve_eq_some_iff, fun pod collection => ?_, ?_⟩
  · exact ⟨_, _, givesDefaults_localizationSection pod, givesDefaults_localizationSection collection,
      rfl⟩
  · intro settings path node value content key name stripped base parameter argument marked start
      last tagged sound success
    exact Walk.secondEntry_keeps_base tagged sound success

/-- The field is null in the mapping and empty in the collection, so the pod decides.  An empty
text is not matched, however broken the pattern.  The value of the entry has a locale entry
that locks its base, which is also the base of the entry itself, further down. -/
theorem Resolver.resolve_rule_launch :
    let resolver : Resolver :=
      .field "prod" [(.name "launch", .string "")] [(.name "launch", .string "pro.")]
    let settings : Settings := ⟨some "fr", some ⟨[("env", some resolver)]⟩⟩
    let key : Key := .name "page@env.launch"
    let value : Tree := .mapping [(.name "page@fr", .string "Accueil")]
    let node : Mapping := [(.name "launch", .null), (key, value)]
    let request : Request := ⟨node, "page", "env", "launch", .null, some "fr"⟩
    (resolver.resolve request .empty).1 = .ok (some (.name "page", .null)) ∧
      (Resolver.literal "").resolve { request with argument := "(" } .empty = (.ok none, .empty) ∧
      ∃ content last,
        (Walk.secondEntry settings .root node key value
          (Walk.resolveTree settings (Path.root.child key) value)).outcome .initial =
            (.ok (some (.name "page", content)), last) ∧
        last.locks.isLocked .root = Progress.initial.locks.isLocked .root := by
  intro resolver settings key value node request
  refine ⟨?_, ?_, ?_⟩
  · refine ((resolve_rule resolver request .empty).2.2.2.1 _).mpr
      ⟨rfl, "pro.", "prod", .field ?_, by decide +kernel⟩
    exact .absent rfl .null (.absent rfl .emptyText (.here rfl (.text (by decide))))
  · refine (resolve_rule _ _ _).1 fun pattern text asks => ?_
    cases asks with
    | literal given => exact given rfl
  · have kept : ((Walk.secondEntry settings .root node key value
        (Walk.resolveTree settings (Path.root.child key) value)).outcome .initial).1.toOption.join.isSome =
          true := by decide +kernel
    rcases success : (Walk.secondEntry settings .root node key value
        (Walk.resolveTree settings (Path.root.child key) value)).outcome .initial with
      ⟨error | _ | ⟨returned, content⟩, last⟩
    · rw [success] at kept
      cases kept
    · rw [success] at kept
      cases kept
    · have rule := (resolve_rule resolver request .empty).2.2.2.2.2 settings .root node value content
        returned "page@env.launch" "page@env.launch" "page" "env" "launch" false .initial last
        (by decide) Pattern.Cache.sound_empty success
      rcases rule with ⟨rfl, -, same⟩
      exact ⟨content, last, rfl, same⟩

end Parameter
end TaggedContent
