import TaggedContent.Parameter.Resolver
import TaggedContent.Proofs.Entries

namespace TaggedContent

/-!
# Answers that do not depend on the cache

A sound cache holds only what compiling each pattern anew would give.  A step on
the cache then has one answer in all sound caches, and leaves a sound one.  This is
shown for matching a pattern and, through it, for the resolvers, whose answer is
that of their question.
-/

namespace Pattern

/-- Whether the pattern matches all of the candidate when nothing has been compiled. -/
def verdict (pattern candidate : String) : Except PatternError Bool :=
  (Cache.empty.fullMatch pattern candidate).1

namespace Cache

/-- Every kept regular expression is the anchored form of its own pattern. -/
def Sound (cache : Cache) : Prop :=
  ∀ pattern regex, Entries.get? cache.compiled pattern = some regex →
    compileAnchored pattern = .ok regex

theorem sound_empty : empty.Sound := by
  intro pattern regex found
  cases found

/-- In every sound cache the step gives this answer and leaves a sound cache. -/
def Answers (step : Cache → Except PatternError α × Cache)
    (answer : Except PatternError α) : Prop :=
  ∀ cache : Cache, cache.Sound → (step cache).1 = answer ∧ (step cache).2.Sound

end Cache

theorem compileAnchored_eq_error {pattern : String} {error : PatternError}
    (failed : compileAnchored pattern = .error error) : error = ⟨pattern⟩ := by
  unfold compileAnchored compileAnchoredWithin at failed
  split at failed
  · cases failed
  · cases failed
    rfl

theorem verdict_of_compiled {pattern : String} {regex : Regex}
    (compiled : compileAnchored pattern = .ok regex) (candidate : String) :
    verdict pattern candidate = .ok (regex.isMatch candidate) := by
  simp [verdict, Cache.fullMatch, Cache.empty, compiled]

theorem verdict_of_error {pattern : String} {error : PatternError}
    (rejected : compileAnchored pattern = .error error) (candidate : String) :
    verdict pattern candidate = .error error := by
  simp [verdict, Cache.fullMatch, Cache.empty, rejected]

/-- Matching gives the verdict whatever has been compiled before, and a pattern that
cannot be compiled leaves no trace. -/
theorem Cache.fullMatch_answers (pattern candidate : String) :
    Cache.Answers (fun cache => cache.fullMatch pattern candidate)
      (verdict pattern candidate) := by
  intro cache sound
  cases found : Entries.get? cache.compiled pattern with
  | some regex =>
      rw [verdict_of_compiled (sound pattern regex found)]
      simp only [fullMatch, found]
      exact ⟨trivial, sound⟩
  | none =>
      cases compiled : compileAnchored pattern with
      | error error =>
          rw [verdict_of_error compiled]
          simp only [fullMatch, found, compiled]
          exact ⟨trivial, sound⟩
      | ok regex =>
          rw [verdict_of_compiled compiled]
          simp only [fullMatch, found, compiled]
          refine ⟨trivial, ?_⟩
          intro other kept there
          rw [Entries.get?_insert] at there
          by_cases same : pattern = other
          · rw [if_pos same, Option.some.injEq] at there
            rw [← same, compiled, there]
          · rw [if_neg same] at there
            exact sound other kept there

end Pattern

namespace Parameter
namespace Resolver

/-- Whether the entry applies when nothing has been compiled: there is a question,
and its pattern matches. -/
def verdict (resolver : Resolver) (request : Request) : Except Pattern.PatternError Bool :=
  match resolver.question? request with
  | none => .ok false
  | some (pattern, text) => Pattern.verdict pattern text

/-- A resolver keeps the entry under its base with its content untouched, or drops
it, as the verdict says. -/
theorem resolve_answers (resolver : Resolver) (request : Request) :
    Pattern.Cache.Answers (resolver.resolve request)
      ((resolver.verdict request).map fun applies =>
        if applies then some (.name request.base, request.content) else none) := by
  intro cache sound
  unfold resolve verdict
  cases asked : resolver.question? request with
  | none => exact ⟨rfl, sound⟩
  | some question =>
      rcases question with ⟨pattern, text⟩
      have answer := Pattern.Cache.fullMatch_answers pattern text cache sound
      dsimp only at answer ⊢
      rw [← answer.1]
      rcases outcome : cache.fullMatch pattern text with ⟨result, after⟩
      rw [outcome] at answer
      rcases result with error | _ | _ <;> exact ⟨rfl, answer.2⟩

/-- The verdict looks at the node only through the field that the argument names. -/
theorem verdict_congr (resolver : Resolver) (request : Request) (node : Mapping)
    (content : Tree)
    (sameField : (Entries.get? node (.name request.argument)).bind patternText? =
      (Entries.get? request.node (.name request.argument)).bind patternText?) :
    resolver.verdict { request with node := node, content := content } =
      resolver.verdict request := by
  have samePattern : ∀ others : List Mapping,
      fieldPattern? (node :: others) request.argument =
        fieldPattern? (request.node :: others) request.argument := by
    intro others
    simp only [fieldPattern?, List.findSome?_cons, sameField]
  cases resolver <;> simp only [verdict, question?, samePattern]

end Resolver
end Parameter
end TaggedContent
