import TaggedContent.Proofs.Pattern.Anchoring
import TaggedContent.Proofs.Pattern.Ordering
import TaggedContent.Proofs.Verdict

namespace TaggedContent
namespace Pattern

/-!
# Matching all of a candidate

Matching looks for the anchored pattern anywhere in the candidate.  Between its
tests only the whole candidate is left, so what is found is a match of the pattern
itself from the first position to the last.  There is no answer for a pattern that is
not accepted alone, nor for one that is refused between the anchors.
-/

namespace Cache

/-- The cache after matching these patterns with these candidates, one after the
other. -/
def after (calls : List (String × String)) : Cache :=
  calls.foldl (fun cache call => (cache.fullMatch call.1 call.2).2) empty

theorem sound_after (calls : List (String × String)) : (after calls).Sound := by
  have kept : ∀ cache : Cache, cache.Sound →
      (calls.foldl (fun cache call => (cache.fullMatch call.1 call.2).2) cache).Sound := by
    induction calls with
    | nil => exact fun cache sound => sound
    | cons call calls further =>
        exact fun cache sound => further _ (fullMatch_answers call.1 call.2 cache sound).2
  exact kept empty sound_empty

end Cache

variable {pattern : String} {regex : Regex}

/-- The anchored pattern is found in a text exactly when the pattern describes all of
it. -/
theorem Regex.isMatch_whole_iff (ordered : regex.whole.Ordered) (text : String) :
    regex.whole.isMatch text = true ↔
      Matches text.toList.toArray regex 0 text.toList.toArray.size := by
  rw [Regex.isMatch_iff ordered]
  constructor
  · rintro ⟨start, -, stop, found⟩
    exact (Regex.matches_whole_iff.mp found).2.2
  · intro found
    exact ⟨0, Nat.zero_le _, _, Regex.matches_whole_iff.mpr ⟨rfl, rfl, found⟩⟩

/-- Matching a pattern that is accepted on its own and between anchors answers, after any
earlier calls, whether the pattern describes all of the candidate.  Alternatives and
flags of the pattern leave the anchors as they are: between them stands the pattern with
the meaning that it has alone. -/
theorem Cache.fullMatch_whole (calls : List (String × String)) (pattern candidate : String)
    (regex whole : Regex) (compiled : Regex.compile? pattern = some regex)
    (compiledWhole : Regex.compile? (anchored pattern) = some whole) :
    (∀ text start stop, Matches text whole start stop ↔
      start = 0 ∧ stop = text.size ∧ Matches text regex 0 text.size) ∧
    ∃ answer, ((Cache.after calls).fullMatch pattern candidate).1 = .ok answer ∧
      (answer = true ↔
        Matches candidate.toList.toArray regex 0 candidate.toList.toArray.size) := by
  have ordered := Regex.compile?_ordered compiledWhole
  rcases (Regex.compileWithin?_anchored_iff compiled).mp compiledWhole with ⟨rfl, -⟩
  refine ⟨fun text start stop => Regex.matches_whole_iff, regex.whole.isMatch candidate, ?_,
    Regex.isMatch_whole_iff ordered candidate⟩
  have accepted : compileAnchored pattern = .ok regex.whole := by
    unfold Regex.compile? at compiled compiledWhole
    simp only [compileAnchored, compileAnchoredWithin, compiled, compiledWhole]
  rw [(Cache.fullMatch_answers pattern candidate _ (sound_after calls)).1,
    verdict_of_compiled accepted]

/-- With a flag that lets a dollar sign end a line, and two alternatives.  All of the
first candidate is described; a line of the second would be, but not all of it. -/
theorem Cache.fullMatch_whole_lines :
    let pattern := "(?m)en|fr$"
    ∃ regex whole, Regex.compile? pattern = some regex ∧
      Regex.compile? (anchored pattern) = some whole ∧
      (∀ text start stop, Matches text whole start stop ↔
        start = 0 ∧ stop = text.size ∧ Matches text regex 0 text.size) ∧
      Matches "fr".toList.toArray regex 0 2 ∧ ¬ Matches "fr\nde".toList.toArray regex 0 5 := by
  intro pattern
  have compiled : (Regex.compile? pattern).isSome = true := by decide +kernel
  have compiledWhole : (Regex.compile? (anchored pattern)).isSome = true := by decide +kernel
  rcases Option.isSome_iff_exists.mp compiled with ⟨regex, compiled⟩
  rcases Option.isSome_iff_exists.mp compiledWhole with ⟨whole, compiledWhole⟩
  have matching := fun candidate =>
    fullMatch_whole [("en|fr", "de")] pattern candidate regex whole compiled compiledWhole
  rcases matching "fr" with ⟨same, answer, answered, found⟩
  rcases matching "fr\nde" with ⟨-, otherAnswer, otherAnswered, otherFound⟩
  have yes : ((after [("en|fr", "de")]).fullMatch pattern "fr").1 = .ok true := by decide +kernel
  have no : ((after [("en|fr", "de")]).fullMatch pattern "fr\nde").1 = .ok false := by
    decide +kernel
  rw [yes, Except.ok.injEq] at answered
  rw [no, Except.ok.injEq] at otherAnswered
  refine ⟨regex, whole, compiled, compiledWhole, same, found.mp answered.symm, ?_⟩
  intro described
  exact absurd (otherAnswered.trans (otherFound.mpr described)) Bool.false_ne_true

/-! ## Patterns without an answer -/

variable {fits : Expression → Bool}

/-- The pattern is refused between anchors, whatever it is alone: it takes up the rest of
its last line, it is within two levels of the deepest nesting, or with both tests it is
too large. -/
inductive Unanchorable (fits : Expression → Bool) (pattern : String) : Prop where
  | comment (commented : EndsInComment pattern.toList)
  | deep {expression : Expression} (read : Expression.read? pattern = some expression)
      (deep : Expression.depthLimit < expression.depth + 2)
  | large {expression : Expression} (read : Expression.read? pattern = some expression)
      (large : fits expression.enclosed = false)

theorem Regex.compileWithin?_anchored_eq_none_iff
    (compiled : Regex.compileWithin? fits pattern = some regex) :
    Regex.compileWithin? fits (anchored pattern) = none ↔ Unanchorable fits pattern := by
  constructor
  · intro refused
    by_contra anchorable
    rcases compileWithin?_eq_some_iff.mp compiled with ⟨expression, flags, read, -, -⟩
    have accepted : compileWithin? fits (anchored pattern) = some regex.whole := by
      refine (compileWithin?_anchored_iff compiled).mpr ⟨rfl, ?_, expression, read, ?_, ?_⟩
      · exact fun commented => anchorable (.comment commented)
      · exact Nat.not_lt.mp fun deep => anchorable (.deep read deep)
      · exact Bool.of_not_eq_false fun large => anchorable (.large read large)
    rw [refused] at accepted
    cases accepted
  · intro unanchorable
    by_contra accepted
    rcases Option.ne_none_iff_exists'.mp accepted with ⟨whole, accepted⟩
    obtain ⟨rfl, uncommented, expression, read, shallow, fitting⟩ :=
      (compileWithin?_anchored_iff compiled).mp accepted
    cases unanchorable with
    | comment commented => exact uncommented commented
    | deep readOther deep =>
        rw [read] at readOther
        cases readOther
        exact absurd deep (Nat.not_lt.mpr shallow)
    | large readOther large =>
        rw [read] at readOther
        cases readOther
        rw [large] at fitting
        cases fitting

theorem compileAnchoredWithin_eq_error_iff :
    compileAnchoredWithin fits pattern = .error ⟨pattern⟩ ↔
      Regex.compileWithin? fits pattern = none ∨ Unanchorable fits pattern := by
  cases compiled : Regex.compileWithin? fits pattern with
  | none => simp [compileAnchoredWithin, compiled]
  | some regex =>
      rw [← Regex.compileWithin?_anchored_eq_none_iff compiled]
      cases compiledWhole : Regex.compileWithin? fits (anchored pattern) <;>
        simp [compileAnchoredWithin, compiled, compiledWhole]

end Pattern
end TaggedContent
