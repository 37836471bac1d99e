import Mathlib.Data.List.Induction
import TaggedContent.Proofs.Pattern.WholeMatch

namespace TaggedContent
namespace Pattern

/-!
# Runs of calls on one cache

The calls of a run share a cache, so one may be answered from what another has compiled.
A call leaves its own pattern compiled when the pattern can be compiled, and all else as
it was.  What is found in the cache after a run is therefore known from the patterns that
have been asked for, whatever the candidates were and in whatever order hits, misses and
failures came.  That no answer depends on the calls before it follows from the soundness
of the cache.
-/

namespace Cache

/-- The answers to the calls, each on the cache that the one before it has left. -/
def answers (cache : Cache) : List (String × String) → List (Except PatternError Bool)
  | [] => []
  | call :: calls =>
      let result := cache.fullMatch call.1 call.2
      result.1 :: result.2.answers calls

variable {cache : Cache} {pattern candidate : String}

/-! ## One call -/

/-- A call leaves its pattern compiled, if it can be, and does not touch any other. -/
theorem get?_fullMatch (sound : cache.Sound) (pattern candidate other : String) :
    Entries.get? (cache.fullMatch pattern candidate).2.compiled other =
      if pattern = other then (compileAnchored pattern).toOption
      else Entries.get? cache.compiled other := by
  cases found : Entries.get? cache.compiled pattern with
  | some regex =>
      simp only [fullMatch, found]
      split
      case isTrue same => rw [← same, found, sound pattern regex found]; rfl
      case isFalse => rfl
  | none =>
      cases compiled : compileAnchored pattern with
      | ok regex =>
          simp only [fullMatch, found, compiled, Entries.get?_insert]
          rfl
      | error error =>
          simp only [fullMatch, found, compiled]
          split
          case isTrue same => rw [← same, found]; rfl
          case isFalse => rfl

/-- A failure names the pattern that was asked for, and leaves the cache as it was. -/
theorem fullMatch_of_error {error : PatternError}
    (failed : (cache.fullMatch pattern candidate).1 = .error error) :
    error = ⟨pattern⟩ ∧ (cache.fullMatch pattern candidate).2 = cache := by
  cases found : Entries.get? cache.compiled pattern with
  | some regex =>
      simp only [fullMatch, found] at failed
      cases failed
  | none =>
      cases compiled : compileAnchored pattern with
      | ok regex =>
          simp only [fullMatch, found, compiled] at failed
          cases failed
      | error fault =>
          simp only [fullMatch, found, compiled] at failed
          cases failed
          refine ⟨compileAnchored_eq_error compiled, ?_⟩
          simp only [fullMatch, found, compiled]

theorem nodup_keys_fullMatch (distinct : (Entries.keys cache.compiled).Nodup)
    (pattern candidate : String) :
    (Entries.keys (cache.fullMatch pattern candidate).2.compiled).Nodup := by
  unfold fullMatch
  split
  · exact distinct
  · split
    · exact Entries.nodup_keys_insert pattern _ distinct
    · exact distinct

/-! ## A run of calls -/

theorem after_concat (calls : List (String × String)) (call : String × String) :
    after (calls ++ [call]) = ((after calls).fullMatch call.1 call.2).2 := by
  rw [after, List.foldl_concat]
  rfl

/-- By induction over the calls: each is answered on a sound cache and leaves one. -/
theorem answers_eq_map (sound : cache.Sound) (calls : List (String × String)) :
    cache.answers calls = calls.map fun call => verdict call.1 call.2 := by
  induction calls generalizing cache with
  | nil => rfl
  | cons call calls inductionHypothesis =>
      rcases fullMatch_answers call.1 call.2 cache sound with ⟨answer, soundAfter⟩
      rw [answers, answer, inductionHypothesis soundAfter, List.map_cons]

/-- By induction on the number of calls: the cache holds what the patterns asked for so
far compile to. -/
theorem get?_after (calls : List (String × String)) (pattern : String) :
    Entries.get? (after calls).compiled pattern =
      if pattern ∈ calls.map Prod.fst then (compileAnchored pattern).toOption else none := by
  induction calls using List.reverseRecOn with
  | nil => rfl
  | append_singleton calls call inductionHypothesis =>
      rw [after_concat, get?_fullMatch (sound_after calls), inductionHypothesis]
      by_cases same : call.1 = pattern
      · have asked : pattern ∈ (calls ++ [call]).map Prod.fst := by
          rw [List.map_append, List.mem_append]
          exact Or.inr (List.mem_singleton.mpr same.symm)
        rw [if_pos same, if_pos asked, same]
      · rw [if_neg same, List.map_append, List.map_singleton]
        simp only [List.mem_append, List.mem_singleton, Ne.symm same, or_false]

theorem nodup_keys_after (calls : List (String × String)) :
    (Entries.keys (after calls).compiled).Nodup := by
  induction calls using List.reverseRecOn with
  | nil => exact List.nodup_nil
  | append_singleton calls call inductionHypothesis =>
      rw [after_concat]
      exact nodup_keys_fullMatch inductionHypothesis call.1 call.2

/-- A call of the run is answered exactly when its pattern can be compiled. -/
theorem exists_answer_iff (calls : List (String × String)) (pattern : String) :
    (∃ candidate answer, ((pattern, candidate), .ok answer) ∈ calls.zip (empty.answers calls)) ↔
      pattern ∈ calls.map Prod.fst ∧ ∃ regex, compileAnchored pattern = .ok regex := by
  rw [answers_eq_map sound_empty, ← List.map_prod_left_eq_zip]
  simp only [List.mem_map, Prod.mk.injEq]
  constructor
  · rintro ⟨candidate, answer, call, member, rfl, answered⟩
    refine ⟨⟨_, member, rfl⟩, ?_⟩
    cases compiled : compileAnchored pattern with
    | ok regex => exact ⟨regex, rfl⟩
    | error error =>
        rw [verdict_of_error compiled] at answered
        cases answered
  · rintro ⟨⟨call, member, rfl⟩, regex, compiled⟩
    exact ⟨call.2, regex.isMatch call.2, call, member, rfl, verdict_of_compiled compiled call.2⟩

end Cache

theorem compileAnchored_eq_ok {pattern : String} {regex : Regex}
    (compiled : compileAnchored pattern = .ok regex) :
    Regex.compile? (anchored pattern) = some regex := by
  unfold compileAnchored compileAnchoredWithin at compiled
  split at compiled
  case h_1 whole => exact (Except.ok.inj compiled) ▸ whole
  case h_2 => cases compiled

/-- In a run of calls on one cache, with any patterns and candidates, every call is answered
as on an empty cache.  A call that fails names its pattern and leaves the cache as it was.
The cache holds, each under its own pattern and once, the anchored forms of the patterns for
which a call of the run has had an answer, and nothing else. -/
theorem Cache.answers_transparent (calls : List (String × String)) :
    empty.answers calls = calls.map (fun call => (empty.fullMatch call.1 call.2).1) ∧
    (∀ pattern candidate error,
      ((after calls).fullMatch pattern candidate).1 = .error error →
        error = ⟨pattern⟩ ∧ ((after calls).fullMatch pattern candidate).2 = after calls) ∧
    (Entries.keys (after calls).compiled).Nodup ∧
    ∀ pattern regex, Entries.get? (after calls).compiled pattern = some regex ↔
      Regex.compile? (anchored pattern) = some regex ∧ ∃ candidate answer,
        ((pattern, candidate), .ok answer) ∈ calls.zip (empty.answers calls) := by
  refine ⟨answers_eq_map sound_empty calls, fun _ _ _ => fullMatch_of_error,
    nodup_keys_after calls, fun pattern regex => ?_⟩
  rw [get?_after, exists_answer_iff]
  constructor
  · intro held
    split at held
    case isFalse => cases held
    case isTrue asked =>
        cases compiled : compileAnchored pattern with
        | error error =>
            rw [compiled] at held
            cases held
        | ok whole =>
            rw [compiled] at held
            cases held
            exact ⟨compileAnchored_eq_ok compiled, asked, regex, rfl⟩
  · rintro ⟨compiled, asked, whole, accepted⟩
    have same := (compileAnchored_eq_ok accepted).symm.trans compiled
    rw [if_pos asked, accepted]
    exact same

/-- A pattern that is compiled once and met again, with one between that cannot be compiled
and is then asked for again. -/
theorem Cache.answers_transparent_history :
    let calls := [("en|fr", "fr"), ("a)(b", "ab"), ("en|fr", "de")]
    empty.answers calls = [.ok true, .error ⟨"a)(b"⟩, .ok false] ∧
      (((after calls).fullMatch "a)(b" "fr").1 = .error ⟨"a)(b"⟩ ∧
        ((after calls).fullMatch "a)(b" "fr").2 = after calls) ∧
      ∃ regex, Entries.get? (after calls).compiled "en|fr" = some regex ∧
        Regex.compile? (anchored "en|fr") = some regex := by
  intro calls
  rcases answers_transparent calls with ⟨same, failing, -, contents⟩
  have fresh : calls.map (fun call => (empty.fullMatch call.1 call.2).1) =
      [.ok true, .error ⟨"a)(b"⟩, .ok false] := by decide +kernel
  have failed : ((after calls).fullMatch "a)(b" "fr").1 = .error ⟨"a)(b"⟩ := by decide +kernel
  have compiles : (Regex.compile? (anchored "en|fr")).isSome = true := by decide +kernel
  rcases Option.isSome_iff_exists.mp compiles with ⟨regex, compiled⟩
  have answered : (("en|fr", "fr"), .ok true) ∈ calls.zip (empty.answers calls) := by
    rw [same, fresh]
    exact List.mem_cons_self
  exact ⟨same.trans fresh, ⟨failed, (failing _ _ _ failed).2⟩, regex,
    (contents "en|fr" regex).mpr ⟨compiled, "fr", true, answered⟩, compiled⟩

end Pattern
end TaggedContent
