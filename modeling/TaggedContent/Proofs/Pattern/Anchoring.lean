import TaggedContent.Proofs.Pattern.Assembly
import TaggedContent.Proofs.Pattern.Scanning

namespace TaggedContent
namespace Pattern

/-!
# A pattern between anchors

The anchored text of a pattern denotes what the pattern denotes, between a test for
the beginning of the text and one for its end.  Flags of the pattern end with the
group that is put around it, so no flag reaches either test.  The anchored text is
refused for three reasons: the pattern ends in a comment, which takes the closing
parenthesis away, the two levels put around it are too many, or the automaton with
both tests is too large.
-/

namespace Expression

/-- The expression in a group of its own between two anchors. -/
def enclosed (expression : Expression) : Expression :=
  .sequence [.anchor .lineStart, .group (.scoped []) expression, .anchor .lineEnd]

theorem depth_enclosed (expression : Expression) :
    expression.enclosed.depth = expression.depth + 2 := by
  simp [enclosed, depth, depthOfList]

theorem groupNames_enclosedTokens (tokens : List Token) :
    groupNames (enclosedTokens tokens) = groupNames tokens := by
  simp [groupNames, enclosedTokens]

theorem read?_anchored_iff {pattern : String} {expression whole : Expression}
    (read : read? pattern = some expression) :
    read? (anchored pattern) = some whole ↔
      whole = expression.enclosed ∧ ¬ EndsInComment pattern.toList ∧
        expression.depth + 2 ≤ depthLimit := by
  rcases read?_eq_some_iff.mp read with ⟨tokens, scanned, distinct, written, -⟩
  have writtenWhole : ofTokens? (enclosedTokens tokens) = some expression.enclosed :=
    ofTokens?_group (.scoped []) .lineStart .lineEnd written
  rw [read?_eq_some_iff, toList_anchored]
  constructor
  · rintro ⟨others, scannedWhole, -, writtenOthers, shallow⟩
    have uncommented : ¬ EndsInComment pattern.toList := by
      intro commented
      rw [scan_enclosed_of_endsInComment scanned commented] at scannedWhole
      cases scannedWhole
    rw [scan_enclosed_of_not_endsInComment scanned uncommented] at scannedWhole
    cases scannedWhole
    rw [writtenWhole] at writtenOthers
    cases writtenOthers
    exact ⟨rfl, uncommented, depth_enclosed expression ▸ shallow⟩
  · rintro ⟨rfl, uncommented, shallow⟩
    exact ⟨enclosedTokens tokens, scan_enclosed_of_not_endsInComment scanned uncommented,
      (groupNames_enclosedTokens tokens).symm ▸ distinct, writtenWhole,
      (depth_enclosed expression).symm ▸ shallow⟩

end Expression

namespace Regex

/-- The expression between tests for both edges of the text. -/
def whole (regex : Regex) : Regex :=
  sequence ([.look .textStart, regex, .look .textEnd].filter (· ≠ .empty))

/-- Whatever flags the expression sets, the anchors around it have the meaning that they
begin with. -/
theorem meaning?_enclosed {expression : Expression} {regex : Regex} {flags : Flags}
    (means : expression.meaning? .initial = some (regex, flags)) :
    expression.enclosed.meaning? .initial = some (regex.whole, .initial) := by
  have unchanged : Flags.initial.apply [] = .initial := rfl
  unfold Expression.meaning? at means ⊢
  simp only [Expression.enclosed, Expression.translate?, Expression.translateAll?, unchanged,
    means, Option.map_some, Option.bind_some]
  rfl

/-- When the anchored text of a pattern is accepted, whatever the test of its size, and
what it denotes. -/
theorem compileWithin?_anchored_iff {fits : Expression → Bool} {pattern : String}
    {regex result : Regex} (compiled : compileWithin? fits pattern = some regex) :
    compileWithin? fits (anchored pattern) = some result ↔
      result = regex.whole ∧ ¬ EndsInComment pattern.toList ∧
        ∃ expression, Expression.read? pattern = some expression ∧
          expression.depth + 2 ≤ Expression.depthLimit ∧ fits expression.enclosed = true := by
  rcases compileWithin?_eq_some_iff.mp compiled with ⟨expression, flags, read, means, -⟩
  have meansWhole := meaning?_enclosed means
  rw [compileWithin?_eq_some_iff]
  constructor
  · rintro ⟨whole, after, readWhole, meansResult, fitting⟩
    rcases (Expression.read?_anchored_iff read).mp readWhole with ⟨rfl, uncommented, shallow⟩
    rw [meansWhole] at meansResult
    cases meansResult
    exact ⟨rfl, uncommented, expression, read, shallow, fitting⟩
  · rintro ⟨rfl, uncommented, other, readOther, shallow, fitting⟩
    rw [read] at readOther
    cases readOther
    exact ⟨_, _, (Expression.read?_anchored_iff read).mpr ⟨rfl, uncommented, shallow⟩,
      meansWhole, fitting⟩

theorem matches_seq_iff {text : Array Char} {first second : Regex} {start stop : Nat} :
    Matches text (.seq first second) start stop ↔
      ∃ middle, Matches text first start middle ∧ Matches text second middle stop := by
  constructor
  · intro found
    cases found with
    | seq before after => exact ⟨_, before, after⟩
  · rintro ⟨middle, before, after⟩
    exact .seq before after

theorem matches_look_iff {text : Array Char} {test : Look} {start stop : Nat} :
    Matches text (.look test) start stop ↔ start = stop ∧ test.holds text start = true := by
  constructor
  · intro found
    cases found with
    | look holds => exact ⟨rfl, holds⟩
  · rintro ⟨rfl, holds⟩
    exact .look holds

/-- Leaving out the empty expression between the tests changes nothing. -/
theorem matches_whole_iff_seq {text : Array Char} {regex : Regex} {start stop : Nat} :
    Matches text regex.whole start stop ↔
      Matches text (.seq (.look .textStart) (.seq regex (.look .textEnd))) start stop := by
  by_cases empty : regex = .empty
  · subst empty
    simp only [matches_seq_iff]
    constructor
    · intro found
      rcases matches_seq_iff.mp found with ⟨middle, before, after⟩
      exact ⟨middle, before, middle, .empty middle, after⟩
    · rintro ⟨middle, before, last, between, after⟩
      cases between
      exact .seq before after
  · simp [whole, sequence, empty]

/-- Between the tests only the stretch from the beginning to the end is left. -/
theorem matches_whole_iff {text : Array Char} {regex : Regex} {start stop : Nat} :
    Matches text regex.whole start stop ↔
      start = 0 ∧ stop = text.size ∧ Matches text regex 0 text.size := by
  simp only [matches_whole_iff_seq, matches_seq_iff, matches_look_iff, Look.holds, beq_iff_eq]
  constructor
  · rintro ⟨middle, ⟨rfl, rfl⟩, last, found, rfl, rfl⟩
    exact ⟨rfl, rfl, found⟩
  · rintro ⟨rfl, rfl, found⟩
    exact ⟨0, ⟨rfl, rfl⟩, text.size, found, rfl, rfl⟩

end Regex
end Pattern
end TaggedContent
