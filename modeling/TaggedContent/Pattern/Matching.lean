import TaggedContent.Pattern.Automaton
import TaggedContent.Pattern.Reading

namespace TaggedContent
namespace Pattern

/-!
# Deciding whether a pattern matches

The matcher carries sets of positions: from the positions where an expression may
start it computes all positions where it may stop.  Every way to match is followed
at once, so preferences among matches never matter.  Sets of positions are
ascending lists.
-/

namespace Positions

/-- Put `left` into its place, where `others` merges what follows it. -/
def mergeFrom (left : Nat) (others : List Nat → List Nat) : List Nat → List Nat
  | [] => left :: others []
  | right :: rights =>
      if left < right then left :: others (right :: rights)
      else if left = right then left :: others rights
      else right :: mergeFrom left others rights

/-- The union of two sets of positions. -/
def union : List Nat → List Nat → List Nat
  | [] => fun rights => rights
  | left :: lefts => mergeFrom left (union lefts)

/-- The positions after exactly so many rounds.  Once a round changes nothing, no
further one does. -/
def afterRounds (round : List Nat → List Nat) : Nat → List Nat → List Nat
  | 0, starts => starts
  | rounds + 1, starts =>
      let next := round starts
      if next = starts then starts else afterRounds round rounds next

/-- The positions after at most so many rounds. -/
def withinRounds (round : List Nat → List Nat) : Nat → List Nat → List Nat
  | 0, starts => starts
  | rounds + 1, starts =>
      let next := union starts (round starts)
      if next = starts then starts else withinRounds round rounds next

end Positions

namespace Regex

/-- The positions where the expression may stop when it starts at one of `starts`.
There are only finitely many positions, so rounds without a bound are exhausted
after as many rounds as there are positions. -/
def stops (text : Array Char) : Regex → List Nat → List Nat
  | .empty, starts => starts
  | .chars set, starts =>
      starts.filterMap fun position =>
        match text[position]? with
        | some letter => if set.contains letter then some (position + 1) else none
        | none => none
  | .look test, starts => starts.filter fun position => test.holds text position
  | .capture body, starts => stops text body starts
  | .seq first second, starts => stops text second (stops text first starts)
  | .alt left right, starts => Positions.union (stops text left starts) (stops text right starts)
  | .rep least most body, starts =>
      let required := Positions.afterRounds (stops text body) least starts
      let further :=
        match most with
        | some most => most - least
        | none => text.size + 1
      Positions.withinRounds (stops text body) further required

/-- Whether the expression describes some stretch of the text. -/
def isMatch (regex : Regex) (text : String) : Bool :=
  let letters := text.toList.toArray
  !(stops letters regex (List.range (letters.size + 1))).isEmpty

/-- The expression that a pattern text denotes, when the text is well formed, means
something and passes a test of its size. -/
def compileWithin? (fits : Expression → Bool) (pattern : String) : Option Regex :=
  match Expression.read? pattern with
  | none => none
  | some expression =>
      match expression.meaning? .initial with
      | none => none
      | some (regex, _) => if fits expression then some regex else none

/-- The automaton of an accepted pattern is not too large. -/
def compile? : String → Option Regex :=
  compileWithin? Expression.fits

end Regex
end Pattern
end TaggedContent
