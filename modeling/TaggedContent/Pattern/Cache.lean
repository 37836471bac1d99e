import TaggedContent.Entries
import TaggedContent.Pattern.Matching

namespace TaggedContent
namespace Pattern

/-!
# Whole-text matching

A tag pattern has to match the whole of its candidate.  It is first compiled on
its own and then between anchors, so that a pattern with unbalanced parentheses
cannot escape them.  Compiled patterns are kept under their texts.
-/

/-- The pattern cannot be compiled. -/
structure PatternError where
  pattern : String
  deriving DecidableEq

def PatternError.message (error : PatternError) : String :=
  "cannot compile pattern '" ++ error.pattern ++ "'"

def anchored (pattern : String) : String :=
  "^(?:" ++ pattern ++ ")$"

/-- The anchored form of a pattern that is valid on its own as well, where both have to
pass a test of their size. -/
def compileAnchoredWithin (fits : Expression → Bool) (pattern : String) :
    Except PatternError Regex :=
  match Regex.compileWithin? fits pattern, Regex.compileWithin? fits (anchored pattern) with
  | some _, some regex => .ok regex
  | _, _ => .error ⟨pattern⟩

def compileAnchored : String → Except PatternError Regex :=
  compileAnchoredWithin Expression.fits

structure Cache where
  compiled : Entries String Regex
  deriving Inhabited

namespace Cache

def empty : Cache :=
  ⟨[]⟩

/-- Whether the pattern matches all of the candidate, with the cache afterwards. -/
def fullMatch (cache : Cache) (pattern candidate : String) :
    Except PatternError Bool × Cache :=
  match Entries.get? cache.compiled pattern with
  | some regex => (.ok (regex.isMatch candidate), cache)
  | none =>
      match compileAnchored pattern with
      | .ok regex =>
          (.ok (regex.isMatch candidate), ⟨Entries.insert pattern regex cache.compiled⟩)
      | .error error => (.error error, cache)

end Cache
end Pattern
end TaggedContent
