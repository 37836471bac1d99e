import TaggedContent.Pattern.Expression

namespace TaggedContent
namespace Pattern

/-!
# Regular expressions

A regular expression here has no flags left: every letter stands for the set of
code points it accepts, and every anchor says what it asks of the text around a
position.  `Matches` says which stretches of a text an expression describes.
-/

inductive Look where
  | textStart
  | textEnd
  | lineStart (crlf : Bool)
  | lineEnd (crlf : Bool)
  | word (test : WordTest) (unicode : Bool)
  deriving DecidableEq

inductive Regex where
  | empty
  | chars (set : CodePoints)
  | look (look : Look)
  | capture (body : Regex)
  | seq (first second : Regex)
  | alt (left right : Regex)
  | rep (least : Nat) (most : Option Nat) (body : Regex)
  deriving DecidableEq, Inhabited

def asciiWord : CodePoints :=
  ⟨[0x30, 0x3A, 0x41, 0x5B, 0x5F, 0x60, 0x61, 0x7B]⟩

def isWord (unicode : Bool) (letter : Char) : Bool :=
  if unicode then Unicode.wordCharacters.contains letter else asciiWord.contains letter

namespace Look

def charBefore (text : Array Char) (position : Nat) : Option Char :=
  if position = 0 then none else text[position - 1]?

def wordTest (test : WordTest) (before after : Bool) : Bool :=
  match test with
  | .boundary => before != after
  | .notBoundary => before == after
  | .start => !before && after
  | .stop => before && !after
  | .startHalf => !before
  | .stopHalf => !after

/-- Whether the text around a position is as asked.  Between a carriage return and
a line feed no line starts or ends, where the two together end lines. -/
def holds (text : Array Char) (position : Nat) : Look → Bool
  | textStart => position == 0
  | textEnd => position == text.size
  | lineStart crlf =>
      match charBefore text position with
      | none => position == 0
      | some before =>
          before == '\n' || (crlf && before == '\r' && text[position]? != some '\n')
  | lineEnd crlf =>
      match text[position]? with
      | none => position == text.size
      | some after =>
          if crlf then
            after == '\r' || (after == '\n' && charBefore text position != some '\r')
          else after == '\n'
  | word test unicode =>
      wordTest test ((charBefore text position).any (isWord unicode))
        ((text[position]?).any (isWord unicode))

end Look

/-- The expression describes the stretch of the text between two positions. -/
inductive Matches (text : Array Char) : Regex → Nat → Nat → Prop where
  | empty (position : Nat) : Matches text .empty position position
  | chars {set : CodePoints} {position : Nat} {letter : Char} :
      text[position]? = some letter → set.contains letter = true →
      Matches text (.chars set) position (position + 1)
  | look {look : Look} {position : Nat} :
      look.holds text position = true → Matches text (.look look) position position
  | capture {body : Regex} {start stop : Nat} :
      Matches text body start stop → Matches text (.capture body) start stop
  | seq {first second : Regex} {start middle stop : Nat} :
      Matches text first start middle → Matches text second middle stop →
      Matches text (.seq first second) start stop
  | altLeft {left right : Regex} {start stop : Nat} :
      Matches text left start stop → Matches text (.alt left right) start stop
  | altRight {left right : Regex} {start stop : Nat} :
      Matches text right start stop → Matches text (.alt left right) start stop
  | repDone {most : Option Nat} {body : Regex} (position : Nat) :
      Matches text (.rep 0 most body) position position
  | repRound {least : Nat} {most : Option Nat} {body : Regex} {start middle stop : Nat} :
      most ≠ some 0 → Matches text body start middle →
      Matches text (.rep (least - 1) (most.map (· - 1)) body) middle stop →
      Matches text (.rep least most body) start stop

end Pattern
end TaggedContent
