import TaggedContent.Pattern.Unicode.Query

namespace TaggedContent
namespace Pattern

/-!
# Pattern expressions

What a pattern says, before its flags are applied.
-/

inductive Flag where
  | caseInsensitive
  | multiLine
  | dotMatchesNewline
  | swapGreed
  | unicode
  | crlf
  | verbose
  deriving DecidableEq

structure FlagChange where
  flag : Flag
  on : Bool
  deriving DecidableEq

inductive Shorthand where
  | digit
  | space
  | word
  deriving DecidableEq

inductive PosixClass where
  | alnum
  | alpha
  | ascii
  | blank
  | cntrl
  | digit
  | graph
  | lower
  | print
  | punct
  | space
  | upper
  | word
  | xdigit
  deriving DecidableEq

inductive SetOperation where
  | intersection
  | difference
  | symmetricDifference
  deriving DecidableEq

/-- The contents of a bracketed class. -/
inductive ClassSet where
  | empty
  | literal (letter : Char)
  | range (first last : Char)
  | posix (kind : PosixClass) (negated : Bool)
  | shorthand (kind : Shorthand) (negated : Bool)
  | property (query : Unicode.Query) (negated : Bool)
  | bracketed (negated : Bool) (contents : ClassSet)
  | union (members : List ClassSet)
  | operation (operation : SetOperation) (left right : ClassSet)
  deriving Inhabited

inductive WordTest where
  | boundary
  | notBoundary
  | start
  | stop
  | startHalf
  | stopHalf
  deriving DecidableEq

inductive Anchor where
  | lineStart
  | lineEnd
  | textStart
  | textEnd
  | word (test : WordTest)
  deriving DecidableEq

inductive Group where
  | capture (name : Option String)
  | scoped (changes : List FlagChange)
  deriving DecidableEq

inductive Expression where
  | empty
  | flags (changes : List FlagChange)
  /-- `asByte` when written with exactly two hexadecimal digits. -/
  | literal (letter : Char) (asByte : Bool)
  | dot
  | anchor (anchor : Anchor)
  | shorthand (kind : Shorthand) (negated : Bool)
  | property (query : Unicode.Query) (negated : Bool)
  | bracketed (negated : Bool) (contents : ClassSet)
  | repetition (least : Nat) (most : Option Nat) (greedy : Bool) (body : Expression)
  | group (group : Group) (body : Expression)
  | alternation (branches : List Expression)
  | sequence (items : List Expression)
  deriving Inhabited

namespace ClassSet

/-- Several members form a union; a single one stands for itself. -/
def ofMembers : List ClassSet → ClassSet
  | [] => empty
  | [member] => member
  | members => union members

mutual

/-- How deep unions, operations and brackets nest. -/
def depth : ClassSet → Nat
  | bracketed _ contents => depth contents + 1
  | union members => depthOfMembers members + 1
  | operation _ left right => max (depth left) (depth right) + 1
  | _ => 0

def depthOfMembers : List ClassSet → Nat
  | [] => 0
  | member :: members => max (depth member) (depthOfMembers members)

end

end ClassSet

namespace Expression

def ofItems : List Expression → Expression
  | [] => empty
  | [item] => item
  | items => sequence items

def ofBranches : List Expression → Expression
  | [branch] => branch
  | branches => alternation branches

mutual

/-- How deep repetitions, groups, alternations, sequences and brackets nest. -/
def depth : Expression → Nat
  | bracketed _ contents => contents.depth + 1
  | repetition _ _ _ body => depth body + 1
  | group _ body => depth body + 1
  | alternation branches => depthOfList branches + 1
  | sequence items => depthOfList items + 1
  | _ => 0

def depthOfList : List Expression → Nat
  | [] => 0
  | expression :: expressions => max (depth expression) (depthOfList expressions)

end

end Expression
end Pattern
end TaggedContent
