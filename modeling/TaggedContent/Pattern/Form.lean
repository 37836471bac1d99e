import TaggedContent.Pattern.Meaning

namespace TaggedContent
namespace Pattern

/-!
# Simplified forms

The automaton of a pattern is built from a simplified form of it.  Letters that
stand side by side are one text, a class of one letter is a text as well, and groups
that capture nothing are gone.  Alternatives of one letter each are a class, and so
are alternatives that are all classes.  What all alternatives begin with is written
once, before them.
-/

inductive Form where
  | empty
  /-- Code points side by side. -/
  | text (points : List Nat)
  /-- A class with any number of members but one.  A class of bytes is never the same
  as one of characters. -/
  | chars (unicode : Bool) (set : CodePoints)
  | look (look : Look)
  | repetition (least : Nat) (most : Option Nat) (greedy : Bool) (body : Form)
  | capture (body : Form)
  | sequence (parts : List Form)
  | alternation (branches : List Form)
  deriving Inhabited

namespace Form

/-- The class without members. -/
def fail : Form :=
  .chars false .empty

def ofSet (unicode : Bool) (set : CodePoints) : Form :=
  if set.bounds.isEmpty then fail
  else
    match set.single? with
    | some point => .text [point]
    | none => .chars unicode set

mutual

/-- Whether two parts of one pattern say the same.  No two captures do, for each has
a number of its own. -/
def same : Form → Form → Bool
  | empty, empty => true
  | text left, text right => left == right
  | chars unicode left, chars unicodeToo right => unicode == unicodeToo && left.bounds == right.bounds
  | look left, look right => left == right
  | repetition least most greedy body, repetition leastToo mostToo greedyToo bodyToo =>
      least == leastToo && most == mostToo && greedy == greedyToo && same body bodyToo
  | sequence left, sequence right => sameAll left right
  | alternation left, alternation right => sameAll left right
  | _, _ => false

def sameAll : List Form → List Form → Bool
  | [], [] => true
  | left :: lefts, right :: rights => same left right && sameAll lefts rights
  | _, _ => false

end

/-! ## Lengths -/

def encodedLength (points : List Nat) : Nat :=
  (points.flatMap utf8Bytes).length

mutual

/-- The least number of bytes that a match has, when there is any match. -/
def leastLength : Form → Option Nat
  | empty => some 0
  | text points => some (encodedLength points)
  | chars _ set => set.bounds.head?.map fun point => (utf8Bytes point).length
  | look _ => some 0
  | repetition least _ _ body => (leastLength body).map (least * ·)
  | capture body => leastLength body
  | sequence parts => (leastLengths parts).map List.sum
  | alternation branches => (leastLengths branches).bind List.min?

def leastLengths : List Form → Option (List Nat)
  | [] => some []
  | form :: forms =>
      (leastLength form).bind fun length => (leastLengths forms).map (length :: ·)

end

mutual

/-- The greatest number of bytes that a match has, when there is a match and a bound. -/
def mostLength : Form → Option Nat
  | empty => some 0
  | text points => some (encodedLength points)
  | chars _ set => set.bounds.getLast?.map fun point => (utf8Bytes (point - 1)).length
  | look _ => some 0
  | repetition _ most _ body =>
      most.bind fun most => (mostLength body).map (most * ·)
  | capture body => mostLength body
  | sequence parts => (mostLengths parts).map List.sum
  | alternation branches => (mostLengths branches).bind List.max?

def mostLengths : List Form → Option (List Nat)
  | [] => some []
  | form :: forms =>
      (mostLength form).bind fun length => (mostLengths forms).map (length :: ·)

end

/-- Matches nowhere but between two letters, and wherever it matches at all. -/
def isZeroWidth (form : Form) : Bool :=
  form.mostLength == some 0

/-- Every match has a letter in it, and there may be one. -/
def isConsuming (form : Form) : Bool :=
  form.leastLength.any (0 < ·)

/-! ## Sequences -/

/-- Take the parts out of sequences within a sequence. -/
def opened : Form → List Form
  | empty => []
  | sequence parts => parts
  | form => [form]

def joinTexts : List Form → List Form
  | [] => []
  | form :: forms =>
      match form, joinTexts forms with
      | text points, text more :: rest => text (points ++ more) :: rest
      | form, rest => form :: rest

def ofSequence (parts : List Form) : Form :=
  match joinTexts (parts.flatMap opened) with
  | [] => empty
  | [part] => part
  | parts => sequence parts

/-! ## Repetitions -/

/-- More than one round of a zero-width body adds nothing, no round at all is empty and
exactly one round is the body. -/
def ofRounds (least : Nat) (most : Option Nat) (greedy : Bool) (body : Form) : Form :=
  let least := if body.isZeroWidth then min least 1 else least
  let most := if body.isZeroWidth then some ((most.map (min · 1)).getD 1) else most
  if least = 0 ∧ most = some 0 then empty
  else if least = 1 ∧ most = some 1 then body
  else repetition least most greedy body

/-! ## Alternatives -/

/-- Take the branches out of alternatives within alternatives. -/
def branches : Form → List Form
  | alternation branches => branches
  | form => [form]

def point? : Form → Option Nat
  | text [point] => some point
  | _ => none

def set? : Form → Option CodePoints
  | chars _ set => some set
  | _ => none

def parts? : Form → Option (List Form)
  | sequence parts => some parts
  | _ => none

/-- Alternatives that do not all begin with the same part. -/
def ofDiverging (branches : List Form) : Form :=
  match branches with
  | [] => fail
  | [branch] => branch
  | branches =>
      match branches.mapM point? with
      | some points => ofSet true (.unionAll 32 (points.map .ofPoint))
      | none =>
          match branches.mapM set? with
          | some sets => ofSet true (.unionAll 32 sets)
          | none => alternation branches

/-- The parts that two sequences both begin with. -/
def shared : List Form → List Form → List Form
  | left :: lefts, right :: rights =>
      if same left right then left :: shared lefts rights else []
  | _, _ => []

/-- The parts with which all of several sequences begin. -/
def sharedByAll : List (List Form) → List Form
  | first :: second :: others => (second :: others).foldl shared first
  | _ => []

/-- What alternatives begin with in common stands before them.  Nothing is in common
unless every branch is a sequence. -/
def ofBranches (choices : List Form) : Form :=
  let choices := choices.flatMap branches
  match choices.mapM parts? with
  | none => ofDiverging choices
  | some sequences =>
      match sharedByAll sequences with
      | [] => ofDiverging choices
      | start =>
          let rests := sequences.map fun parts => ofSequence (parts.drop start.length)
          ofSequence (start ++ [ofDiverging (rests.flatMap branches)])

def target : Target Form where
  empty := empty
  chars := ofSet
  look := look
  repetition := ofRounds
  capture := capture
  sequence := ofSequence
  alternation := ofBranches

end Form
end Pattern
end TaggedContent
