import TaggedContent.Pattern.Token

namespace TaggedContent
namespace Pattern

/-!
# Bracketed classes

Inside brackets, members stand side by side and form a union, two-sign operators
join everything before them to everything after them, and further brackets nest.
Open brackets are kept on a stack, so one pass over the text reads a class
however deep it nests.
-/

/-- An open bracket: whether it is negated, the operation that waits for its right
side, and the members read since, the latest first. -/
structure Bracket where
  negated : Bool
  pending : Option (SetOperation × ClassSet)
  members : List ClassSet

namespace Bracket

def push (bracket : Bracket) (member : ClassSet) : Bracket :=
  { bracket with members := member :: bracket.members }

def contents (bracket : Bracket) : ClassSet :=
  let right := ClassSet.ofMembers bracket.members.reverse
  match bracket.pending with
  | some (operation, left) => .operation operation left right
  | none => right

def operate (bracket : Bracket) (operation : SetOperation) : Bracket :=
  ⟨bracket.negated, some (operation, bracket.contents), []⟩

/-- What follows an opening bracket: perhaps a caret, then hyphens that stand for
themselves.  A closing bracket in the first place stands for itself as well. -/
def begin (verbose : Bool) (letters : List Char) : Bracket × List Char :=
  let opened := skip verbose letters
  let (negated, opened) :=
    match opened with
    | '^' :: rest => (true, skip verbose rest)
    | _ => (false, opened)
  match takeRun verbose (· == '-') opened with
  | ([], ']' :: rest) => (⟨negated, none, [.literal ']']⟩, skip verbose rest)
  | (hyphens, rest) => (⟨negated, none, hyphens.map .literal⟩, rest)

end Bracket

def posixNamed? (name : String) : Option PosixClass :=
  match name with
  | "alnum" => some .alnum
  | "alpha" => some .alpha
  | "ascii" => some .ascii
  | "blank" => some .blank
  | "cntrl" => some .cntrl
  | "digit" => some .digit
  | "graph" => some .graph
  | "lower" => some .lower
  | "print" => some .print
  | "punct" => some .punct
  | "space" => some .space
  | "upper" => some .upper
  | "word" => some .word
  | "xdigit" => some .xdigit
  | _ => none

/-- A named class such as `[:alpha:]`, after its opening bracket.  A text that is
none is read as a nested bracket instead. -/
def posix? (letters : List Char) : Option (ClassSet × List Char) :=
  let named := fun negated rest =>
    match rest.dropWhile (· ≠ ':') with
    | ':' :: ']' :: after =>
        (posixNamed? (.ofList (rest.takeWhile (· ≠ ':')))).map fun kind =>
          (ClassSet.posix kind negated, after)
    | _ => none
  match letters with
  | ':' :: '^' :: rest => named true rest
  | ':' :: rest => named false rest
  | _ => none

/-- A character of a class, or an escape. -/
def classAtom? (verbose : Bool) : List Char → Option (Token × List Char)
  | [] => none
  | letter :: rest =>
      if letter = '\\' then escape? verbose rest else some (.literal letter false, rest)

def memberOfToken? : Token → Option ClassSet
  | .literal letter _ => some (.literal letter)
  | .shorthand kind negated => some (.shorthand kind negated)
  | .property query negated => some (.property query negated)
  | _ => none

/-- The first letter after white space, where one number sign is passed over too. -/
def peekVerbose : Bool → List Char → Option Char
  | _, [] => none
  | inComment, letter :: rest =>
      if isBlank letter then peekVerbose inComment rest
      else if letter = '#' ∧ !inComment then peekVerbose true rest
      else some letter

def peek (verbose : Bool) (letters : List Char) : Option Char :=
  if verbose then peekVerbose false letters <|> letters.head? else letters.head?

/-- A member of a class: an atom, or a range between two characters.  A hyphen
before a closing bracket or another hyphen makes no range. -/
def member? (verbose : Bool) (letters : List Char) : Option (ClassSet × List Char) :=
  (classAtom? verbose letters).bind fun (first, rest) =>
    match skip verbose rest with
    | [] => none
    | '-' :: rest =>
        if peek verbose rest = some ']' ∨ peek verbose rest = some '-' then
          (memberOfToken? first).map fun member => (member, '-' :: rest)
        else
          (classAtom? verbose (skip verbose rest)).bind fun (last, rest) =>
            match first, last with
            | .literal first _, .literal last _ =>
                if first ≤ last then some (.range first last, rest) else none
            | _, _ => none
    | rest => (memberOfToken? first).map fun member => (member, rest)

/-- Read on in the innermost open bracket until the outermost one is closed. -/
def bracketWithin (verbose : Bool) :
    Nat → Bracket → List Bracket → List Char → Option (Token × List Char)
  | 0, _, _, _ => none
  | steps + 1, bracket, outer, letters =>
      match skip verbose letters with
      | [] => none
      | '[' :: rest =>
          match posix? rest with
          | some (member, rest) => bracketWithin verbose steps (bracket.push member) outer rest
          | none =>
              let (opened, rest) := Bracket.begin verbose rest
              bracketWithin verbose steps opened (bracket :: outer) rest
      | ']' :: rest =>
          match outer with
          | [] => some (.bracketed bracket.negated bracket.contents, rest)
          | parent :: outer =>
              let member := ClassSet.bracketed bracket.negated bracket.contents
              bracketWithin verbose steps (parent.push member) outer rest
      | '&' :: '&' :: rest =>
          bracketWithin verbose steps (bracket.operate .intersection) outer rest
      | '-' :: '-' :: rest =>
          bracketWithin verbose steps (bracket.operate .difference) outer rest
      | '~' :: '~' :: rest =>
          bracketWithin verbose steps (bracket.operate .symmetricDifference) outer rest
      | letters =>
          match member? verbose letters with
          | some (member, rest) => bracketWithin verbose steps (bracket.push member) outer rest
          | none => none

/-- The class that an opening bracket begins.  Every step reads at least one letter. -/
def bracket? (verbose : Bool) (letters : List Char) : Option (Token × List Char) :=
  let (opened, rest) := Bracket.begin verbose letters
  bracketWithin verbose (letters.length + 1) opened [] rest

end Pattern
end TaggedContent
