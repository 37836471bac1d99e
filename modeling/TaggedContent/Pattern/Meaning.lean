import TaggedContent.Pattern.Regex

namespace TaggedContent
namespace Pattern

/-!
# The meaning of an expression

Flags decide what letters, classes and anchors mean.  A change of flags holds from
where it stands to the end of the group around it, across bars as well.  With the
Unicode flag off, classes are about ASCII only: a class that would accept
anything beyond it has no meaning.
-/

structure Flags where
  caseInsensitive : Bool
  multiLine : Bool
  dotMatchesNewline : Bool
  unicode : Bool
  crlf : Bool
  swapGreed : Bool
  deriving DecidableEq

namespace Flags

/-- What a pattern begins with. -/
def initial : Flags :=
  ⟨false, false, false, true, false, false⟩

def change (flags : Flags) (change : FlagChange) : Flags :=
  match change.flag with
  | .caseInsensitive => { flags with caseInsensitive := change.on }
  | .multiLine => { flags with multiLine := change.on }
  | .dotMatchesNewline => { flags with dotMatchesNewline := change.on }
  | .unicode => { flags with unicode := change.on }
  | .crlf => { flags with crlf := change.on }
  | .swapGreed => { flags with swapGreed := change.on }
  | .verbose => flags

def apply (flags : Flags) (changes : List FlagChange) : Flags :=
  changes.foldl change flags

end Flags

/-! ## Classes -/

def PosixClass.codePoints : PosixClass → CodePoints
  | alnum => ⟨[0x30, 0x3A, 0x41, 0x5B, 0x61, 0x7B]⟩
  | alpha => ⟨[0x41, 0x5B, 0x61, 0x7B]⟩
  | ascii => .ascii
  | blank => ⟨[0x9, 0xA, 0x20, 0x21]⟩
  | cntrl => ⟨[0x0, 0x20, 0x7F, 0x80]⟩
  | digit => ⟨[0x30, 0x3A]⟩
  | graph => ⟨[0x21, 0x7F]⟩
  | lower => ⟨[0x61, 0x7B]⟩
  | print => ⟨[0x20, 0x7F]⟩
  | punct => ⟨[0x21, 0x30, 0x3A, 0x41, 0x5B, 0x61, 0x7B, 0x7F]⟩
  | space => ⟨[0x9, 0xE, 0x20, 0x21]⟩
  | upper => ⟨[0x41, 0x5B]⟩
  | word => asciiWord
  | xdigit => ⟨[0x30, 0x3A, 0x41, 0x47, 0x61, 0x67]⟩

def Shorthand.codePoints (unicode : Bool) : Shorthand → CodePoints
  | digit => if unicode then Unicode.decimalDigits else PosixClass.codePoints .digit
  | space => if unicode then Unicode.whiteSpace else PosixClass.codePoints .space
  | word => if unicode then Unicode.wordCharacters else PosixClass.codePoints .word

/-- The set with both cases of every ASCII letter in it. -/
def asciiFoldClosure (set : CodePoints) : CodePoints :=
  let letters := (List.range 26).flatMap fun place =>
    let upper := 0x41 + place
    let lower := 0x61 + place
    if CodePoints.parity upper false set.bounds || CodePoints.parity lower false set.bounds then
      [CodePoints.ofPoint upper, CodePoints.ofPoint lower]
    else []
  set.union (CodePoints.unionAll 6 letters)

namespace Flags

/-- Both cases when case is ignored. -/
def fold (flags : Flags) (set : CodePoints) : CodePoints :=
  if !flags.caseInsensitive then set
  else if flags.unicode then Unicode.foldClosure set
  else asciiFoldClosure set

/-- Sets beyond ASCII are allowed only with the Unicode flag. -/
def accept? (flags : Flags) (set : CodePoints) : Option CodePoints :=
  if flags.unicode || set.isAscii then some set else none

def negate (negated : Bool) (set : CodePoints) : CodePoints :=
  if negated then set.complement else set

def shorthand? (flags : Flags) (kind : Shorthand) (negated : Bool) : Option CodePoints :=
  flags.accept? (negate negated (kind.codePoints flags.unicode))

def property? (flags : Flags) (query : Unicode.Query) (negated : Bool) : Option CodePoints :=
  if flags.unicode then query.codePoints?.map fun set => negate negated (flags.fold set)
  else none

end Flags

def SetOperation.apply : SetOperation → CodePoints → CodePoints → CodePoints
  | intersection => .intersection
  | difference => .difference
  | symmetricDifference => .symmetricDifference

namespace ClassSet

mutual

/-- The code points of the contents of a bracket.  Case is folded at every bracket
and on both sides of an operation, before a negation. -/
def codePoints? (flags : Flags) : ClassSet → Option CodePoints
  | empty => some .empty
  | literal letter => flags.accept? (.singleton letter)
  | range first last => flags.accept? (.range first last)
  | posix kind negated => flags.accept? (Flags.negate negated (flags.fold kind.codePoints))
  | shorthand kind negated => flags.shorthand? kind negated
  | property query negated => flags.property? query negated
  | bracketed negated contents =>
      (codePoints? flags contents).bind fun set =>
        flags.accept? (Flags.negate negated (flags.fold set))
  | union members =>
      (codePointsOfMembers? flags members).map (CodePoints.unionAll 32)
  | operation joined left right =>
      (codePoints? flags left).bind fun left =>
        (codePoints? flags right).map fun right =>
          joined.apply (flags.fold left) (flags.fold right)

def codePointsOfMembers? (flags : Flags) : List ClassSet → Option (List CodePoints)
  | [] => some []
  | member :: members =>
      (codePoints? flags member).bind fun set =>
        (codePointsOfMembers? flags members).map (set :: ·)

end

end ClassSet

/-! ## Letters and anchors -/

namespace Flags

/-- A letter written as one byte has to be ASCII when the Unicode flag is off. -/
def literal? (flags : Flags) (letter : Char) (asByte : Bool) : Option CodePoints :=
  if !flags.unicode && asByte && 0x80 ≤ letter.toNat then none
  else if flags.unicode || letter.toNat < 0x80 then some (flags.fold (.singleton letter))
  else some (.singleton letter)

def dot? (flags : Flags) : Option CodePoints :=
  if !flags.unicode then none
  else if flags.dotMatchesNewline then some .all
  else if flags.crlf then some (CodePoints.all.difference ⟨[0xA, 0xB, 0xD, 0xE]⟩)
  else some (CodePoints.all.difference ⟨[0xA, 0xB]⟩)

def look (flags : Flags) : Anchor → Look
  | .lineStart => if flags.multiLine then .lineStart flags.crlf else .textStart
  | .lineEnd => if flags.multiLine then .lineEnd flags.crlf else .textEnd
  | .textStart => .textStart
  | .textEnd => .textEnd
  | .word test => .word test flags.unicode

end Flags

/-! ## Expressions -/

/-- What the parts of an expression are put together to, once the flags are applied. -/
structure Target (α : Type) where
  empty : α
  chars (unicode : Bool) (set : CodePoints) : α
  look (look : Look) : α
  repetition (least : Nat) (most : Option Nat) (greedy : Bool) (body : α) : α
  capture (body : α) : α
  sequence (items : List α) : α
  alternation (branches : List α) : α

namespace Expression

variable {α : Type}

mutual

/-- The translation under the given flags, with the flags that hold afterwards. -/
def translate? (target : Target α) (flags : Flags) : Expression → Option (α × Flags)
  | empty => some (target.empty, flags)
  | .flags changes => some (target.empty, flags.apply changes)
  | literal letter asByte =>
      (flags.literal? letter asByte).map fun set => (target.chars flags.unicode set, flags)
  | dot => flags.dot?.map fun set => (target.chars flags.unicode set, flags)
  | anchor place => some (target.look (flags.look place), flags)
  | shorthand kind negated =>
      (flags.shorthand? kind negated).map fun set => (target.chars flags.unicode set, flags)
  | property query negated =>
      (flags.property? query negated).map fun set => (target.chars flags.unicode set, flags)
  | bracketed negated contents =>
      ((ClassSet.bracketed negated contents).codePoints? flags).map fun set =>
        (target.chars flags.unicode set, flags)
  | repetition least most greedy body =>
      (translate? target flags body).map fun (inner, after) =>
        (target.repetition least most (greedy != after.swapGreed) inner, after)
  | group (.capture _) body =>
      (translate? target flags body).map fun (inner, _) => (target.capture inner, flags)
  | group (.scoped changes) body =>
      (translate? target (flags.apply changes) body).map fun (inner, _) => (inner, flags)
  | alternation parts =>
      (translateAll? target flags parts).map fun (inner, after) =>
        (target.alternation inner, after)
  | sequence parts =>
      (translateAll? target flags parts).map fun (inner, after) => (target.sequence inner, after)

/-- The translations from left to right, each under the flags that hold after the one
before. -/
def translateAll? (target : Target α) (flags : Flags) :
    List Expression → Option (List α × Flags)
  | [] => some ([], flags)
  | part :: parts =>
      (translate? target flags part).bind fun (inner, after) =>
        (translateAll? target after parts).map fun (others, last) => (inner :: others, last)

end

end Expression

/-! ## Regular expressions -/

namespace Regex

def sequence : List Regex → Regex
  | [] => .empty
  | [item] => item
  | item :: items => .seq item (sequence items)

def branches : List Regex → Regex
  | [] => .chars .empty
  | [branch] => branch
  | branch :: rest => .alt branch (branches rest)

def chars? : Regex → Option CodePoints
  | .chars set => some set
  | _ => none

/-- Branches of one letter each are a single class. -/
def alternation (parts : List Regex) : Regex :=
  match parts.mapM chars? with
  | some sets => .chars (CodePoints.unionAll 32 sets)
  | none => branches parts

/-- Describes the empty stretch and no other. -/
def isZeroWidth : Regex → Bool
  | .empty => true
  | .chars _ => false
  | .look _ => true
  | .capture body => isZeroWidth body
  | .seq first second => isZeroWidth first && isZeroWidth second
  | .alt left right => isZeroWidth left && isZeroWidth right
  | .rep _ most body => most == some 0 || isZeroWidth body

/-- Repetition, where more than one round of a zero-width body adds nothing, no
round at all is empty and exactly one round is the body. -/
def repetition (least : Nat) (most : Option Nat) (body : Regex) : Regex :=
  let least := if isZeroWidth body then min least 1 else least
  let most := if isZeroWidth body then some ((most.map (min · 1)).getD 1) else most
  if least = 0 ∧ most = some 0 then .empty
  else if least = 1 ∧ most = some 1 then body
  else .rep least most body

/-- Whether more or fewer rounds are preferred does not matter for what is described. -/
def target : Target Regex where
  empty := .empty
  chars _ set := .chars set
  look := .look
  repetition least most _ body := repetition least most body
  capture := .capture
  sequence items := sequence (items.filter (· ≠ .empty))
  alternation := alternation

end Regex

/-- The regular expression that is meant under the given flags, with the flags that hold
afterwards. -/
def Expression.meaning? (flags : Flags) (expression : Expression) : Option (Regex × Flags) :=
  expression.translate? Regex.target flags

end Pattern
end TaggedContent
