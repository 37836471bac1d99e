import TaggedContent.Text
import TaggedContent.Pattern.Expression

namespace TaggedContent
namespace Pattern

/-!
# Tokens of a pattern

The pattern text is cut into tokens from left to right.  The only context is
whether white space and comments are ignored: an inline flag switches this until
the group around it closes.  So the context is a stack with one entry for every
open group, and a text whose groups do not balance has no tokens.
-/

inductive Token where
  | literal (letter : Char) (asByte : Bool)
  | dot
  | anchor (anchor : Anchor)
  | shorthand (kind : Shorthand) (negated : Bool)
  | property (query : Unicode.Query) (negated : Bool)
  | bracketed (negated : Bool) (contents : ClassSet)
  | opening (group : Group)
  | closing
  | bar
  | flags (changes : List FlagChange)
  | repetition (least : Nat) (most : Option Nat) (greedy : Bool)

/-! ## Ignored text -/

def isBlank (letter : Char) : Bool :=
  Unicode.whiteSpace.contains letter

/-- What follows white space and comments, where a comment runs from a number sign
to the end of its line. -/
def skipIgnored : Bool → List Char → List Char
  | _, [] => []
  | true, letter :: rest => skipIgnored (letter ≠ '\n') rest
  | false, letter :: rest =>
      if isBlank letter then skipIgnored false rest
      else if letter = '#' then skipIgnored true rest
      else letter :: rest

def skip (verbose : Bool) (letters : List Char) : List Char :=
  if verbose then skipIgnored false letters else letters

/-- The longest run of accepted letters, with ignored text allowed after each. -/
def takeRunWithin (verbose : Bool) (accept : Char → Bool) :
    Nat → List Char → List Char × List Char
  | steps + 1, letter :: rest =>
      if accept letter then
        let run := takeRunWithin verbose accept steps (skip verbose rest)
        (letter :: run.1, run.2)
      else ([], letter :: rest)
  | _, letters => ([], letters)

def takeRun (verbose : Bool) (accept : Char → Bool) (letters : List Char) :
    List Char × List Char :=
  takeRunWithin verbose accept letters.length letters

/-! ## Escapes -/

/-- The character whose code point the digits write in base sixteen. -/
def scalarOfHex? (digits : List Char) : Option Char :=
  let point := Hex.value digits
  if point.isValidChar then some (Char.ofNat point) else none

/-- Exactly `count` hexadecimal digits. -/
def fixedHex? (verbose : Bool) : Nat → List Char → Option (List Char × List Char)
  | 0, rest => some ([], rest)
  | count + 1, letter :: rest =>
      if Hex.isDigit letter then
        (fixedHex? verbose count (skip verbose rest)).map fun (digits, rest) =>
          (letter :: digits, rest)
      else none
  | _ + 1, [] => none

/-- A code point after `\x`, `\u` or `\U`, in braces or with as many digits as the
letter asks for. -/
def hexEscape? (verbose : Bool) (count : Nat) (letters : List Char) :
    Option (Token × List Char) :=
  match skip verbose letters with
  | '{' :: rest =>
      match takeRun verbose (· ≠ '}') (skip verbose rest) with
      | (digits, '}' :: rest) =>
          if digits.isEmpty || !digits.all Hex.isDigit then none
          else (scalarOfHex? digits).map fun letter => (.literal letter false, rest)
      | _ => none
  | letters =>
      (fixedHex? verbose count letters).bind fun (digits, rest) =>
        (scalarOfHex? digits).map fun letter => (.literal letter (count == 2), rest)

/-- The text before and after the first occurrence of the separator. -/
def cutAt (separator : List Char) : List Char → Option (List Char × List Char)
  | [] => none
  | letter :: rest =>
      if separator.isPrefixOf (letter :: rest) then
        some ([], (letter :: rest).drop separator.length)
      else (cutAt separator rest).map fun (before, after) => (letter :: before, after)

/-- A property name alone, or with a value after a sign.  An inequality sign is
read as the other signs are; only a capital `P` negates. -/
def queryOf (text : List Char) : Unicode.Query :=
  match cutAt ['!', '='] text <|> cutAt [':'] text <|> cutAt ['='] text with
  | some (property, value) => .valued (.ofList property) (.ofList value)
  | none => .named (.ofList text)

def propertyEscape? (verbose negated : Bool) (letters : List Char) :
    Option (Token × List Char) :=
  match skip verbose letters with
  | '{' :: rest =>
      match takeRun verbose (· ≠ '}') (skip verbose rest) with
      | (text, '}' :: rest) => some (.property (queryOf text) negated, rest)
      | _ => none
  | letter :: rest =>
      if letter = '\\' then none
      else some (.property (.named (.singleton letter)) negated, rest)
  | [] => none

def isBoundaryLetter (letter : Char) : Bool :=
  letter.isAlpha || letter == '-'

def boundaryNamed? (name : String) : Option WordTest :=
  match name with
  | "start" => some .start
  | "end" => some .stop
  | "start-half" => some .startHalf
  | "end-half" => some .stopHalf
  | _ => none

/-- After `\b`: the name of a special boundary in braces, or a plain boundary.
Braces that do not begin with a letter or hyphen are left to be read as a
repetition. -/
def boundaryEscape? (verbose : Bool) (letters : List Char) : Option (Token × List Char) :=
  let plain := some (Token.anchor (.word .boundary), letters)
  match letters with
  | '{' :: rest =>
      match skip verbose rest with
      | [] => none
      | letter :: rest =>
          if isBoundaryLetter letter then
            match takeRun verbose isBoundaryLetter (letter :: rest) with
            | (name, '}' :: rest) =>
                (boundaryNamed? (.ofList name)).map fun test => (.anchor (.word test), rest)
            | _ => none
          else plain
  | _ => plain

/-- ASCII signs that stand for themselves after a backslash: all but the angle
brackets, which are word boundaries there. -/
def isEscapable (letter : Char) : Bool :=
  letter.toNat < 0x80 && !letter.isAlphanum && letter != '<' && letter != '>'

/-- The token after a backslash. -/
def escape? (verbose : Bool) : List Char → Option (Token × List Char)
  | [] => none
  | letter :: rest =>
      match letter with
      | 'x' => hexEscape? verbose 2 rest
      | 'u' => hexEscape? verbose 4 rest
      | 'U' => hexEscape? verbose 8 rest
      | 'p' => propertyEscape? verbose false rest
      | 'P' => propertyEscape? verbose true rest
      | 'd' => some (.shorthand .digit false, rest)
      | 'D' => some (.shorthand .digit true, rest)
      | 's' => some (.shorthand .space false, rest)
      | 'S' => some (.shorthand .space true, rest)
      | 'w' => some (.shorthand .word false, rest)
      | 'W' => some (.shorthand .word true, rest)
      | 'a' => some (.literal '\x07' false, rest)
      | 'f' => some (.literal '\x0C' false, rest)
      | 't' => some (.literal '\t' false, rest)
      | 'n' => some (.literal '\n' false, rest)
      | 'r' => some (.literal '\r' false, rest)
      | 'v' => some (.literal '\x0B' false, rest)
      | 'A' => some (.anchor .textStart, rest)
      | 'z' => some (.anchor .textEnd, rest)
      | 'b' => boundaryEscape? verbose rest
      | 'B' => some (.anchor (.word .notBoundary), rest)
      | '<' => some (.anchor (.word .start), rest)
      | '>' => some (.anchor (.word .stop), rest)
      | _ => if isEscapable letter then some (.literal letter false, rest) else none

/-! ## Groups and flags -/

def isNameStart (letter : Char) : Bool :=
  letter == '_' || Unicode.alphabetic.contains letter

def isNameRest (letter : Char) : Bool :=
  letter == '_' || letter == '.' || letter == '[' || letter == ']' ||
    Unicode.alphanumeric.contains letter

/-- The name of a capturing group, up to the closing angle bracket. -/
def groupName? (letters : List Char) : Option (String × List Char) :=
  match letters.takeWhile (· ≠ '>'), letters.dropWhile (· ≠ '>') with
  | first :: others, _ :: rest =>
      if isNameStart first && others.all isNameRest then
        some (.ofList (first :: others), rest)
      else none
  | _, _ => none

def flagOf? : Char → Option Flag
  | 'i' => some .caseInsensitive
  | 'm' => some .multiLine
  | 's' => some .dotMatchesNewline
  | 'U' => some .swapGreed
  | 'u' => some .unicode
  | 'R' => some .crlf
  | 'x' => some .verbose
  | _ => none

/-- The flags before a closing parenthesis or a colon.  Those after the one hyphen
are switched off, and there has to be one; no flag may occur twice. -/
def flagChanges? (on : Bool) (dangling : Bool) :
    List Char → Option (List FlagChange × Char × List Char)
  | [] => none
  | letter :: rest =>
      if letter = ')' ∨ letter = ':' then
        if dangling then none else some ([], letter, rest)
      else if letter = '-' then
        if on then flagChanges? false true rest else none
      else
        match flagOf? letter with
        | none => none
        | some flag =>
            match flagChanges? on false rest with
            | none => none
            | some (changes, stop, rest) =>
                if changes.any (·.flag = flag) then none
                else some (⟨flag, on⟩ :: changes, stop, rest)

/-- The setting that the changes give to a flag, when they mention it. -/
def settingOf (flag : Flag) (changes : List FlagChange) : Option Bool :=
  (changes.find? (·.flag = flag)).map FlagChange.on

/-- The token that an opening parenthesis begins. -/
def opening? (verbose : Bool) (letters : List Char) : Option (Token × List Char) :=
  match skip verbose letters with
  | '?' :: '=' :: _ => none
  | '?' :: '!' :: _ => none
  | '?' :: '<' :: '=' :: _ => none
  | '?' :: '<' :: '!' :: _ => none
  | '?' :: 'P' :: '<' :: rest =>
      (groupName? rest).map fun (name, rest) => (.opening (.capture (some name)), rest)
  | '?' :: '<' :: rest =>
      (groupName? rest).map fun (name, rest) => (.opening (.capture (some name)), rest)
  | '?' :: rest =>
      match flagChanges? true false rest with
      | none => none
      | some (changes, stop, rest) =>
          if stop = ':' then some (.opening (.scoped changes), rest)
          else if changes.isEmpty then none
          else some (.flags changes, rest)
  | rest => some (.opening (.capture none), rest)

/-! ## Repetitions -/

/-- A count below 2^32, with white space allowed around it. -/
def count? (verbose : Bool) (letters : List Char) : Option (Nat × List Char) :=
  let run := takeRun verbose Char.isDigit (letters.dropWhile isBlank)
  let count := Nat.ofDigitChars 10 run.1 0
  if run.1.isEmpty || UInt32.size ≤ count then none
  else some (count, skip verbose (run.2.dropWhile isBlank))

/-- The token of a repetition before the rest of the text.  A question mark makes it
prefer fewer rounds. -/
def Token.ofRounds (least : Nat) (most : Option Nat) : List Char → Token × List Char
  | '?' :: rest => (.repetition least most false, rest)
  | rest => (.repetition least most true, rest)

/-- The token that an opening brace begins. -/
def counted? (verbose : Bool) (letters : List Char) : Option (Token × List Char) :=
  let finish := fun least most rest => some (Token.ofRounds least most (skip verbose rest))
  (count? verbose (skip verbose letters)).bind fun (least, rest) =>
    match rest with
    | '}' :: rest => finish least (some least) rest
    | ',' :: rest =>
        match skip verbose rest with
        | '}' :: rest => finish least none rest
        | rest =>
            match count? verbose rest with
            | some (most, '}' :: rest) =>
                if least ≤ most then finish least (some most) rest else none
            | _ => none
    | _ => none

end Pattern
end TaggedContent
