import TaggedContent.Json.Number
import TaggedContent.Json.Quoted

namespace TaggedContent
namespace Json

/-!
# Reading trees

A text is read as one value with nothing but white space around it.  Arrays and
objects nest at most 127 deep.  Object keys are always names; a repeated key keeps
its first place and takes its last value.
-/

def isSpace (letter : Char) : Bool :=
  letter == ' ' || letter == '\n' || letter == '\t' || letter == '\r'

def skipSpace (letters : List Char) : List Char :=
  letters.dropWhile isSpace

def depthLimit : Nat :=
  127

/-- A string and the colon after it. -/
def field? (letters : List Char) : Option (String × List Char) :=
  match skipSpace letters with
  | '"' :: rest =>
      (unquote? rest).bind fun (name, rest) =>
        match skipSpace rest with
        | ':' :: rest => some (.ofList name, rest)
        | _ => none
  | _ => none

mutual

/-- The value that the text begins with, when containers may nest `depth` deep in
it.  Every step reads at least one letter. -/
def value? : Nat → Nat → List Char → Option (Tree × List Char)
  | 0, _, _ => none
  | steps + 1, depth, letters =>
      match skipSpace letters with
      | 'n' :: 'u' :: 'l' :: 'l' :: rest => some (.null, rest)
      | 't' :: 'r' :: 'u' :: 'e' :: rest => some (.bool true, rest)
      | 'f' :: 'a' :: 'l' :: 's' :: 'e' :: rest => some (.bool false, rest)
      | '"' :: rest => (unquote? rest).map fun (text, rest) => (.string (.ofList text), rest)
      | '[' :: rest =>
          if depth = 0 then none
          else
            match skipSpace rest with
            | ']' :: rest => some (.sequence [], rest)
            | rest =>
                (value? steps (depth - 1) rest).bind fun (item, rest) =>
                  (items? steps (depth - 1) rest).map fun (items, rest) =>
                    (.sequence (item :: items), rest)
      | '\x7b' :: rest =>
          if depth = 0 then none
          else
            match skipSpace rest with
            | '\x7d' :: rest => some (.mapping [], rest)
            | rest =>
                (member? steps (depth - 1) rest).bind fun (first, rest) =>
                  (members? steps (depth - 1) rest).map fun (members, rest) =>
                    (.mapping (Entries.ofPairs (first :: members)), rest)
      | letters => number? letters

/-- The items after one item, up to the closing bracket. -/
def items? : Nat → Nat → List Char → Option (List Tree × List Char)
  | 0, _, _ => none
  | steps + 1, depth, letters =>
      match skipSpace letters with
      | ']' :: rest => some ([], rest)
      | ',' :: rest =>
          (value? steps depth rest).bind fun (item, rest) =>
            (items? steps depth rest).map fun (items, rest) => (item :: items, rest)
      | _ => none

def member? : Nat → Nat → List Char → Option ((Key × Tree) × List Char)
  | 0, _, _ => none
  | steps + 1, depth, letters =>
      (field? letters).bind fun (name, rest) =>
        (value? steps depth rest).map fun (value, rest) => ((.name name, value), rest)

/-- The members after one member, up to the closing brace. -/
def members? : Nat → Nat → List Char → Option (List (Key × Tree) × List Char)
  | 0, _, _ => none
  | steps + 1, depth, letters =>
      match skipSpace letters with
      | '\x7d' :: rest => some ([], rest)
      | ',' :: rest =>
          (member? steps depth rest).bind fun (member, rest) =>
            (members? steps depth rest).map fun (members, rest) => (member :: members, rest)
      | _ => none

end

def read? (text : String) : Option Tree :=
  let letters := text.toList
  match value? (letters.length + 1) depthLimit letters with
  | some (tree, rest) => if (skipSpace rest).isEmpty then some tree else none
  | none => none

/-- A key is a string or an integer of 64 bits. -/
def readKey? (text : String) : Option Key :=
  match read? text with
  | some (.string text) => some (.name text)
  | some (.int position) => some (.index position)
  | _ => none

end Json
end TaggedContent
