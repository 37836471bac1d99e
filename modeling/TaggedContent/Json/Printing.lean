import TaggedContent.Decimal.Style
import TaggedContent.Json.Quoted
import TaggedContent.Tree

namespace TaggedContent
namespace Json

/-!
# Printing trees

Trees are printed without any space between tokens.  Inside a mapping an index is
printed as a string, so two keys of one mapping may look alike.
-/

/-- Numbers from `10^-5` up to `10^16` have their point in place, and whole ones end
in a zero after it.  What is no number is printed as null. -/
def numberStyle : Decimal.Style :=
  ⟨.toEven, fun point => -5 < point && point ≤ 16, ".0", "null", "null", "null"⟩

def printKey (key : Key) : List Char :=
  quoted key.display.toList

mutual

def print : Tree → List Char
  | .null => "null".toList
  | .bool value => if value then "true".toList else "false".toList
  | .int value => value.toInt.repr.toList
  | .float value => (numberStyle.write value).toList
  | .string value => quoted value.toList
  | .sequence [] => ['[', ']']
  | .sequence (item :: items) => '[' :: (print item ++ printItems items)
  | .mapping [] => ['\x7b', '\x7d']
  | .mapping ((key, value) :: entries) =>
      '\x7b' :: (printKey key ++ ':' :: (print value ++ printEntries entries))

/-- The items after the first, with the closing bracket. -/
def printItems : List Tree → List Char
  | [] => [']']
  | item :: items => ',' :: (print item ++ printItems items)

/-- The entries after the first, with the closing brace. -/
def printEntries : List (Key × Tree) → List Char
  | [] => ['\x7d']
  | (key, value) :: entries =>
      ',' :: (printKey key ++ ':' :: (print value ++ printEntries entries))

end

def render (tree : Tree) : String :=
  .ofList (print tree)

/-- A key on its own: an index is printed as a number there. -/
def renderKey : Key → String
  | .name text => .ofList (quoted text.toList)
  | .index position => position.toInt.repr

end Json
end TaggedContent
