namespace TaggedContent

/-!
# Letters of a text

Hexadecimal digits, read in either case, and cutting a text in two at one occurrence of
a separator, which belongs to neither part.
-/

namespace Hex

def digit? (letter : Char) : Option Nat :=
  if letter.isDigit then some (letter.toNat - '0'.toNat)
  else if 'a' ≤ letter ∧ letter ≤ 'f' then some (letter.toNat - 'a'.toNat + 10)
  else if 'A' ≤ letter ∧ letter ≤ 'F' then some (letter.toNat - 'A'.toNat + 10)
  else none

def isDigit (letter : Char) : Bool :=
  (digit? letter).isSome

/-- The number that the digits write, other letters counting as zero. -/
def value (digits : List Char) : Nat :=
  digits.foldl (fun total digit => 16 * total + (digit? digit).getD 0) 0

end Hex

namespace Tag

/-- The parts before and after the first separator. -/
def cutFirst (separator : Char) : List Char → Option (List Char × List Char)
  | [] => none
  | head :: tail =>
      if head = separator then some ([], tail)
      else (cutFirst separator tail).map fun (before, after) => (head :: before, after)

/-- The parts before and after the last separator. -/
def cutLast (separator : Char) : List Char → Option (List Char × List Char)
  | [] => none
  | head :: tail =>
      match cutLast separator tail with
      | some (before, after) => some (head :: before, after)
      | none => if head = separator then some ([], tail) else none

end Tag
end TaggedContent
