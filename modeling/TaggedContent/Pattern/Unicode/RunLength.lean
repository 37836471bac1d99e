import TaggedContent.Pattern.CodePoints

namespace TaggedContent
namespace Pattern
namespace Unicode

/-!
# Run-length tables

Tables over all code points are written as lines of text.  A set is written as the gaps
between its bounds.  A partition is written as runs, each the number of code
points and the value that they share.
-/

def readNumbers (lines : List String) : List Nat :=
  lines.flatMap fun line =>
    (line.splitOn " ").map fun number => Nat.ofDigitChars 10 number.toList 0

def CodePoints.accumulate (total : Nat) : List Nat → List Nat
  | [] => []
  | gap :: gaps => (total + gap) :: accumulate (total + gap) gaps

def CodePoints.readGaps (lines : List String) : CodePoints :=
  ⟨CodePoints.accumulate 0 (readNumbers lines)⟩

structure Partition where
  runs : List (Nat × String)

namespace Partition

def readRun (text : String) : Nat × String :=
  let letters := text.toList
  (Nat.ofDigitChars 10 (letters.takeWhile Char.isDigit) 0,
    .ofList (letters.dropWhile Char.isDigit))

def read (lines : List String) : Partition :=
  ⟨lines.flatMap fun line => (line.splitOn " ").map readRun⟩

/-- The bounds of the runs whose value is chosen, from the code point `start` on. -/
def chosenBounds (choose : String → Bool) : Nat → Bool → List (Nat × String) → List Nat
  | start, inside, [] => if inside then [start] else []
  | start, inside, (count, value) :: runs =>
      let chosen := choose value
      let rest := chosenBounds choose (start + count) chosen runs
      if chosen = inside then rest else start :: rest

/-- The code points whose value is chosen. -/
def select (partition : Partition) (choose : String → Bool) : CodePoints :=
  ⟨chosenBounds choose 0 false partition.runs⟩

end Partition

/-- The value of the first entry that has `name` among its names. -/
def valuesOf (entries : List (List String × α)) (name : String) : Option α :=
  (entries.find? fun entry => entry.1.contains name).map Prod.snd

end Unicode
end Pattern
end TaggedContent
