namespace TaggedContent
namespace Tag

/-!
# Suggestions for a misspelt name

The edit distance of two texts is the least number of insertions, deletions and
substitutions of one character that turn the first into the second.  It is
computed row by row: a row lists the distances from every suffix of the first
text, the longest first, to one suffix of the second.
-/

/-- The row of the empty text: a suffix is as far from it as it is long. -/
def emptyRow : List Char → List Nat
  | [] => [0]
  | head :: tail => (head :: tail).length :: emptyRow tail

/-- The row after `letter` is put in front of the text whose row is given. -/
def extendRow (letter : Char) : List Char → List Nat → List Nat
  | head :: tail, here :: below :: row =>
      let rest := extendRow letter tail (below :: row)
      let substituted := if head = letter then below else below + 1
      min (min (here + 1) (rest.headD 0 + 1)) substituted :: rest
  | _, here :: _ => [here + 1]
  | _, [] => []

def editDistance (source target : String) : Nat :=
  let source := source.toList
  (target.toList.foldr (fun letter row => extendRow letter source row) (emptyRow source)).headD 0

/-- A name of up to three bytes may be one edit away, a longer one two. -/
def distanceLimit (name : String) : Nat :=
  if name.utf8ByteSize ≤ 3 then 1 else 2

/-- The first three of the available names that differ from `name` within the
limit, nearer ones first and equally near ones in the order given. -/
def suggestions (name : String) (available : List String) : List String :=
  let measured := available.map fun candidate => (editDistance name candidate, candidate)
  let within := (List.range (distanceLimit name)).flatMap fun missed =>
    measured.filterMap fun (distance, candidate) =>
      if distance = missed + 1 then some candidate else none
  within.take 3

end Tag
end TaggedContent
