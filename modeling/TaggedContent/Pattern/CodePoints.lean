namespace TaggedContent
namespace Pattern

/-!
# Sets of code points

A set is given by its bounds in ascending order: the first bound opens an
interval, the second closes it, and so on, each interval excluding its end.  A
code point therefore belongs to the set exactly when an odd number of bounds are
not above it.  Every operation on two sets is one sweep over their bounds that
keeps a bound where the combined membership changes.
-/

structure CodePoints where
  bounds : List Nat
  deriving DecidableEq, Inhabited

namespace CodePoints

/-- Membership above the bounds already passed, of which `inside` is the parity. -/
def parity (point : Nat) : Bool → List Nat → Bool
  | inside, [] => inside
  | inside, bound :: bounds => if point < bound then inside else parity point (!inside) bounds

def contains (set : CodePoints) (letter : Char) : Bool :=
  parity letter.toNat false set.bounds

def empty : CodePoints :=
  ⟨[]⟩

/-- All Unicode scalar values: every code point but the surrogates. -/
def all : CodePoints :=
  ⟨[0, 0xD800, 0xE000, 0x110000]⟩

def ascii : CodePoints :=
  ⟨[0, 0x80]⟩

/-- The bounds that remain after `bound`, and the membership there. -/
def pass (bound : Nat) (inside : Bool) : List Nat → Bool × List Nat
  | [] => (inside, [])
  | next :: rest => if next = bound then (!inside, rest) else (inside, next :: rest)

def nextBound : List Nat → List Nat → Option Nat
  | [], [] => none
  | left :: _, [] => some left
  | [], right :: _ => some right
  | left :: _, right :: _ => some (min left right)

/-- Sweep over the bounds of two sets.  Every step passes at least one bound, so
as many steps as there are bounds suffice. -/
def sweep (keep : Bool → Bool → Bool) : Nat → Bool → Bool → List Nat → List Nat → List Nat
  | 0, _, _, _, _ => []
  | steps + 1, inLeft, inRight, lefts, rights =>
      match nextBound lefts rights with
      | none => []
      | some bound =>
          let left := pass bound inLeft lefts
          let right := pass bound inRight rights
          let rest := sweep keep steps left.1 right.1 left.2 right.2
          if keep inLeft inRight = keep left.1 right.1 then rest else bound :: rest

/-- The points whose memberships in the two sets are accepted by `keep`, which
rejects points outside both. -/
def combine (keep : Bool → Bool → Bool) (left right : CodePoints) : CodePoints :=
  ⟨sweep keep (left.bounds.length + right.bounds.length) false false left.bounds right.bounds⟩

def union : CodePoints → CodePoints → CodePoints :=
  combine (· || ·)

def intersection : CodePoints → CodePoints → CodePoints :=
  combine (· && ·)

def difference : CodePoints → CodePoints → CodePoints :=
  combine fun inLeft inRight => inLeft && !inRight

def symmetricDifference : CodePoints → CodePoints → CodePoints :=
  combine fun inLeft inRight => inLeft != inRight

def complement (set : CodePoints) : CodePoints :=
  difference all set

/-- The scalar values from `first` to `last`, both included. -/
def range (first last : Char) : CodePoints :=
  intersection all ⟨[first.toNat, last.toNat + 1]⟩

def singleton (letter : Char) : CodePoints :=
  ⟨[letter.toNat, letter.toNat + 1]⟩

def ofPoint (point : Nat) : CodePoints :=
  ⟨[point, point + 1]⟩

/-- The union of many sets, formed in a balanced way. -/
def unionAll : Nat → List CodePoints → CodePoints
  | _, [] => empty
  | _, [set] => set
  | 0, sets => sets.foldl union empty
  | depth + 1, sets =>
      let half := sets.length / 2
      union (unionAll depth (sets.take half)) (unionAll depth (sets.drop half))

/-- The maximal intervals of the set, both ends included. -/
def ranges (set : CodePoints) : List (Nat × Nat) :=
  pairs set.bounds
where
  pairs : List Nat → List (Nat × Nat)
    | first :: afterLast :: rest => (first, afterLast - 1) :: pairs rest
    | _ => []

def isAscii (set : CodePoints) : Bool :=
  set.bounds.all fun bound => bound ≤ 0x80

/-- The only member of a set of one. -/
def single? (set : CodePoints) : Option Nat :=
  match set.bounds with
  | [point, after] => if after = point + 1 then some point else none
  | _ => none

end CodePoints

/-- The bytes of a code point in UTF-8. -/
def utf8Bytes (point : Nat) : List Nat :=
  if point < 0x80 then [point]
  else if point < 0x800 then [0xC0 + point / 0x40, 0x80 + point % 0x40]
  else if point < 0x10000 then
    [0xE0 + point / 0x1000, 0x80 + point / 0x40 % 0x40, 0x80 + point % 0x40]
  else
    [0xF0 + point / 0x40000, 0x80 + point / 0x1000 % 0x40, 0x80 + point / 0x40 % 0x40,
      0x80 + point % 0x40]

end Pattern
end TaggedContent
