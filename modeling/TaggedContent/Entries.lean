namespace TaggedContent

/-!
# Insertion-ordered tables

A table is the list of its entries in the order in which their keys first
arrived.  Inserting at a key that is present replaces the value and keeps the
place, so distinct keys stay distinct.
-/

abbrev Entries (κ : Type u) (ν : Type v) :=
  List (κ × ν)

namespace Entries

variable {κ : Type u} {ν : Type v} [DecidableEq κ]

def get? (entries : Entries κ ν) (key : κ) : Option ν :=
  entries.lookup key

def insert (key : κ) (value : ν) : Entries κ ν → Entries κ ν
  | [] => [(key, value)]
  | (other, previous) :: rest =>
      if other = key then (key, value) :: rest
      else (other, previous) :: insert key value rest

/-- Insert the pairs from left to right: of equal keys the first gives the place
and the last the value. -/
def ofPairs (pairs : List (κ × ν)) : Entries κ ν :=
  pairs.foldl (fun entries pair => insert pair.1 pair.2 entries) []

def keys (entries : Entries κ ν) : List κ :=
  entries.map Prod.fst

end Entries
end TaggedContent
