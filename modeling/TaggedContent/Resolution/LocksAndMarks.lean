import TaggedContent.Path
import TaggedContent.Tree

namespace TaggedContent
namespace Resolution

/-!
# Locks and extraction marks

Locks record which keys a locale entry has claimed, and in which mapping.  A key
locked at a path cannot be taken by any sibling there.

A marked key whose value is a sequence gets an alias, the key followed by `@`,
once its mapping is complete.  Marks are kept for every path, each key once, in
the order in which they were made.
-/

structure Locks where
  claimed : List (Path × String)
  deriving Inhabited

namespace Locks

def empty : Locks :=
  ⟨[]⟩

def isLocked (locks : Locks) (path : Path) (key : String) : Bool :=
  locks.claimed.contains (path, key)

def lock (locks : Locks) (path : Path) (key : String) : Locks :=
  if locks.isLocked path key then locks else ⟨(path, key) :: locks.claimed⟩

end Locks

structure Marks where
  pending : Entries Path (List String)
  deriving Inhabited

/-- The key of the alias for a marked key. -/
def aliasOf (key : String) : String :=
  key ++ "@"

/-- Give every listed key that holds a sequence its alias, and list those that got
one.  An alias counts as an entry for the keys after it. -/
def addAliases : List String → Mapping → Mapping × List String
  | [], entries => (entries, [])
  | key :: keys, entries =>
      match Entries.get? entries (.name key) with
      | some (.sequence items) =>
          let extended := Entries.insert (.name (aliasOf key)) (.sequence items) entries
          let result := addAliases keys extended
          (result.1, key :: result.2)
      | _ => addAliases keys entries

namespace Marks

def empty : Marks :=
  ⟨[]⟩

/-- The keys marked at a path, in order. -/
def keysAt (marks : Marks) (path : Path) : List String :=
  (Entries.get? marks.pending path).getD []

def mark (marks : Marks) (path : Path) (key : String) : Marks :=
  let keys := marks.keysAt path
  if key ∈ keys then marks else ⟨Entries.insert path (keys ++ [key]) marks.pending⟩

def forget (marks : Marks) (path : Path) : Marks :=
  ⟨marks.pending.filter fun entry => entry.1 ≠ path⟩

/-- What restoring aliases leaves: the mapping with its aliases, the keys that got
one, and the marks of all other paths. -/
structure Restored where
  entries : Mapping
  keys : List String
  marks : Marks

def restore (marks : Marks) (path : Path) (entries : Mapping) : Restored :=
  let result := addAliases (marks.keysAt path) entries
  ⟨result.1, result.2, marks.forget path⟩

end Marks
end Resolution
end TaggedContent
