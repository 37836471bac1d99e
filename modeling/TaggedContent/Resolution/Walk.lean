import TaggedContent.Resolution.Event
import TaggedContent.Resolution.LocksAndMarks

namespace TaggedContent
namespace Resolution

/-!
# Resolving a tree

Every mapping is resolved in two passes over its entries.  The first decides the
entries that have an index or a locale tag, in order; a selected locale entry
locks the key it resolves to.  The second decides the plain and the parameterized
entries, in order, and none of them can take a locked key.  The kept entries are
then assembled in the order of the mapping, and extraction aliases are added.

Locks, marks, compiled patterns and events belong to one walk over a whole tree
and are shared by all its mappings.
-/

structure Settings where
  locale : Option String
  table : Option Parameter.Table
  deriving Inhabited

/-- A pattern that had to be matched is not valid. -/
structure InvalidPattern where
  path : Path
  key : String
  pattern : String
  deriving DecidableEq

def InvalidPattern.message (error : InvalidPattern) : String :=
  "invalid pattern in key '" ++ error.key ++ "' at " ++ error.path.display

/-- What a walk has gathered so far, with the latest event first. -/
structure Progress where
  locks : Locks
  marks : Marks
  patterns : Pattern.Cache
  events : List Event
  deriving Inhabited

def Progress.initial : Progress :=
  ⟨.empty, .empty, .empty, []⟩

abbrev Walk :=
  ExceptT InvalidPattern (StateM Progress)

def Settings.resolver? (settings : Settings) (name : String) : Option Parameter.Resolver :=
  settings.table.bind fun table => table.resolver? name

namespace Walk

def report (event : Event) : Walk Unit :=
  modify fun progress => { progress with events := event :: progress.events }

def isLocked (path : Path) (key : String) : Walk Bool := do
  return (← get).locks.isLocked path key

def lock (path : Path) (key : String) : Walk Unit :=
  modify fun progress => { progress with locks := progress.locks.lock path key }

def mark (path : Path) (key : String) : Walk Unit :=
  modify fun progress => { progress with marks := progress.marks.mark path key }

/-- Run a step that uses the pattern cache; its failure is that of the entry. -/
def withPatterns (path : Path) (key : String)
    (step : Pattern.Cache → Except Pattern.PatternError α × Pattern.Cache) : Walk α := do
  let progress ← get
  let (answer, patterns) := step progress.patterns
  set { progress with patterns := patterns }
  match answer with
  | .ok value => pure value
  | .error error => throw ⟨path, key, error.pattern⟩

def drop (path : Path) (key : String) (reason : DropReason) : Walk Unit :=
  report (.dropped path key reason)

def reportNearMiss (settings : Settings) (key : String) : Walk Unit :=
  match Tag.nearMiss? settings.table key with
  | some miss => report (.nearMiss miss)
  | none => pure ()

/-- Decide a locale entry.  It is selected, and locks its base, when it is not
marked, its pattern matches the locale and no earlier entry has the base.  Without
a locale it is dropped silently. -/
def selectLocale (settings : Settings) (path : Path) (key base pattern : String)
    (marked : Bool) : Walk Bool := do
  if ← isLocked path key then
    drop path key .keyResolved
    pure false
  else if marked then
    drop path key .markedLocale
    pure false
  else
    match settings.locale with
    | none => pure false
    | some locale =>
        if ← withPatterns path key (·.fullMatch pattern locale) then
          if ← isLocked path base then
            drop path key .localeTaken
            pure false
          else
            lock path base
            report (.selected path key base)
            pure true
        else
          drop path key (.localeMismatch locale)
          pure false

/-- Decide whether an entry without a locale tag may take its base. -/
def mayTake (path : Path) (key base : String) : Walk Bool := do
  if ← isLocked path key then
    drop path key .keyResolved
    pure false
  else if ← isLocked path base then
    drop path key .localePrecedence
    pure false
  else pure true

/-- Let the resolver of a parameter decide about an entry whose value is resolved. -/
def applyResolver (path : Path) (key : String) (resolver : Parameter.Resolver)
    (request : Parameter.Request) : Walk (Option (Key × Tree)) := do
  let kept ← withPatterns path key (resolver.resolve request)
  if kept.isNone then
    drop path key (.parameterRejected request.name)
  pure kept

/-- Remember an extraction mark on a kept entry that was written as a sequence. -/
def markExtraction (path : Path) (marked : Bool) (value : Tree) (key : Key) : Walk Unit :=
  match key with
  | .name name => if marked && value.isSequence then mark path name else pure ()
  | .index _ => pure ()

def restoreAliases (path : Path) (entries : Mapping) : Walk Mapping := do
  let restored := (← get).marks.restore path entries
  modify fun progress => { progress with marks := restored.marks }
  restored.keys.forM fun key => report (.aliasRestored path key)
  pure restored.entries

/-- The entries kept by either pass, in the order of the mapping.  Of entries with
equal keys the first gives the place and the last the value. -/
def assemble (first second : List (Option (Key × Tree))) : Mapping :=
  Entries.ofPairs ((List.zipWith Option.or first second).filterMap id)

/-- What the first pass keeps of an entry, where `below` is the walk over its value:
an index as it is, a selected locale entry under its base, and nothing of the rest. -/
def firstEntry (settings : Settings) (path : Path) (key : Key) (below : Walk Tree) :
    Walk (Option (Key × Tree)) :=
  match key with
  | .index _ => do
      let resolved ← below
      return some (key, resolved)
  | .name name => do
      reportNearMiss settings name
      match Tag.ofKey settings.table name with
      | .comment => do
          drop path name .comment
          return none
      | .tagged ⟨_, marked, .locale base pattern⟩ => do
          if ← selectLocale settings path name base pattern marked then
            let resolved ← below
            return some (.name base, resolved)
          else return none
      | .tagged _ => return none

/-- What the second pass keeps of an entry: a plain entry under its name without the
mark, and a parameterized one as its resolver decides once the value is resolved. -/
def secondEntry (settings : Settings) (path : Path) (node : Mapping) (key : Key)
    (value : Tree) (below : Walk Tree) : Walk (Option (Key × Tree)) :=
  match key with
  | .index _ => return none
  | .name name =>
      match Tag.ofKey settings.table name with
      | .tagged ⟨stripped, marked, .plain⟩ => do
          if ← mayTake path name stripped then
            let resolved ← below
            markExtraction path marked value (.name stripped)
            return some (.name stripped, resolved)
          else return none
      | .tagged ⟨_, marked, .parameter base parameter argument⟩ => do
          if ← mayTake path name base then
            match settings.resolver? parameter with
            | none => do
                drop path name (.noResolver parameter)
                return none
            | some resolver => do
                let resolved ← below
                let kept ← applyResolver path name resolver
                  ⟨node, base, parameter, argument, resolved, settings.locale⟩
                if let some (keptKey, _) := kept then
                  markExtraction path marked value keptKey
                return kept
          else return none
      | _ => return none

mutual

def resolveTree (settings : Settings) (path : Path) : Tree → Walk Tree
  | .mapping entries => do
      let first ← firstPass settings path entries
      let second ← secondPass settings path entries entries
      return .mapping (← restoreAliases path (assemble first second))
  | .sequence items => do
      return .sequence (← resolveItems settings path 0 items)
  | scalar => pure scalar

def resolveItems (settings : Settings) (path : Path) (position : Nat) :
    List Tree → Walk (List Tree)
  | [] => pure []
  | item :: items => do
      let resolved ← resolveTree settings (path.child (.index (.ofNat position))) item
      let others ← resolveItems settings path (position + 1) items
      return resolved :: others

/-- For every entry with an index or a locale tag what is kept of it, and nothing
for the others. -/
def firstPass (settings : Settings) (path : Path) :
    List (Key × Tree) → Walk (List (Option (Key × Tree)))
  | [] => pure []
  | (key, value) :: rest => do
      let kept ← firstEntry settings path key (resolveTree settings (path.child key) value)
      let others ← firstPass settings path rest
      return kept :: others

/-- For every plain or parameterized entry what is kept of it, and nothing for the
others. -/
def secondPass (settings : Settings) (path : Path) (node : Mapping) :
    List (Key × Tree) → Walk (List (Option (Key × Tree)))
  | [] => pure []
  | (key, value) :: rest => do
      let kept ← secondEntry settings path node key value
        (resolveTree settings (path.child key) value)
      let others ← secondPass settings path node rest
      return kept :: others

end

end Walk

/-- What a walk over the whole tree comes to, with the events in order. -/
def Settings.trace (settings : Settings) (tree : Tree) :
    Except InvalidPattern Tree × List Event :=
  let (result, progress) := (Walk.resolveTree settings .root tree).run.run .initial
  (result, progress.events.reverse)

/-- The tree with only the entries that apply under the settings. -/
def Settings.resolve (settings : Settings) (tree : Tree) : Except InvalidPattern Tree :=
  (settings.trace tree).1

end Resolution
end TaggedContent
