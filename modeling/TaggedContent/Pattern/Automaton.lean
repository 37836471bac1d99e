import TaggedContent.Pattern.Form

namespace TaggedContent
namespace Pattern

/-!
# The size of a compiled pattern

A pattern is refused when the automaton built from it takes too much memory.  The
construction is followed here state by state, but only the number of states is kept, and
how many links they have beside the one that most have.  Classes beyond ASCII
become small automata over the bytes of UTF-8 that share equal states as far as a table
of bounded size remembers them.  That table is addressed by the numbers of states, so
the size of a class depends on what was built before.  The automaton is built in both
reading directions, and both have to stay within the limit.
-/

/-- What has been built so far: the number of states, and bytes for the links of states
with more than one. -/
structure Extent where
  states : Nat
  links : Nat

namespace Extent

def stateSize : Nat := 32
def transitionSize : Nat := 8
def branchSize : Nat := 4

/-- Ten mebibytes. -/
def limit : Nat :=
  10 * 1024 * 1024

def memory (extent : Extent) : Nat :=
  stateSize * extent.states + extent.links

end Extent

/-- A step of the construction, which fails when the limit is passed. -/
abbrev Build :=
  StateT Extent Option

namespace Build

/-- Add states with so many bytes of links. -/
def add (states links : Nat) : Build Unit := fun extent =>
  let extent : Extent := ⟨extent.states + states, extent.links + links⟩
  if extent.memory ≤ Extent.limit then some ((), extent) else none

def state : Build Unit :=
  add 1 0

/-- A state with transitions by byte ranges. -/
def sparse (transitions : Nat) : Build Unit :=
  add 1 (transitions * Extent.transitionSize)

/-- Further branches of branching states. -/
def branch (branches : Nat) : Build Unit :=
  add 0 (branches * Extent.branchSize)

/-- The number that the next state gets. -/
def next : Build Nat := fun extent =>
  some (extent.states, extent)

end Build

/-! ## Ranges of code points as sequences of byte ranges -/

abbrev ByteRange :=
  Nat × Nat

/-- Where a range has to be cut next so that every part is a product of byte
ranges: at the end of an encoding length, or at a block of continuation bytes that
is not covered whole.  The result is the last code point of the first part. -/
def splitPoint? (first last : Nat) : Option Nat :=
  let lengthEnd := [0x7F, 0x7FF, 0xFFFF].find? fun bound => first ≤ bound && bound < last
  match lengthEnd with
  | some bound => some bound
  | none =>
      if last < 0x80 then none
      else
        [0x40, 0x1000, 0x40000].findSome? fun block =>
          if first / block = last / block then none
          else if first % block ≠ 0 then some (first / block * block + block - 1)
          else if last % block ≠ block - 1 then some (last / block * block - 1)
          else none

/-- The byte sequences of a range, in order, when no part is cut more often than
given. -/
def byteSequences : Nat → Nat → Nat → List (List ByteRange)
  | 0, _, _ => []
  | cuts + 1, first, last =>
      match splitPoint? first last with
      | some middle => byteSequences cuts first middle ++ byteSequences cuts (middle + 1) last
      | none => [(utf8Bytes first).zip (utf8Bytes last)]

def CodePoints.byteSequences (set : CodePoints) : List (List ByteRange) :=
  set.ranges.flatMap fun (first, last) => Pattern.byteSequences 16 first last

/-! ## Shared states -/

/-- A table with as many slots as there are bit strings of some length. -/
inductive Slots (α : Type) where
  | vacant
  | taken (value : α)
  | fork (even odd : Slots α)

namespace Slots

variable {α : Type}

def get? : Slots α → Nat → Option α
  | vacant, _ => none
  | taken value, _ => some value
  | fork even odd, slot => if slot % 2 = 0 then even.get? (slot / 2) else odd.get? (slot / 2)

def halves : Slots α → Slots α × Slots α
  | fork even odd => (even, odd)
  | _ => (vacant, vacant)

def set (value : α) : Nat → Nat → Slots α → Slots α
  | 0, _, _ => taken value
  | bits + 1, slot, slots =>
      let (even, odd) := slots.halves
      if slot % 2 = 0 then fork (set value bits (slot / 2) even) odd
      else fork even (set value bits (slot / 2) odd)

end Slots

/-- The states that are remembered, under the numbers that describe them. -/
abbrev Remembered :=
  Slots (List Nat × Nat)

/-- The Fowler–Noll–Vo hash of a description. -/
def hashOf (description : List Nat) : UInt64 :=
  description.foldl (fun hash number => (hash ^^^ UInt64.ofNat number) * 1099511628211)
    14695981039346656037

/-- The number of the state with the given description.  It is added unless it is
remembered, and of two states for one slot the later one is remembered. -/
def sharedState (slots : Nat) (description : List Nat) (add : Build Unit) :
    StateT Remembered Build Nat := fun remembered => do
  let slot := (hashOf description).toNat % slots
  let known := (remembered.get? slot).filter fun (other, _) => other == description
  match known with
  | some (_, number) => return (number, remembered)
  | none =>
      let number ← Build.next
      add
      return (number, remembered.set (description, number) 14 slot)

/-! ## Classes -/

/-- The groups of sequences that share their first range, which stand together. -/
def groupByFirst : List (List ByteRange) → List (ByteRange × List (List ByteRange))
  | [] => []
  | [] :: sequences => groupByFirst sequences
  | (range :: tail) :: sequences =>
      match groupByFirst sequences with
      | (other, tails) :: groups =>
          if range = other then (range, tail :: tails) :: groups
          else (range, [tail]) :: (other, tails) :: groups
      | [] => [(range, [tail])]

/-- The state from which the sequences lead to `target`, after all that come behind it.
No sequence is longer than given. -/
def forwardState (target : Nat) : Nat → List (List ByteRange) → StateT Remembered Build Nat
  | 0, _ => return target
  | length + 1, sequences => do
      if sequences.all List.isEmpty then return target
      let groups := groupByFirst sequences
      let transitions ← groups.mapM fun (range, tails) =>
        return (range, ← forwardState target length tails)
      let description := transitions.flatMap fun (range, state) => [range.1, range.2, state]
      sharedState 10000 description (Build.sparse groups.length)

/-- A class that is read forwards: states with equal transitions are one. -/
def forwardClass (set : CodePoints) : Build Unit := do
  let target ← Build.next
  Build.state
  discard <| (forwardState target 4 set.byteSequences).run .vacant

/-- A class that is read backwards: every sequence is a chain of states of its own, from
the last byte to the first, except that equal beginnings are one. -/
def backwardClass (set : CodePoints) : Build Unit := do
  Build.state
  let target ← Build.next
  Build.state
  let chain := fun (sequence : List ByteRange) => do
    discard <| sequence.foldlM (fun state (first, last) =>
      sharedState 1000 [state, first, last] Build.state) target
    StateT.lift (Build.branch 1)
  discard <| (set.byteSequences.forM chain).run .vacant

/-- Within ASCII one state has all transitions. -/
def classOf (backwards : Bool) (set : CodePoints) : Build Unit :=
  if set.isAscii then do
    Build.state
    Build.sparse set.ranges.length
  else if backwards then backwardClass set
  else forwardClass set

/-! ## Texts side by side -/

/-- Alternatives that are all texts, as a tree over their bytes.  A node lists its
transitions; where one of the texts ends at a node, no transition from before is used for
later texts, so that their order is kept. -/
inductive TextTree where
  | leaf
  | edge (byte : Nat) (below others : TextTree)
  /-- A text ends here, and the transitions that follow are from before. -/
  | ended (earlier : TextTree)

namespace TextTree

/-- Change what is below the transition by a byte, which is put in if it is missing. -/
def change (byte : Nat) (inside : TextTree → TextTree) : TextTree → TextTree
  | edge other below others =>
      if other = byte then edge byte (inside below) others
      else edge other below (change byte inside others)
  | tree => edge byte (inside leaf) tree

def add : List Nat → TextTree → TextTree
  | [], ended leaf => ended leaf
  | [], tree => ended tree
  | byte :: bytes, tree => tree.change byte (add bytes)

def isLeaf : TextTree → Bool
  | leaf => true
  | edge _ _ _ => false
  | ended earlier => earlier.isLeaf

/-- The state for the transitions between two ends. -/
def buildTransitions : Nat → Build Unit
  | 0 => pure ()
  | 1 => do Build.state; Build.branch 1
  | transitions => do Build.sparse transitions; Build.branch 1

/-- The states of a node after so many of its transitions, and of the nodes below them. -/
def buildNode (transitions : Nat) : TextTree → Build Unit
  | leaf => buildTransitions transitions
  | edge _ below others => do
      unless below.isLeaf do
        below.buildNode 0
        Build.state
      others.buildNode (transitions + 1)
  | ended earlier => do
      buildTransitions transitions
      Build.branch 1
      earlier.buildNode 0

def build (texts : List (List Nat)) : Build Unit := do
  Build.state
  (texts.foldl (fun tree text => tree.add text) leaf).buildNode 0
  Build.state

end TextTree

/-! ## Forms -/

/-- What the last state of a part is.  To join a branching state to what follows it takes
one branch more. -/
inductive Ending where
  | plain
  | branching

namespace Ending

def join : Ending → Build Unit
  | plain => pure ()
  | branching => Build.branch 1

end Ending

/-- So many copies one behind the other, after a part that ends as given. -/
def furtherCopies (copy : Build Ending) : Nat → Ending → Build Ending
  | 0, ending => return ending
  | copies + 1, ending => do
      let next ← copy
      ending.join
      furtherCopies copy copies next

def exactly (copy : Build Ending) : Nat → Build Ending
  | 0 => do Build.state; return .plain
  | copies + 1 => do furtherCopies copy copies (← copy)

/-- So many copies, each of which may be the first to be left out. -/
def optionalCopies (copy : Build Ending) : Nat → Ending → Build Ending
  | 0, ending => return ending
  | copies + 1, ending => do
      Build.state
      let next ← copy
      ending.join
      Build.branch 2
      optionalCopies copy copies next

/-- A repetition, where `consuming` says that every round reads something. -/
def rounds (consuming : Bool) (copy : Build Ending) : Nat → Option Nat → Build Ending
  | 0, some 1 => do
      Build.state
      let ending ← copy
      Build.state
      Build.branch 2
      ending.join
      return .plain
  | 0, none => do
      if consuming then
        Build.state
        let ending ← copy
        Build.branch 1
        ending.join
        return .branching
      else
        let ending ← copy
        Build.state
        ending.join
        Build.branch 1
        Build.state
        Build.state
        Build.branch 3
        return .plain
  | least + 1, none => do
      let before ← if least = 0 then pure .plain else exactly copy least
      let last ← copy
      Build.state
      before.join
      last.join
      Build.branch 1
      return .branching
  | least, some most => do
      let required ← exactly copy least
      if least = most then return required
      Build.state
      let last ← optionalCopies copy (most - least) required
      last.join
      return .plain

namespace Form

def bytes? : Form → Option (List Nat)
  | text points => some (points.flatMap utf8Bytes)
  | _ => none

mutual

/-- Build a part, which is left as the result says. -/
def build (backwards : Bool) : Form → Build Ending
  | empty => do Build.state; return .plain
  | text points => do Build.add (encodedLength points) 0; return .plain
  | chars _ set => do classOf backwards set; return .plain
  | look _ => do Build.state; return .plain
  | repetition least most _ body => rounds body.isConsuming (build backwards body) least most
  | capture body => do
      if backwards then build backwards body
      else
        Build.state
        let ending ← build backwards body
        Build.state
        ending.join
        return .plain
  | sequence parts => do
      if parts.isEmpty then
        Build.state
        return .plain
      else buildSequence backwards parts
  | alternation branches =>
      match branches.mapM bytes? with
      | some texts => do
          TextTree.build (if backwards then texts.map List.reverse else texts)
          return .plain
      | none => buildAlternation backwards 0 branches

/-- One part after the other in the order of reading. -/
def buildSequence (backwards : Bool) : List Form → Build Ending
  | [] => return .plain
  | [form] => build backwards form
  | form :: forms => do
      if backwards then
        let ending ← buildSequence backwards forms
        let last ← build backwards form
        ending.join
        return last
      else
        let ending ← build backwards form
        ending.join
        buildSequence backwards forms

/-- The alternatives after so many others.  The states at their beginning and at their
end are put in once there are two. -/
def buildAlternation (backwards : Bool) (others : Nat) : List Form → Build Ending
  | [] => return .plain
  | form :: forms => do
      let ending ← build backwards form
      if others = 1 then Build.add 2 0
      Build.branch 1
      ending.join
      buildAlternation backwards (others + 1) forms

end

mutual

/-- Whether a match can only begin (or, backwards, end) at the edge of the text. -/
def isAnchored (backwards : Bool) : Form → Bool
  | look .textStart => !backwards
  | look .textEnd => backwards
  | repetition least _ _ body => least != 0 && isAnchored backwards body
  | capture body => isAnchored backwards body
  | sequence parts =>
      if backwards then endsAnchored backwards parts else beginsAnchored backwards parts
  | alternation branches => allAnchored backwards branches
  | _ => false

/-- Up to the first part that may read something, one is anchored. -/
def beginsAnchored (backwards : Bool) : List Form → Bool
  | [] => false
  | form :: forms =>
      isAnchored backwards form || (form.isZeroWidth && beginsAnchored backwards forms)

/-- From the last part that may read something, one is anchored. -/
def endsAnchored (backwards : Bool) : List Form → Bool
  | [] => false
  | form :: forms =>
      endsAnchored backwards forms || (forms.all isZeroWidth && isAnchored backwards form)

def allAnchored (backwards : Bool) : List Form → Bool
  | [] => true
  | form :: forms => isAnchored backwards form && allAnchored backwards forms

end

/-- The whole automaton: a state that accepts, and before the pattern a loop over all
bytes unless it is anchored. -/
def buildWhole (backwards : Bool) (form : Form) : Build Unit := do
  if form.isAnchored backwards then Build.state
  else
    Build.add 2 0
    Build.sparse 1
    Build.branch 2
  let ending ← (capture form).build backwards
  Build.state
  ending.join

def fits (form : Form) : Bool :=
  [false, true].all fun backwards => ((form.buildWhole backwards).run ⟨0, 0⟩).isSome

end Form

/-- Whether the automaton of an expression stays within the limit. -/
def Expression.fits (expression : Expression) : Bool :=
  (expression.translate? Form.target .initial).any fun (form, _) => form.fits

end Pattern
end TaggedContent
