import TaggedContent.Pattern.Scan

namespace TaggedContent
namespace Pattern

/-!
# Reading an expression

The tokens of a pattern form one expression: items side by side are a sequence, a
bar separates branches, and a group holds whatever stands between its
parentheses.  A repetition applies to the item before it.
-/

/-- What has been read of a group: the finished branches and the items of the
current one, the latest first in both. -/
structure Draft where
  branches : List Expression
  items : List Expression

namespace Draft

def blank : Draft :=
  ⟨[], []⟩

def push (draft : Draft) (item : Expression) : Draft :=
  { draft with items := item :: draft.items }

def branch (draft : Draft) : Expression :=
  .ofItems draft.items.reverse

def split (draft : Draft) : Draft :=
  ⟨draft.branch :: draft.branches, []⟩

def finish (draft : Draft) : Expression :=
  .ofBranches (draft.branch :: draft.branches).reverse

/-- Repeat the latest item; a change of flags is no item. -/
def repeated? (draft : Draft) (least : Nat) (most : Option Nat) (greedy : Bool) :
    Option Draft :=
  match draft.items with
  | [] => none
  | .flags _ :: _ => none
  | item :: items => some ⟨draft.branches, .repetition least most greedy item :: items⟩

end Draft

namespace Expression

/-- Read the remaining tokens into a draft, inside the groups that are open. -/
def assemble? : List Token → Draft → List (Group × Draft) → Option Expression
  | [], draft, [] => some draft.finish
  | [], _, _ :: _ => none
  | .literal letter asByte :: tokens, draft, outer =>
      assemble? tokens (draft.push (.literal letter asByte)) outer
  | .dot :: tokens, draft, outer => assemble? tokens (draft.push .dot) outer
  | .anchor place :: tokens, draft, outer => assemble? tokens (draft.push (.anchor place)) outer
  | .shorthand kind negated :: tokens, draft, outer =>
      assemble? tokens (draft.push (.shorthand kind negated)) outer
  | .property query negated :: tokens, draft, outer =>
      assemble? tokens (draft.push (.property query negated)) outer
  | .bracketed negated contents :: tokens, draft, outer =>
      assemble? tokens (draft.push (.bracketed negated contents)) outer
  | .flags changes :: tokens, draft, outer => assemble? tokens (draft.push (.flags changes)) outer
  | .bar :: tokens, draft, outer => assemble? tokens draft.split outer
  | .opening kind :: tokens, draft, outer => assemble? tokens .blank ((kind, draft) :: outer)
  | .closing :: tokens, draft, (kind, parent) :: outer =>
      assemble? tokens (parent.push (.group kind draft.finish)) outer
  | .closing :: _, _, [] => none
  | .repetition least most greedy :: tokens, draft, outer =>
      match draft.repeated? least most greedy with
      | some draft => assemble? tokens draft outer
      | none => none

def ofTokens? (tokens : List Token) : Option Expression :=
  assemble? tokens .blank []

/-- The deepest nesting that is read. -/
def depthLimit : Nat :=
  250

/-- The names given to capturing groups. -/
def groupNames (tokens : List Token) : List String :=
  tokens.filterMap fun token =>
    match token with
    | .opening (.capture name) => name
    | _ => none

/-- The expression that a pattern text writes: well formed, with distinct group
names, and not nested too deep. -/
def read? (pattern : String) : Option Expression :=
  match scan pattern.toList with
  | none => none
  | some tokens =>
      if (groupNames tokens).Nodup then
        match ofTokens? tokens with
        | some expression => if expression.depth ≤ depthLimit then some expression else none
        | none => none
      else none

end Expression
end Pattern
end TaggedContent
