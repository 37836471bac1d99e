import Mathlib.Data.List.Basic
import TaggedContent.Pattern.Matching

namespace TaggedContent
namespace Pattern

/-!
# From tokens to a regular expression

A pattern denotes something when it passes every stage: it scans, its groups have
different names, its tokens write an expression, which is not too deep, has a meaning
and is not too large.  Assembling is a fold over the tokens, and its state is a draft
with the open groups around it.  A token looks at no group further out than the
innermost, so frames below the stack stay as they are.  Tokens that close only groups
of their own can therefore be put inside a group: what they write is then the body of
that group.
-/

/-- The draft of the innermost open group, and the groups around it. -/
abbrev Frames :=
  Draft × List (Group × Draft)

namespace Frames

/-- The frames after one more token. -/
def take? : Frames → Token → Option Frames
  | (draft, outer), .literal letter asByte => some (draft.push (.literal letter asByte), outer)
  | (draft, outer), .dot => some (draft.push .dot, outer)
  | (draft, outer), .anchor place => some (draft.push (.anchor place), outer)
  | (draft, outer), .shorthand kind negated => some (draft.push (.shorthand kind negated), outer)
  | (draft, outer), .property query negated => some (draft.push (.property query negated), outer)
  | (draft, outer), .bracketed negated contents =>
      some (draft.push (.bracketed negated contents), outer)
  | (draft, outer), .flags changes => some (draft.push (.flags changes), outer)
  | (draft, outer), .bar => some (draft.split, outer)
  | (draft, outer), .opening kind => some (.blank, (kind, draft) :: outer)
  | (draft, (kind, parent) :: outer), .closing =>
      some (parent.push (.group kind draft.finish), outer)
  | (_, []), .closing => none
  | (draft, outer), .repetition least most greedy =>
      (draft.repeated? least most greedy).map fun draft => (draft, outer)

/-- The expression, when no group is left open. -/
def finish? : Frames → Option Expression
  | (draft, []) => some draft.finish
  | (_, _ :: _) => none

theorem assemble?_cons (token : Token) (tokens : List Token) (draft : Draft)
    (outer : List (Group × Draft)) :
    Expression.assemble? (token :: tokens) draft outer =
      (take? (draft, outer) token).bind fun frames =>
        Expression.assemble? tokens frames.1 frames.2 := by
  cases token with
  | closing =>
      rcases outer with _ | ⟨⟨kind, parent⟩, outer⟩ <;> rfl
  | repetition least most greedy =>
      cases repeated : draft.repeated? least most greedy <;>
        simp [Expression.assemble?, take?, repeated]
  | _ => rfl

theorem assemble?_eq_foldlM (tokens : List Token) (frames : Frames) :
    Expression.assemble? tokens frames.1 frames.2 =
      (tokens.foldlM take? frames).bind finish? := by
  induction tokens generalizing frames with
  | nil =>
      rcases frames with ⟨draft, _ | ⟨_, _⟩⟩ <;> rfl
  | cons token tokens further =>
      rw [assemble?_cons, List.foldlM_cons, Option.bind_eq_bind, Option.bind_assoc]
      exact congrArg _ (funext further)

/-- Further groups around those that are open. -/
def inside (base : List (Group × Draft)) (frames : Frames) : Frames :=
  (frames.1, frames.2 ++ base)

/-- A token that can be taken is taken in the same way inside further groups. -/
theorem take?_inside {frames after : Frames} {token : Token} (base : List (Group × Draft))
    (taken : take? frames token = some after) :
    take? (inside base frames) token = some (inside base after) := by
  rcases frames with ⟨draft, outer⟩
  cases token with
  | closing =>
      rcases outer with _ | ⟨⟨kind, parent⟩, outer⟩
      · cases taken
      · cases taken
        rfl
  | repetition least most greedy =>
      rcases Option.map_eq_some_iff.mp taken with ⟨repeated, done, rfl⟩
      exact Option.map_eq_some_iff.mpr ⟨repeated, done, rfl⟩
  | _ =>
      cases taken
      rfl

theorem foldlM_take?_inside {frames after : Frames} {tokens : List Token}
    (base : List (Group × Draft)) (taken : tokens.foldlM take? frames = some after) :
    tokens.foldlM take? (inside base frames) = some (inside base after) := by
  induction tokens generalizing frames with
  | nil =>
      cases taken
      rfl
  | cons token tokens further =>
      rw [List.foldlM_cons, Option.bind_eq_bind] at taken ⊢
      rcases Option.bind_eq_some_iff.mp taken with ⟨between, first, others⟩
      rw [take?_inside base first]
      exact further others

end Frames

namespace Expression

/-- Tokens that write an expression write the body of a group when they stand between
its parentheses. -/
theorem ofTokens?_group (kind : Group) (before after : Anchor) {tokens : List Token}
    {expression : Expression} (written : ofTokens? tokens = some expression) :
    ofTokens? (.anchor before :: .opening kind :: tokens ++ [.closing, .anchor after]) =
      some (.sequence [.anchor before, .group kind expression, .anchor after]) := by
  rw [ofTokens?, Frames.assemble?_eq_foldlM tokens (.blank, [])] at written
  rcases Option.bind_eq_some_iff.mp written with ⟨⟨draft, outer⟩, taken, finished⟩
  cases outer with
  | cons _ _ => cases finished
  | nil =>
      cases finished
      have inner := Frames.foldlM_take?_inside [(kind, Draft.blank.push (.anchor before))] taken
      rw [ofTokens?, Frames.assemble?_eq_foldlM _ (.blank, []), List.foldlM_append]
      have opened : (.anchor before :: .opening kind :: tokens).foldlM Frames.take? (.blank, []) =
          some (draft, [(kind, Draft.blank.push (.anchor before))]) := inner
      rw [opened]
      rfl

/-- The stages of reading a pattern. -/
theorem read?_eq_some_iff {pattern : String} {expression : Expression} :
    read? pattern = some expression ↔
      ∃ tokens, scan pattern.toList = some tokens ∧ (groupNames tokens).Nodup ∧
        ofTokens? tokens = some expression ∧ expression.depth ≤ depthLimit := by
  unfold read?
  constructor
  · intro read
    split at read
    case h_1 => cases read
    case h_2 tokens scanned =>
      split at read
      case isFalse => cases read
      case isTrue distinct =>
        split at read
        case h_2 => cases read
        case h_1 expression written =>
          split at read
          case isFalse => cases read
          case isTrue shallow =>
            cases read
            exact ⟨tokens, scanned, distinct, written, shallow⟩
  · rintro ⟨tokens, scanned, distinct, written, shallow⟩
    simp only [scanned, if_pos distinct, written, if_pos shallow]

end Expression

/-- The stages of compiling a pattern, whatever the test of its size. -/
theorem Regex.compileWithin?_eq_some_iff {fits : Expression → Bool} {pattern : String}
    {regex : Regex} :
    Regex.compileWithin? fits pattern = some regex ↔
      ∃ expression flags, Expression.read? pattern = some expression ∧
        expression.meaning? .initial = some (regex, flags) ∧ fits expression = true := by
  unfold Regex.compileWithin?
  constructor
  · intro compiled
    split at compiled
    case h_1 => cases compiled
    case h_2 expression read =>
      split at compiled
      case h_1 => cases compiled
      case h_2 flags means =>
        split at compiled
        case isFalse => cases compiled
        case isTrue fitting =>
          cases compiled
          exact ⟨expression, flags, read, means, fitting⟩
  · rintro ⟨expression, flags, read, means, fitting⟩
    simp only [read, means, if_pos fitting]

end Pattern
end TaggedContent
