import TaggedContent.Proofs.Pattern.Assembly
import TaggedContent.Proofs.Pattern.Matching

namespace TaggedContent
namespace Pattern

/-!
# Bounds of repetitions

A counted repetition with its bounds the wrong way round is no token.  From there
the order of the bounds is kept by every stage: by the scanner, by the assembling
of an expression and by its translation.  So every expression that a pattern
denotes is one that the matcher follows.
-/

/-- A repetition asks for no more rounds than it allows. -/
def Token.Ordered : Token → Prop
  | .repetition least most _ => ∀ bound ∈ most, least ≤ bound
  | _ => True

/-! ## Tokens -/

theorem hexEscape?_ordered {verbose : Bool} {count : Nat} {letters rest : List Char}
    {token : Token} (read : hexEscape? verbose count letters = some (token, rest)) :
    token.Ordered := by
  unfold hexEscape? at read
  split at read
  · split at read
    · split at read
      · cases read
      · rcases Option.map_eq_some_iff.mp read with ⟨letter, -, same⟩
        cases same
        trivial
    · cases read
  · rcases Option.bind_eq_some_iff.mp read with ⟨digits, -, read⟩
    rcases Option.map_eq_some_iff.mp read with ⟨letter, -, same⟩
    cases same
    trivial

theorem propertyEscape?_ordered {verbose negated : Bool} {letters rest : List Char}
    {token : Token} (read : propertyEscape? verbose negated letters = some (token, rest)) :
    token.Ordered := by
  unfold propertyEscape? at read
  split at read
  · split at read
    · cases read
      trivial
    · cases read
  · split at read
    · cases read
    · cases read
      trivial
  · cases read

theorem boundaryEscape?_ordered {verbose : Bool} {letters rest : List Char} {token : Token}
    (read : boundaryEscape? verbose letters = some (token, rest)) : token.Ordered := by
  unfold boundaryEscape? at read
  split at read
  · split at read
    · cases read
    · split at read
      · split at read
        · rcases Option.map_eq_some_iff.mp read with ⟨test, -, same⟩
          cases same
          trivial
        · cases read
      · cases read
        trivial
  · cases read
    trivial

theorem escape?_ordered {verbose : Bool} {letters rest : List Char} {token : Token}
    (read : escape? verbose letters = some (token, rest)) : token.Ordered := by
  cases letters with
  | nil => cases read
  | cons letter letters =>
      simp only [escape?] at read
      split at read
      case h_1 => exact hexEscape?_ordered read
      case h_2 => exact hexEscape?_ordered read
      case h_3 => exact hexEscape?_ordered read
      case h_4 => exact propertyEscape?_ordered read
      case h_5 => exact propertyEscape?_ordered read
      case h_20 => exact boundaryEscape?_ordered read
      case h_24 =>
        split at read
        · cases read
          trivial
        · cases read
      all_goals
        cases read
        trivial

theorem bracketWithin_ordered {verbose : Bool} {steps : Nat} {bracket : Bracket}
    {outer : List Bracket} {letters rest : List Char} {token : Token}
    (read : bracketWithin verbose steps bracket outer letters = some (token, rest)) :
    token.Ordered := by
  induction steps generalizing bracket outer letters with
  | zero => cases read
  | succ steps further =>
      simp only [bracketWithin] at read
      split at read
      · cases read
      · split at read
        · exact further read
        · exact further read
      · split at read
        · cases read
          trivial
        · exact further read
      · exact further read
      · exact further read
      · exact further read
      · split at read
        · exact further read
        · cases read

theorem opening?_ordered {verbose : Bool} {letters rest : List Char} {token : Token}
    (read : opening? verbose letters = some (token, rest)) : token.Ordered := by
  unfold opening? at read
  split at read
  case h_5 | h_6 =>
    rcases Option.map_eq_some_iff.mp read with ⟨named, -, same⟩
    cases same
    trivial
  case h_7 =>
    split at read
    · cases read
    · split at read
      · cases read
        trivial
      · split at read
        · cases read
        · cases read
          trivial
  case h_8 =>
    cases read
    trivial
  all_goals cases read

theorem ofRounds_ordered {least : Nat} {most : Option Nat} {letters rest : List Char}
    {token : Token} (bounds : ∀ bound ∈ most, least ≤ bound)
    (read : Token.ofRounds least most letters = (token, rest)) : token.Ordered := by
  unfold Token.ofRounds at read
  split at read <;>
    · cases read
      exact bounds

theorem counted?_ordered {verbose : Bool} {letters rest : List Char} {token : Token}
    (read : counted? verbose letters = some (token, rest)) : token.Ordered := by
  rcases Option.bind_eq_some_iff.mp read with ⟨⟨least, after⟩, -, read⟩
  dsimp only at read
  split at read
  · exact ofRounds_ordered (by simp) (Option.some.inj read)
  · split at read
    · exact ofRounds_ordered (by simp) (Option.some.inj read)
    · split at read
      · split at read
        case isTrue allowed =>
          exact ofRounds_ordered (by simpa using allowed) (Option.some.inj read)
        case isFalse => cases read
      · cases read
  · cases read

theorem Token.next?_ordered {verbose : Bool} {letter : Char} {letters rest : List Char}
    {token : Token} (read : Token.next? verbose letter letters = some (token, rest)) :
    token.Ordered := by
  unfold Token.next? at read
  split at read
  case h_1 => exact opening?_ordered read
  case h_4 => exact bracketWithin_ordered read
  case h_5 | h_6 | h_7 => exact ofRounds_ordered (by simp) (Option.some.inj read)
  case h_8 => exact counted?_ordered read
  case h_9 => exact escape?_ordered read
  all_goals
    cases read
    simp [Token.Ordered]

theorem scanWithin_ordered {steps : Nat} {layout : Layout} {letters : List Char}
    {tokens : List Token} (scanned : scanWithin steps layout letters = some tokens) :
    ∀ token ∈ tokens, token.Ordered := by
  induction steps generalizing layout letters tokens with
  | zero => cases scanned
  | succ steps further =>
      simp only [scanWithin] at scanned
      split at scanned
      · split at scanned <;> cases scanned
        intro token there
        cases there
      · rcases Option.bind_eq_some_iff.mp scanned with ⟨⟨token, rest⟩, read, scanned⟩
        rcases Option.bind_eq_some_iff.mp scanned with ⟨after, -, scanned⟩
        rcases Option.map_eq_some_iff.mp scanned with ⟨others, scannedRest, rfl⟩
        exact List.forall_mem_cons.mpr ⟨Token.next?_ordered read, further scannedRest⟩

/-! ## Expressions -/

namespace Expression

mutual

/-- Every repetition in the expression asks for no more rounds than it allows. -/
def Ordered : Expression → Prop
  | repetition least most _ body => (∀ bound ∈ most, least ≤ bound) ∧ Ordered body
  | group _ body => Ordered body
  | alternation branches => OrderedAll branches
  | sequence items => OrderedAll items
  | _ => True

def OrderedAll : List Expression → Prop
  | [] => True
  | expression :: expressions => Ordered expression ∧ OrderedAll expressions

end

theorem orderedAll_iff {expressions : List Expression} :
    OrderedAll expressions ↔ ∀ expression ∈ expressions, expression.Ordered := by
  induction expressions with
  | nil => simp [OrderedAll]
  | cons expression expressions further => simp [OrderedAll, further]

theorem ordered_ofItems {items : List Expression} (ordered : ∀ item ∈ items, item.Ordered) :
    (ofItems items).Ordered := by
  unfold ofItems
  split
  · trivial
  · exact ordered _ (List.mem_singleton_self _)
  · exact orderedAll_iff.mpr ordered

theorem ordered_ofBranches {branches : List Expression}
    (ordered : ∀ branch ∈ branches, branch.Ordered) : (ofBranches branches).Ordered := by
  unfold ofBranches
  split
  · exact ordered _ (List.mem_singleton_self _)
  · exact orderedAll_iff.mpr ordered

end Expression

namespace Draft

structure Ordered (draft : Draft) : Prop where
  branches : ∀ branch ∈ draft.branches, branch.Ordered
  items : ∀ item ∈ draft.items, item.Ordered

variable {draft : Draft}

theorem Ordered.push (ordered : draft.Ordered) {item : Expression} (itemOrdered : item.Ordered) :
    (draft.push item).Ordered :=
  ⟨ordered.branches, List.forall_mem_cons.mpr ⟨itemOrdered, ordered.items⟩⟩

theorem Ordered.branch (ordered : draft.Ordered) : draft.branch.Ordered :=
  Expression.ordered_ofItems fun item there => ordered.items item (List.mem_reverse.mp there)

theorem Ordered.split (ordered : draft.Ordered) : draft.split.Ordered :=
  ⟨List.forall_mem_cons.mpr ⟨ordered.branch, ordered.branches⟩, by simp [Draft.split]⟩

theorem Ordered.finish (ordered : draft.Ordered) : draft.finish.Ordered :=
  Expression.ordered_ofBranches fun branch there =>
    ordered.split.branches branch (List.mem_reverse.mp there)

theorem Ordered.repeated (ordered : draft.Ordered) {least : Nat} {most : Option Nat}
    {greedy : Bool} {after : Draft} (bounds : ∀ bound ∈ most, least ≤ bound)
    (repeated : draft.repeated? least most greedy = some after) : after.Ordered := by
  unfold repeated? at repeated
  split at repeated
  · cases repeated
  · cases repeated
  case h_3 item items _ present =>
    cases repeated
    have itemsOrdered := ordered.items
    rw [present] at itemsOrdered
    rcases List.forall_mem_cons.mp itemsOrdered with ⟨itemOrdered, others⟩
    exact ⟨ordered.branches, List.forall_mem_cons.mpr ⟨⟨bounds, itemOrdered⟩, others⟩⟩

end Draft

namespace Frames

/-- Every draft of the frames is ordered. -/
structure Ordered (frames : Frames) : Prop where
  inner : frames.1.Ordered
  outer : ∀ frame ∈ frames.2, frame.2.Ordered

theorem Ordered.take {frames after : Frames} {token : Token} (ordered : frames.Ordered)
    (tokenOrdered : token.Ordered) (taken : frames.take? token = some after) : after.Ordered := by
  rcases frames with ⟨draft, outer⟩
  cases token with
  | closing =>
      rcases outer with _ | ⟨⟨kind, parent⟩, outer⟩
      · cases taken
      · cases taken
        rcases List.forall_mem_cons.mp ordered.outer with ⟨parentOrdered, others⟩
        exact ⟨parentOrdered.push ordered.inner.finish, others⟩
  | repetition least most greedy =>
      rcases Option.map_eq_some_iff.mp taken with ⟨repeated, done, rfl⟩
      exact ⟨ordered.inner.repeated tokenOrdered done, ordered.outer⟩
  | opening kind =>
      cases taken
      exact ⟨⟨by simp [Draft.blank], by simp [Draft.blank]⟩,
        List.forall_mem_cons.mpr ⟨ordered.inner, ordered.outer⟩⟩
  | bar =>
      cases taken
      exact ⟨ordered.inner.split, ordered.outer⟩
  | _ =>
      cases taken
      exact ⟨ordered.inner.push trivial, ordered.outer⟩

theorem Ordered.foldlM_take {frames after : Frames} {tokens : List Token}
    (ordered : frames.Ordered) (tokensOrdered : ∀ token ∈ tokens, token.Ordered)
    (taken : tokens.foldlM take? frames = some after) : after.Ordered := by
  induction tokens generalizing frames with
  | nil =>
      cases taken
      exact ordered
  | cons token tokens further =>
      rw [List.foldlM_cons, Option.bind_eq_bind] at taken
      rcases Option.bind_eq_some_iff.mp taken with ⟨between, first, others⟩
      rcases List.forall_mem_cons.mp tokensOrdered with ⟨tokenOrdered, othersOrdered⟩
      exact further (ordered.take tokenOrdered first) othersOrdered others

end Frames

theorem Expression.ofTokens?_ordered {tokens : List Token} {expression : Expression}
    (tokensOrdered : ∀ token ∈ tokens, token.Ordered)
    (written : Expression.ofTokens? tokens = some expression) : expression.Ordered := by
  rw [ofTokens?, Frames.assemble?_eq_foldlM tokens (.blank, [])] at written
  rcases Option.bind_eq_some_iff.mp written with ⟨⟨draft, outer⟩, taken, finished⟩
  have start : Frames.Ordered (.blank, []) :=
    ⟨⟨by simp [Draft.blank], by simp [Draft.blank]⟩, by simp⟩
  cases outer with
  | cons _ _ => cases finished
  | nil =>
      cases finished
      exact (start.foldlM_take tokensOrdered taken).inner.finish

/-! ## Regular expressions -/

namespace Regex

theorem ordered_repetition {least : Nat} {most : Option Nat} {body : Regex}
    (bounds : ∀ bound ∈ most, least ≤ bound) (ordered : body.Ordered) :
    (repetition least most body).Ordered := by
  have shrunk : ∀ bound ∈ (if isZeroWidth body then some ((most.map (min · 1)).getD 1) else most),
      (if isZeroWidth body then min least 1 else least) ≤ bound := by
    intro bound allowed
    split at allowed
    case isTrue zeroWidth =>
      rw [if_pos zeroWidth]
      obtain rfl := Option.some.inj allowed
      cases most with
      | none => exact Nat.min_le_right least 1
      | some most =>
          have allowed : least ≤ most := bounds most rfl
          exact le_min (Nat.le_trans (Nat.min_le_left least 1) allowed) (Nat.min_le_right least 1)
    case isFalse wide =>
      rw [if_neg wide]
      exact bounds bound allowed
  simp only [repetition]
  generalize (if isZeroWidth body then min least 1 else least) = fewest at shrunk ⊢
  generalize (if isZeroWidth body then some _ else most) = bound at shrunk ⊢
  split
  · trivial
  · split
    · exact ordered
    · exact ⟨shrunk, ordered⟩

theorem ordered_sequence {items : List Regex} (ordered : ∀ item ∈ items, item.Ordered) :
    (sequence items).Ordered := by
  induction items using sequence.induct with
  | case1 => trivial
  | case2 item => exact ordered item (List.mem_singleton_self item)
  | case3 item items several further =>
      rcases List.forall_mem_cons.mp ordered with ⟨first, others⟩
      rw [sequence]
      · exact ⟨first, further others⟩
      · exact several

theorem ordered_branches {parts : List Regex} (ordered : ∀ part ∈ parts, part.Ordered) :
    (branches parts).Ordered := by
  induction parts using branches.induct with
  | case1 => trivial
  | case2 part => exact ordered part (List.mem_singleton_self part)
  | case3 part parts several further =>
      rcases List.forall_mem_cons.mp ordered with ⟨first, others⟩
      rw [branches]
      · exact ⟨first, further others⟩
      · exact several

theorem ordered_alternation {parts : List Regex} (ordered : ∀ part ∈ parts, part.Ordered) :
    (alternation parts).Ordered := by
  unfold alternation
  split
  · trivial
  · exact ordered_branches ordered

end Regex

namespace Expression

mutual

theorem translate?_ordered {flags after : Flags} {regex : Regex} :
    {expression : Expression} → expression.Ordered →
      expression.translate? Regex.target flags = some (regex, after) → regex.Ordered
  | .empty, _, means => by
      cases means
      trivial
  | .flags _, _, means => by
      cases means
      trivial
  | .anchor _, _, means => by
      cases means
      trivial
  | .literal _ _, _, means | .dot, _, means | .shorthand _ _, _, means | .property _ _, _, means
  | .bracketed _ _, _, means => by
      rcases Option.map_eq_some_iff.mp means with ⟨set, -, same⟩
      cases same
      trivial
  | .repetition _ _ _ _, ordered, means => by
      rcases Option.map_eq_some_iff.mp means with ⟨⟨body, last⟩, inner, same⟩
      cases same
      exact Regex.ordered_repetition ordered.1 (translate?_ordered ordered.2 inner)
  | .group (.capture _) body, ordered, means | .group (.scoped _) body, ordered, means => by
      have bodyOrdered : body.Ordered := ordered
      rcases Option.map_eq_some_iff.mp means with ⟨⟨regex, last⟩, inner, same⟩
      cases same
      have inside : regex.Ordered := translate?_ordered bodyOrdered inner
      exact inside
  | .alternation _, ordered, means => by
      rcases Option.map_eq_some_iff.mp means with ⟨⟨parts, last⟩, inner, same⟩
      cases same
      exact Regex.ordered_alternation (translateAll?_ordered ordered inner)
  | .sequence _, ordered, means => by
      rcases Option.map_eq_some_iff.mp means with ⟨⟨parts, last⟩, inner, same⟩
      cases same
      exact Regex.ordered_sequence fun item there =>
        translateAll?_ordered ordered inner item (List.mem_of_mem_filter there)

theorem translateAll?_ordered {flags after : Flags} {regexes : List Regex} :
    {expressions : List Expression} → OrderedAll expressions →
      translateAll? Regex.target flags expressions = some (regexes, after) → ∀ regex ∈ regexes, regex.Ordered
  | [], _, means => by
      cases means
      simp
  | expression :: expressions, ordered, means => by
      rcases Option.bind_eq_some_iff.mp means with ⟨⟨regex, between⟩, first, means⟩
      rcases Option.map_eq_some_iff.mp means with ⟨⟨others, last⟩, rest, same⟩
      cases same
      exact List.forall_mem_cons.mpr
        ⟨translate?_ordered ordered.1 first, translateAll?_ordered ordered.2 rest⟩

end

theorem read?_ordered {pattern : String} {expression : Expression}
    (read : read? pattern = some expression) : expression.Ordered := by
  rcases read?_eq_some_iff.mp read with ⟨tokens, scanned, -, written, -⟩
  exact ofTokens?_ordered (scanWithin_ordered scanned) written

end Expression

/-- What a pattern denotes is an expression that the matcher follows. -/
theorem Regex.compile?_ordered {pattern : String} {regex : Regex}
    (compiled : Regex.compile? pattern = some regex) : regex.Ordered := by
  rcases compileWithin?_eq_some_iff.mp compiled with ⟨expression, flags, read, means, -⟩
  exact Expression.translate?_ordered (Expression.read?_ordered read) means

end Pattern
end TaggedContent
