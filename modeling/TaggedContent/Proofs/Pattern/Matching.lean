import Mathlib.Data.List.Sort
import TaggedContent.Pattern.Matching

namespace TaggedContent
namespace Pattern

/-!
# The matcher follows every match

`Matches` says which stretches of a text an expression describes, and the matcher
computes from a set of starts the set of stops.  Here the two are shown to agree.
What one round of a repetition does is a relation between positions; the matcher
repeats it on whole sets, and with as many rounds as there are positions nothing
new can be reached any more.
-/

/-- So many steps after each other lead from one position to another. -/
inductive Rounds (step : Nat → Nat → Prop) : Nat → Nat → Nat → Prop where
  | done (position : Nat) : Rounds step 0 position position
  | more {rounds start middle stop : Nat} :
      step start middle → Rounds step rounds middle stop → Rounds step (rounds + 1) start stop

/-- Steps that may also stay where they are are fewer steps that do not. -/
theorem rounds_stay_iff {step : Nat → Nat → Prop} {bound start stop : Nat} :
    Rounds (fun before after => before = after ∨ step before after) bound start stop ↔
      ∃ rounds ≤ bound, Rounds step rounds start stop := by
  constructor
  · intro walked
    induction walked with
    | done position => exact ⟨0, Nat.le_refl 0, .done position⟩
    | more first _ further =>
        rcases further with ⟨rounds, few, others⟩
        rcases first with rfl | moved
        · exact ⟨rounds, Nat.le_succ_of_le few, others⟩
        · exact ⟨rounds + 1, Nat.succ_le_succ few, .more moved others⟩
  · rintro ⟨rounds, few, walked⟩
    induction bound generalizing rounds start with
    | zero =>
        obtain rfl := Nat.le_zero.mp few
        cases walked
        exact .done stop
    | succ bound further =>
        cases walked with
        | done => exact .more (.inl rfl) (further 0 (Nat.zero_le bound) (.done stop))
        | more moved others =>
            exact .more (.inr moved) (further _ (Nat.le_of_succ_le_succ few) others)

/-- A repetition describes as many rounds of its body as it allows. -/
theorem matches_rep_iff {text : Array Char} {least : Nat} {most : Option Nat} {body : Regex}
    {start stop : Nat} :
    Matches text (.rep least most body) start stop ↔
      ∃ rounds, least ≤ rounds ∧ (∀ bound ∈ most, rounds ≤ bound) ∧
        Rounds (Matches text body) rounds start stop := by
  constructor
  · intro found
    generalize repeated : Regex.rep least most body = regex at found
    induction found generalizing least most with
    | repDone position =>
        cases repeated
        exact ⟨0, Nat.le_refl 0, fun _ _ => Nat.zero_le _, .done position⟩
    | repRound allowed first _ _ further =>
        cases repeated
        rcases further rfl with ⟨rounds, enough, few, others⟩
        refine ⟨rounds + 1, Nat.le_add_of_sub_le enough, ?_, .more first others⟩
        rintro bound rfl
        have smaller := few (bound - 1) rfl
        have positive : bound ≠ 0 := fun none => allowed (by rw [none])
        omega
    | _ => cases repeated
  · rintro ⟨rounds, enough, few, walked⟩
    induction walked generalizing least most with
    | done position =>
        obtain rfl := Nat.le_zero.mp enough
        exact .repDone position
    | more first _ further =>
        refine .repRound ?_ first (further (Nat.sub_le_of_le_add enough) ?_)
        · rintro rfl
          exact absurd (few 0 rfl) (Nat.not_succ_le_zero _)
        · intro bound shrunk
          rcases Option.map_eq_some_iff.mp shrunk with ⟨most, rfl, rfl⟩
          exact Nat.le_sub_one_of_lt (few most rfl)

/-! ## Sets of positions -/

namespace Positions

/-- Strictly ascending positions of a text with `size` letters. -/
structure Within (size : Nat) (positions : List Nat) : Prop where
  ascending : positions.Pairwise (· < ·)
  bounded : ∀ position ∈ positions, position ≤ size

theorem within_range (size : Nat) : Within size (List.range (size + 1)) := by
  refine ⟨List.pairwise_lt_range, ?_⟩
  intro position there
  exact Nat.le_of_lt_succ (List.mem_range.mp there)

theorem Within.sublist {size : Nat} {positions others : List Nat} (within : Within size positions)
    (others_sublist : List.Sublist others positions) : Within size others :=
  ⟨within.ascending.sublist others_sublist,
    fun position there => within.bounded position (others_sublist.subset there)⟩

/-- A set with every position of another has it as a sublist. -/
theorem Within.sublist_of_subset {size : Nat} {fewer others : List Nat}
    (within : Within size fewer) (withinOthers : Within size others) (subset : fewer ⊆ others) :
    List.Sublist fewer others :=
  List.sublist_of_subperm_of_pairwise (List.subperm_of_subset within.ascending.nodup subset)
    within.ascending withinOthers.ascending

theorem Within.length_le {size : Nat} {positions : List Nat} (within : Within size positions) :
    positions.length ≤ size + 1 := by
  have subset : positions ⊆ List.range (size + 1) := by
    intro position there
    exact List.mem_range.mpr (Nat.lt_succ_of_le (within.bounded position there))
  simpa using (within.sublist_of_subset (within_range size) subset).length_le

theorem mem_mergeFrom {left : Nat} {lefts : List Nat} {others : List Nat → List Nat}
    (merges : ∀ rights position, position ∈ others rights ↔ position ∈ lefts ∨ position ∈ rights)
    (rights : List Nat) (position : Nat) :
    position ∈ mergeFrom left others rights ↔ position ∈ left :: lefts ∨ position ∈ rights := by
  induction rights with
  | nil => simp [mergeFrom, merges]
  | cons right rights further =>
      simp only [mergeFrom]
      split
      · simp [merges, or_assoc]
      · split
        · subst left
          simp only [List.mem_cons, merges]
          tauto
        · simp only [List.mem_cons, further]
          tauto

theorem mem_union {lefts rights : List Nat} {position : Nat} :
    position ∈ union lefts rights ↔ position ∈ lefts ∨ position ∈ rights := by
  induction lefts generalizing rights position with
  | nil => simp [union]
  | cons left lefts further => exact mem_mergeFrom (fun _ _ => further) rights position

theorem ascending_mergeFrom {left : Nat} {lefts : List Nat} {others : List Nat → List Nat}
    (merges : ∀ rights position, position ∈ others rights ↔ position ∈ lefts ∨ position ∈ rights)
    (ascends : ∀ rights, rights.Pairwise (· < ·) → (others rights).Pairwise (· < ·))
    (first : ∀ position ∈ lefts, left < position) {rights : List Nat}
    (ascending : rights.Pairwise (· < ·)) :
    (mergeFrom left others rights).Pairwise (· < ·) := by
  induction rights with
  | nil =>
      refine List.pairwise_cons.mpr ⟨?_, ascends [] .nil⟩
      intro position there
      simpa using ((merges [] position).mp there).imp_left (first position)
  | cons right rights further =>
      rcases List.pairwise_cons.mp ascending with ⟨above, ascendingRest⟩
      simp only [mergeFrom]
      split
      case isTrue before =>
        refine List.pairwise_cons.mpr ⟨?_, ascends _ ascending⟩
        intro position there
        rcases (merges _ position).mp there with there | there
        · exact first position there
        · rcases List.mem_cons.mp there with rfl | there
          · exact before
          · exact Nat.lt_trans before (above position there)
      case isFalse notBefore =>
        split
        case isTrue same =>
          subst left
          refine List.pairwise_cons.mpr ⟨?_, ascends _ ascendingRest⟩
          intro position there
          exact ((merges _ position).mp there).elim (first position) (above position)
        case isFalse different =>
          refine List.pairwise_cons.mpr ⟨?_, further ascendingRest⟩
          intro position there
          have after : right < left := by omega
          rcases (mem_mergeFrom merges rights position).mp there with there | there
          · rcases List.mem_cons.mp there with rfl | there
            · exact after
            · exact Nat.lt_trans after (first position there)
          · exact above position there

theorem ascending_union {lefts rights : List Nat} (ascending : lefts.Pairwise (· < ·))
    (ascendingRights : rights.Pairwise (· < ·)) : (union lefts rights).Pairwise (· < ·) := by
  induction lefts generalizing rights with
  | nil => exact ascendingRights
  | cons left lefts further =>
      rcases List.pairwise_cons.mp ascending with ⟨first, ascendingRest⟩
      exact ascending_mergeFrom (fun _ _ => mem_union) (fun _ => further ascendingRest) first
        ascendingRights

theorem Within.union {size : Nat} {lefts rights : List Nat} (within : Within size lefts)
    (withinRights : Within size rights) : Within size (union lefts rights) :=
  ⟨ascending_union within.ascending withinRights.ascending,
    fun position there => (mem_union.mp there).elim (within.bounded position)
      (withinRights.bounded position)⟩

/-! ## Steps on sets -/

/-- The function takes every set of positions to the set of those that one step
leads to. -/
structure Follows (size : Nat) (round : List Nat → List Nat) (step : Nat → Nat → Prop) :
    Prop where
  within : ∀ {starts}, Within size starts → Within size (round starts)
  mem_iff : ∀ {starts}, Within size starts → ∀ stop,
    stop ∈ round starts ↔ ∃ start ∈ starts, step start stop

/-- One round more, where every position is kept. -/
def grow (round : List Nat → List Nat) (starts : List Nat) : List Nat :=
  union starts (round starts)

theorem afterRounds_eq_iterate (round : List Nat → List Nat) (rounds : Nat)
    (starts : List Nat) : afterRounds round rounds starts = round^[rounds] starts := by
  induction rounds generalizing starts with
  | zero => rfl
  | succ rounds further =>
      simp only [afterRounds, Function.iterate_succ_apply]
      split
      case isTrue unchanged => rw [unchanged, Function.iterate_fixed unchanged]
      case isFalse => exact further (round starts)

theorem withinRounds_eq_iterate (round : List Nat → List Nat) (rounds : Nat)
    (starts : List Nat) : withinRounds round rounds starts = (grow round)^[rounds] starts := by
  induction rounds generalizing starts with
  | zero => rfl
  | succ rounds further =>
      simp only [withinRounds, Function.iterate_succ_apply]
      split
      case isTrue unchanged => rw [grow, unchanged, Function.iterate_fixed unchanged]
      case isFalse => exact further (grow round starts)

variable {size : Nat} {round : List Nat → List Nat} {step : Nat → Nat → Prop}

theorem Follows.iterate (follows : Follows size round step) (rounds : Nat) :
    Follows size round^[rounds] (Rounds step rounds) := by
  induction rounds with
  | zero =>
      refine ⟨fun within => within, ?_⟩
      intro starts _ stop
      constructor
      · exact fun there => ⟨stop, there, .done stop⟩
      · rintro ⟨start, there, walked⟩
        cases walked
        exact there
  | succ rounds further =>
      refine ⟨fun within => further.within (follows.within within), ?_⟩
      intro starts within stop
      rw [Function.iterate_succ_apply, further.mem_iff (follows.within within)]
      constructor
      · rintro ⟨middle, there, others⟩
        rcases (follows.mem_iff within middle).mp there with ⟨start, begun, first⟩
        exact ⟨start, begun, .more first others⟩
      · rintro ⟨start, begun, walked⟩
        cases walked with
        | more first others =>
            exact ⟨_, (follows.mem_iff within _).mpr ⟨start, begun, first⟩, others⟩

theorem Follows.grow (follows : Follows size round step) :
    Follows size (grow round) (fun before after => before = after ∨ step before after) := by
  refine ⟨fun within => within.union (follows.within within), ?_⟩
  intro starts within stop
  rw [Positions.grow, mem_union, follows.mem_iff within]
  constructor
  · rintro (there | ⟨start, there, first⟩)
    · exact ⟨stop, there, .inl rfl⟩
    · exact ⟨start, there, .inr first⟩
  · rintro ⟨start, there, rfl | first⟩
    · exact .inl there
    · exact .inr ⟨start, there, first⟩

/-- Growing goes on until it stops for good, and every set before that has at least
one position more than the one before it. -/
theorem grow_iterate_fixed_or_length (follows : Follows size round step) {starts : List Nat}
    (within : Within size starts) (rounds : Nat) :
    grow round ((grow round)^[rounds] starts) = (grow round)^[rounds] starts ∨
      rounds < (grow round ((grow round)^[rounds] starts)).length := by
  have longer : ∀ {places}, Within size places →
      grow round places = places ∨ places.length < (grow round places).length := by
    intro places placesWithin
    have larger := placesWithin.sublist_of_subset (follows.grow.within placesWithin)
      (fun _ there => mem_union.mpr (.inl there))
    rcases Nat.lt_or_ge places.length (grow round places).length with less | enough
    · exact .inr less
    · exact .inl (larger.eq_of_length_le enough).symm
  have reached := (follows.grow.iterate rounds).within within
  induction rounds with
  | zero => exact (longer within).imp_right (Nat.lt_of_le_of_lt (Nat.zero_le _))
  | succ rounds further =>
      rw [Function.iterate_succ_apply'] at reached ⊢
      rcases further ((follows.grow.iterate rounds).within within) with fixed | enough
      · exact .inl (by rw [fixed, fixed])
      · exact (longer reached).imp_right (fun more => by omega)

/-- After as many rounds as there are positions, every number of rounds is covered. -/
theorem mem_grow_iterate_iff (follows : Follows size round step) {starts : List Nat}
    (within : Within size starts) (stop : Nat) :
    stop ∈ (grow round)^[size + 1] starts ↔
      ∃ start ∈ starts, ∃ rounds, Rounds step rounds start stop := by
  have reached := (follows.grow.iterate (size + 1)).within within
  have fixed : grow round ((grow round)^[size + 1] starts) = (grow round)^[size + 1] starts := by
    rcases grow_iterate_fixed_or_length follows within (size + 1) with fixed | enough
    · exact fixed
    · have few := (follows.grow.within reached).length_le
      omega
  rw [(follows.grow.iterate (size + 1)).mem_iff within]
  constructor
  · rintro ⟨start, there, walked⟩
    rcases rounds_stay_iff.mp walked with ⟨rounds, -, walked⟩
    exact ⟨start, there, rounds, walked⟩
  · rintro ⟨start, there, rounds, walked⟩
    rw [← (follows.grow.iterate (size + 1)).mem_iff within]
    have present : start ∈ (Positions.grow round)^[size + 1] starts :=
      ((follows.grow.iterate (size + 1)).mem_iff within start).mpr
        ⟨start, there, rounds_stay_iff.mpr ⟨0, Nat.zero_le _, .done start⟩⟩
    clear there
    -- The grown set does not change any more, so no further round leaves it.
    induction walked with
    | done => exact present
    | more first _ further =>
        apply further
        rw [← fixed]
        exact mem_union.mpr (.inr ((follows.mem_iff reached _).mpr ⟨_, present, first⟩))

theorem Follows.afterRounds (follows : Follows size round step) (rounds : Nat) :
    Follows size (afterRounds round rounds) (Rounds step rounds) := by
  rw [funext (afterRounds_eq_iterate round rounds)]
  exact follows.iterate rounds

theorem Follows.withinRounds (follows : Follows size round step) (bound : Nat) :
    Follows size (withinRounds round bound)
      (fun start stop => ∃ rounds ≤ bound, Rounds step rounds start stop) := by
  rw [funext (withinRounds_eq_iterate round bound)]
  refine ⟨(follows.grow.iterate bound).within, ?_⟩
  intro starts within stop
  simp only [(follows.grow.iterate bound).mem_iff within, rounds_stay_iff]

theorem Follows.exhausted (follows : Follows size round step) :
    Follows size (Positions.withinRounds round (size + 1))
      (fun start stop => ∃ rounds, Rounds step rounds start stop) := by
  rw [funext (withinRounds_eq_iterate round (size + 1))]
  exact ⟨(follows.grow.iterate (size + 1)).within, mem_grow_iterate_iff follows⟩

theorem Follows.union {other : List Nat → List Nat} {otherStep : Nat → Nat → Prop}
    (follows : Follows size round step) (followsOther : Follows size other otherStep) :
    Follows size (fun starts => Positions.union (round starts) (other starts))
      (fun start stop => step start stop ∨ otherStep start stop) := by
  refine ⟨fun within => (follows.within within).union (followsOther.within within), ?_⟩
  intro starts within stop
  rw [mem_union, follows.mem_iff within, followsOther.mem_iff within]
  constructor
  · rintro (⟨start, there, moved⟩ | ⟨start, there, moved⟩)
    · exact ⟨start, there, .inl moved⟩
    · exact ⟨start, there, .inr moved⟩
  · rintro ⟨start, there, moved | moved⟩
    · exact .inl ⟨start, there, moved⟩
    · exact .inr ⟨start, there, moved⟩

/-- Two steps after each other. -/
theorem Follows.comp {second : List Nat → List Nat} {next : Nat → Nat → Prop}
    (follows : Follows size round step) (followsNext : Follows size second next) :
    Follows size (fun starts => second (round starts))
      (fun start stop => ∃ middle, step start middle ∧ next middle stop) := by
  refine ⟨fun within => followsNext.within (follows.within within), ?_⟩
  intro starts within stop
  rw [followsNext.mem_iff (follows.within within)]
  constructor
  · rintro ⟨middle, there, after⟩
    rcases (follows.mem_iff within middle).mp there with ⟨start, begun, before⟩
    exact ⟨start, begun, middle, before, after⟩
  · rintro ⟨start, begun, middle, before, after⟩
    exact ⟨middle, (follows.mem_iff within middle).mpr ⟨start, begun, before⟩, after⟩

theorem Follows.congr {other : Nat → Nat → Prop} (follows : Follows size round step)
    (same : ∀ start stop, step start stop ↔ other start stop) : Follows size round other := by
  refine ⟨follows.within, ?_⟩
  intro starts within stop
  simp only [follows.mem_iff within, same]

end Positions

theorem rounds_add_iff {step : Nat → Nat → Prop} {first second start stop : Nat} :
    (∃ middle, Rounds step first start middle ∧ Rounds step second middle stop) ↔
      Rounds step (first + second) start stop := by
  constructor
  · rintro ⟨middle, before, after⟩
    induction before with
    | done => rwa [Nat.zero_add]
    | more moved _ further =>
        rw [Nat.add_right_comm]
        exact .more moved (further after)
  · intro walked
    induction first generalizing start with
    | zero => exact ⟨start, .done start, by rwa [Nat.zero_add] at walked⟩
    | succ first further =>
        rw [Nat.add_right_comm] at walked
        cases walked with
        | more moved others =>
            rcases further others with ⟨middle, before, after⟩
            exact ⟨middle, .more moved before, after⟩

/-! ## The matcher -/

namespace Regex

/-- No repetition asks for more rounds than it allows. -/
def Ordered : Regex → Prop
  | .empty => True
  | .chars _ => True
  | .look _ => True
  | .capture body => body.Ordered
  | .seq first second => first.Ordered ∧ second.Ordered
  | .alt left right => left.Ordered ∧ right.Ordered
  | .rep least most body => (∀ bound ∈ most, least ≤ bound) ∧ body.Ordered

/-- Past the letter at the position, when the set accepts it. -/
def advance? (text : Array Char) (set : CodePoints) (position : Nat) : Option Nat :=
  text[position]?.bind fun letter => if set.contains letter then some (position + 1) else none

theorem stops_chars (text : Array Char) (set : CodePoints) (starts : List Nat) :
    stops text (.chars set) starts = starts.filterMap (advance? text set) := by
  rw [stops]
  refine congrFun (congrArg List.filterMap (funext fun position => ?_)) starts
  unfold advance?
  cases text[position]? <;> rfl

theorem advance?_eq_some_iff {text : Array Char} {set : CodePoints} {start stop : Nat} :
    advance? text set start = some stop ↔ Matches text (.chars set) start stop := by
  constructor
  · intro moved
    rcases Option.bind_eq_some_iff.mp moved with ⟨letter, there, accepted⟩
    split at accepted
    case isTrue contained =>
      cases accepted
      exact .chars there contained
    case isFalse => cases accepted
  · intro found
    cases found with
    | chars there contained => simp only [advance?, there, Option.bind_some, if_pos contained]

/-- From a set of starts the matcher computes the stops of all matches. -/
theorem follows_stops (text : Array Char) {regex : Regex} (ordered : regex.Ordered) :
    Positions.Follows text.size (regex.stops text) (Matches text regex) := by
  induction regex with
  | empty =>
      refine ⟨fun within => within, ?_⟩
      intro starts _ stop
      constructor
      · exact fun there => ⟨stop, there, .empty stop⟩
      · rintro ⟨start, there, found⟩
        cases found
        exact there
  | chars set =>
      rw [funext (stops_chars text set)]
      constructor
      · intro starts within
        refine ⟨List.pairwise_filterMap.mpr (within.ascending.imp ?_), ?_⟩
        · intro start other before stop moved otherStop otherMoved
          cases advance?_eq_some_iff.mp moved
          cases advance?_eq_some_iff.mp otherMoved
          exact Nat.succ_lt_succ before
        · intro stop there
          rcases List.mem_filterMap.mp there with ⟨start, -, moved⟩
          cases advance?_eq_some_iff.mp moved with
          | chars present => exact (Array.getElem?_eq_some_iff.mp present).1
      · intro starts within stop
        rw [List.mem_filterMap]
        exact exists_congr fun start => and_congr_right fun _ => advance?_eq_some_iff
  | look test =>
      refine ⟨fun within => within.sublist List.filter_sublist, ?_⟩
      intro starts _ stop
      rw [stops, List.mem_filter]
      constructor
      · exact fun ⟨there, holds⟩ => ⟨stop, there, .look holds⟩
      · rintro ⟨start, there, found⟩
        cases found with
        | look holds => exact ⟨there, holds⟩
  | capture body followsBody =>
      refine (followsBody ordered).congr ?_
      intro start stop
      constructor
      · exact .capture
      · rintro (_ | _ | _ | inner)
        exact inner
  | seq first second followsFirst followsSecond =>
      refine ((followsFirst ordered.1).comp (followsSecond ordered.2)).congr ?_
      intro start stop
      constructor
      · rintro ⟨middle, before, after⟩
        exact .seq before after
      · intro found
        cases found with
        | seq before after => exact ⟨_, before, after⟩
  | alt left right followsLeft followsRight =>
      refine ((followsLeft ordered.1).union (followsRight ordered.2)).congr ?_
      intro start stop
      constructor
      · exact fun found => found.elim .altLeft .altRight
      · intro found
        cases found with
        | altLeft found => exact .inl found
        | altRight found => exact .inr found
  | rep least most body followsBody =>
      have follows := followsBody ordered.2
      cases most with
      | none =>
          refine ((follows.afterRounds least).comp follows.exhausted).congr ?_
          intro start stop
          rw [matches_rep_iff]
          constructor
          · rintro ⟨middle, required, further, others⟩
            exact ⟨least + further, Nat.le_add_right _ _, by simp,
              rounds_add_iff.mp ⟨middle, required, others⟩⟩
          · rintro ⟨rounds, enough, -, walked⟩
            rw [← Nat.add_sub_of_le enough, ← rounds_add_iff] at walked
            rcases walked with ⟨middle, required, others⟩
            exact ⟨middle, required, rounds - least, others⟩
      | some most =>
          refine ((follows.afterRounds least).comp (follows.withinRounds (most - least))).congr ?_
          intro start stop
          rw [matches_rep_iff]
          have allowed : least ≤ most := ordered.1 most rfl
          constructor
          · rintro ⟨middle, required, further, few, others⟩
            refine ⟨least + further, Nat.le_add_right _ _, ?_,
              rounds_add_iff.mp ⟨middle, required, others⟩⟩
            rintro bound ⟨⟩
            omega
          · rintro ⟨rounds, enough, few, walked⟩
            rw [← Nat.add_sub_of_le enough, ← rounds_add_iff] at walked
            rcases walked with ⟨middle, required, others⟩
            exact ⟨middle, required, rounds - least,
              Nat.sub_le_sub_right (few most rfl) least, others⟩

/-- The matcher answers whether some stretch of the text is described. -/
theorem isMatch_iff {regex : Regex} (ordered : regex.Ordered) (text : String) :
    regex.isMatch text = true ↔
      ∃ start ≤ text.toList.length, ∃ stop, Matches text.toList.toArray regex start stop := by
  have members := (follows_stops text.toList.toArray ordered).mem_iff (Positions.within_range _)
  rw [isMatch, Bool.not_eq_true', List.isEmpty_eq_false_iff_exists_mem]
  constructor
  · rintro ⟨stop, there⟩
    rcases (members stop).mp there with ⟨start, within, found⟩
    exact ⟨start, Nat.le_of_lt_succ (List.mem_range.mp within), stop, found⟩
  · rintro ⟨start, within, stop, found⟩
    exact ⟨stop, (members stop).mpr ⟨start, List.mem_range.mpr (Nat.lt_succ_of_le within), found⟩⟩

end Regex

end Pattern
end TaggedContent
