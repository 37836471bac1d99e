import Mathlib.Data.List.Basic
import TaggedContent.Proofs.Tag.EditDistance

namespace TaggedContent
namespace Tag

/-!
# Suggestions are the nearest names

A stably sorted list is determined by the list that it sorts: its elements ascend, and those
of one size are in the order in which they were given.  The names at one distance after
another are sorted in this way, as is the result of a stable sort, so both are the same list
and suggestions are the first three of it.
-/

section

variable {α : Type u} {measure : α → Nat}

/-- The elements that were given, from small to large, and those of one size in the order
in which they were given. -/
structure StablySorted (measure : α → Nat) (given sorted : List α) : Prop where
  ascending : sorted.Pairwise fun first second => measure first ≤ measure second
  stable (amount : Nat) : (sorted.filter fun element => measure element = amount) =
    given.filter fun element => measure element = amount

/-! ## A stable order is unique -/

theorem mem_iff_of_classes {left right : List α}
    (classes : ∀ amount, (left.filter fun element => measure element = amount) =
      right.filter fun element => measure element = amount) (element : α) :
    element ∈ left ↔ element ∈ right := by
  have here := congrArg (element ∈ ·) (classes (measure element))
  simpa only [List.mem_filter, decide_true, and_true, eq_iff_iff] using here

/-- By induction over both lists: their heads are of the least size, so each is the first of
the same class. -/
theorem eq_of_ascending {left right : List α}
    (ascending : left.Pairwise fun first second => measure first ≤ measure second)
    (ascending' : right.Pairwise fun first second => measure first ≤ measure second)
    (classes : ∀ amount, (left.filter fun element => measure element = amount) =
      right.filter fun element => measure element = amount) : left = right := by
  induction left generalizing right with
  | nil =>
      apply Eq.symm
      apply List.eq_nil_iff_forall_not_mem.mpr
      intro element member
      exact List.not_mem_nil ((mem_iff_of_classes classes element).mpr member)
  | cons head tail inductionHypothesis =>
      rcases right with _ | ⟨head', tail'⟩
      · exact absurd ((mem_iff_of_classes classes head).mp List.mem_cons_self) List.not_mem_nil
      · rw [List.pairwise_cons] at ascending ascending'
        have below : measure head ≤ measure head' := by
          rcases List.mem_cons.mp ((mem_iff_of_classes classes head').mpr List.mem_cons_self) with
            same | later
          · exact Nat.le_of_eq (congrArg measure same.symm)
          · exact ascending.1 head' later
        have above : measure head' ≤ measure head := by
          rcases List.mem_cons.mp ((mem_iff_of_classes classes head).mp List.mem_cons_self) with
            same | later
          · exact Nat.le_of_eq (congrArg measure same.symm)
          · exact ascending'.1 head later
        have size : measure head' = measure head := Nat.le_antisymm above below
        have heads := classes (measure head)
        rw [List.filter_cons_of_pos (by simp), List.filter_cons_of_pos (by simpa using size),
          List.cons.injEq] at heads
        have tails : ∀ amount, (tail.filter fun element => measure element = amount) =
            tail'.filter fun element => measure element = amount := by
          intro amount
          by_cases here : measure head = amount
          · exact here ▸ heads.2
          · have others := classes amount
            rwa [List.filter_cons_of_neg (by simpa using here),
              List.filter_cons_of_neg (by simpa [size] using here)] at others
        rw [heads.1, inductionHypothesis ascending.2 ascending'.2 tails]

theorem StablySorted.unique {given sorted other : List α}
    (isSorted : StablySorted measure given sorted) (otherSorted : StablySorted measure given other) :
    other = sorted :=
  eq_of_ascending otherSorted.ascending isSorted.ascending fun amount =>
    (otherSorted.stable amount).trans (isSorted.stable amount).symm

/-! ## Two ways to it -/

theorem stablySorted_mergeSort (measure : α → Nat) (given : List α) :
    StablySorted measure given
      (given.mergeSort fun first second => measure first ≤ measure second) := by
  have transitive : ∀ first second third : α, decide (measure first ≤ measure second) = true →
      decide (measure second ≤ measure third) = true →
      decide (measure first ≤ measure third) = true := by
    intro first second third
    simp only [decide_eq_true_eq]
    exact Nat.le_trans
  have total : ∀ first second : α, (decide (measure first ≤ measure second) ||
      decide (measure second ≤ measure first)) = true := by
    intro first second
    simp only [Bool.or_eq_true, decide_eq_true_eq]
    exact Nat.le_total _ _
  constructor
  · simpa only [decide_eq_true_eq] using List.pairwise_mergeSort transitive total given
  · intro amount
    -- A class is ascending as it stands, so the sort leaves it as a part of the list.
    have ascending : (given.filter fun element => measure element = amount).Pairwise
        fun first second => decide (measure first ≤ measure second) = true := by
      apply List.pairwise_of_forall_mem_list
      intro first inClass second inClass'
      simp only [List.mem_filter, decide_eq_true_eq] at inClass inClass' ⊢
      omega
    have kept := (List.sublist_mergeSort transitive total ascending List.filter_sublist).filter
      fun element => decide (measure element = amount)
    have sameLength := ((List.mergeSort_perm given fun first second =>
      decide (measure first ≤ measure second)).filter fun element =>
        decide (measure element = amount)).length_eq
    rw [List.filter_filter] at kept
    simp only [Bool.and_self] at kept
    exact (kept.eq_of_length_le (Nat.le_of_eq sameLength)).symm

/-- A class of the classes that are put one after the other, up to a limit, is what it was
unless it is beyond the limit. -/
theorem filter_classes (measure : α → Nat) (given : List α) (limit amount : Nat) :
    (((List.range limit).flatMap fun missed =>
        given.filter fun element => measure element = missed + 1).filter
      fun element => measure element = amount) =
      given.filter fun element =>
        measure element = amount ∧ 1 ≤ measure element ∧ measure element ≤ limit := by
  induction limit with
  | zero =>
      apply Eq.symm
      apply List.filter_eq_nil_iff.mpr
      intro element _
      rw [decide_eq_true_eq]
      omega
  | succ limit inductionHypothesis =>
      rw [List.range_succ, List.flatMap_append, List.flatMap_singleton, List.filter_append,
        inductionHypothesis, List.filter_filter]
      by_cases last : amount = limit + 1
      · have before : (given.filter fun element =>
            measure element = amount ∧ 1 ≤ measure element ∧ measure element ≤ limit) = [] := by
          apply List.filter_eq_nil_iff.mpr
          intro element _
          rw [decide_eq_true_eq]
          omega
        rw [before, List.nil_append]
        apply List.filter_congr
        intro element _
        rw [← Bool.decide_and, decide_eq_decide]
        omega
      · have after : (given.filter fun element =>
            decide (measure element = amount) && decide (measure element = limit + 1)) = [] := by
          apply List.filter_eq_nil_iff.mpr
          intro element _
          rw [← Bool.decide_and, decide_eq_true_eq]
          omega
        rw [after, List.append_nil]
        apply List.filter_congr
        intro element _
        rw [decide_eq_decide]
        omega

/-- To put the classes one after the other is to sort what is in them. -/
theorem stablySorted_classes (measure : α → Nat) (given : List α) (limit : Nat) :
    StablySorted measure
      (given.filter fun element => 1 ≤ measure element ∧ measure element ≤ limit)
      ((List.range limit).flatMap fun missed =>
        given.filter fun element => measure element = missed + 1) := by
  constructor
  · rw [List.pairwise_flatMap]
    constructor
    · intro missed _
      apply List.pairwise_of_forall_mem_list
      intro first inClass second inClass'
      rw [List.mem_filter, decide_eq_true_eq] at inClass inClass'
      omega
    · apply List.pairwise_lt_range.imp
      intro missed more less first inClass second inClass'
      rw [List.mem_filter, decide_eq_true_eq] at inClass inClass'
      omega
  · intro amount
    rw [filter_classes, List.filter_filter]
    apply List.filter_congr
    intro element _
    rw [← Bool.decide_and]

end

/-! ## Suggestions -/

/-- The names that may be suggested: those that differ, by no more than the limit. -/
def eligible (name : String) (available : List String) : List String :=
  available.filter fun candidate =>
    1 ≤ editDistance name candidate ∧ editDistance name candidate ≤ distanceLimit name

/-- The eligible names from near to far, equally near ones in the order given. -/
def nearestFirst (name : String) (available : List String) : List String :=
  (eligible name available).mergeSort fun first second =>
    editDistance name first ≤ editDistance name second

variable {name found : String} {available : List String}

theorem mem_eligible_iff : found ∈ eligible name available ↔
    found ∈ available ∧ 1 ≤ editDistance name found ∧
      editDistance name found ≤ distanceLimit name := by
  rw [eligible, List.mem_filter, decide_eq_true_eq]

/-- The names at one distance after another come out of the stable sort. -/
theorem nearestFirst_eq_classes (name : String) (available : List String) :
    nearestFirst name available =
      (List.range (distanceLimit name)).flatMap fun missed =>
        available.filter fun candidate => editDistance name candidate = missed + 1 :=
  (stablySorted_classes (editDistance name) available (distanceLimit name)).unique
    (stablySorted_mergeSort (editDistance name) (eligible name available))

theorem suggestions_eq_take (name : String) (available : List String) :
    suggestions name available = (nearestFirst name available).take 3 := by
  rw [nearestFirst_eq_classes]
  apply congrArg (List.take 3)
  apply List.flatMap_congr
  intro missed _
  rw [List.filterMap_map, ← List.filterMap_eq_filter]
  apply List.filterMap_congr
  intro candidate _
  simp only [Function.comp_apply, Option.guard, decide_eq_true_eq]

theorem mem_eligible_of_mem_suggestions (member : found ∈ suggestions name available) :
    found ∈ eligible name available := by
  rw [suggestions_eq_take] at member
  exact List.mem_mergeSort.mp (List.mem_of_mem_take member)

/-- Suggestions are the first three of the eligible names when these are arranged from near
to far, which leaves equally near ones in the order given and can be done in one way only;
near are those that few insertions, deletions and substitutions tell apart.  So at most three
are suggested, each of them eligible and none farther than one that is left out, and fewer
than three only when none is left out.  Of equally near ones the first are preferred. -/
theorem suggestions_nearest (name : String) (available : List String) :
    (∀ candidate, IsLeast {count | Edits count name.toList candidate.toList}
      (editDistance name candidate)) ∧
    (∀ sorted, StablySorted (editDistance name) (eligible name available) sorted ↔
      sorted = nearestFirst name available) ∧
    suggestions name available = (nearestFirst name available).take 3 ∧
    (suggestions name available).length ≤ 3 ∧
    (∀ found ∈ suggestions name available, found ∈ eligible name available ∧
      ∀ omitted ∈ (nearestFirst name available).drop 3,
        editDistance name found ≤ editDistance name omitted) ∧
    ((suggestions name available).length < 3 →
      (suggestions name available).Perm (eligible name available)) ∧
    ∀ amount, (suggestions name available).filter (editDistance name · = amount) <+:
      (eligible name available).filter (editDistance name · = amount) := by
  have sorted : StablySorted (editDistance name) (eligible name available)
      (nearestFirst name available) := stablySorted_mergeSort _ _
  have perm : (nearestFirst name available).Perm (eligible name available) :=
    List.mergeSort_perm _ _
  have suggested := suggestions_eq_take name available
  refine ⟨editDistance_isLeast name, fun other => ⟨sorted.unique, fun same => same ▸ sorted⟩,
    suggested, ?_, ?_, ?_, ?_⟩
  · rw [suggested]
    exact List.length_take_le 3 _
  · intro found member
    refine ⟨mem_eligible_of_mem_suggestions member, fun omitted left => ?_⟩
    rw [suggested] at member
    have ascending := sorted.ascending
    rw [← List.take_append_drop 3 (nearestFirst name available), List.pairwise_append] at ascending
    exact ascending.2.2 found member omitted left
  · intro few
    rw [suggested, List.length_take] at few
    rw [suggested, List.take_of_length_le (by omega)]
    exact perm
  · intro amount
    rw [suggested, ← sorted.stable amount]
    exact (List.take_prefix 3 _).filter _

/-- The nearest names are given late, one comes twice, and one is the name itself.  Of the
three at distance two, the first is suggested. -/
theorem suggestions_nearest_ties :
    let available := ["items!", "item", "itemx", "it", "items!", "ite"]
    suggestions "item" available = ["itemx", "ite", "items!"] ∧
      (nearestFirst "item" available).drop 3 = ["it", "items!"] ∧
      ("items!" ∈ eligible "item" available ∧
        editDistance "item" "items!" ≤ editDistance "item" "it") ∧
      (suggestions "item" ["item", "ite"]).length < 3 ∧
      (suggestions "item" ["item", "ite"]).Perm (eligible "item" ["item", "ite"]) := by
  intro available
  have suggested : suggestions "item" available = ["itemx", "ite", "items!"] := by decide +kernel
  have omitted : (nearestFirst "item" available).drop 3 = ["it", "items!"] := by
    rw [nearestFirst_eq_classes]
    decide +kernel
  have few : (suggestions "item" ["item", "ite"]).length < 3 := by decide +kernel
  have nearest := suggestions_nearest "item" available
  have member : "items!" ∈ suggestions "item" available := by
    rw [suggested]
    decide
  have left : "it" ∈ (nearestFirst "item" available).drop 3 := by
    rw [omitted]
    exact List.mem_cons_self
  rcases nearest.2.2.2.2.1 "items!" member with ⟨isEligible, nearer⟩
  exact ⟨suggested, omitted, ⟨isEligible, nearer "it" left⟩, few,
    (suggestions_nearest "item" ["item", "ite"]).2.2.2.2.2.1 few⟩

end Tag
end TaggedContent
