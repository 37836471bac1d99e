import Mathlib.Data.List.Forall2
import Mathlib.Data.List.Nodup
import TaggedContent.Proofs.Entries

namespace TaggedContent
namespace Entries

/-!
# Tables that are alike

Two tables are alike entry by entry when they have the same keys in the same order, with
related values, and alike by key when every key holds related values in both, or nothing.
The first implies the second.  With distinct keys the second implies that the entries of
one table can be put in another order in which they are alike one by one.
-/

variable {κ : Type u} {ν : Type v} {ω : Type w}

/-- The same keys in the same order, with related values. -/
def Alike (related : ν → ω → Prop) (left : Entries κ ν) (right : Entries κ ω) : Prop :=
  List.Forall₂ (fun entry entry' => entry.1 = entry'.1 ∧ related entry.2 entry'.2) left right

section

variable {related : ν → ω → Prop} {left : Entries κ ν} {right : Entries κ ω}

theorem Alike.keys_eq (alike : Alike related left right) : keys left = keys right := by
  induction alike with
  | nil => rfl
  | cons here rest inductionHypothesis => rw [keys_cons, keys_cons, here.1, inductionHypothesis]

theorem alike_iff : Alike related left right ↔ keys left = keys right ∧
    List.Forall₂ (fun entry entry' => related entry.2 entry'.2) left right := by
  constructor
  · exact fun alike => ⟨alike.keys_eq, alike.imp fun _ _ same => same.2⟩
  · rintro ⟨sameKeys, values⟩
    induction values with
    | nil => exact .nil
    | cons here rest inductionHypothesis =>
        rw [keys_cons, keys_cons, List.cons.injEq] at sameKeys
        exact .cons ⟨sameKeys.1, here⟩ (inductionHypothesis sameKeys.2)

theorem Alike.eq {left right : Entries κ ν} (alike : Alike Eq left right) : left = right := by
  induction alike with
  | nil => rfl
  | cons here rest inductionHypothesis => rw [Prod.ext here.1 here.2, inductionHypothesis]

end

variable [DecidableEq κ] {related : ν → ω → Prop} {left : Entries κ ν} {right : Entries κ ω}

/-- Every key holds related values, or nothing in either table. -/
def AlikeByKey (related : ν → ω → Prop) (left : Entries κ ν) (right : Entries κ ω) : Prop :=
  ∀ key, Option.Rel related (get? left key) (get? right key)

theorem Alike.byKey (alike : Alike related left right) : AlikeByKey related left right := by
  intro key
  induction alike with
  | nil => exact .none
  | @cons entry entry' _ _ here rest inductionHypothesis =>
      rw [← Prod.eta entry, ← Prod.eta entry', get?_cons, get?_cons, here.1]
      split
      · exact .some here.2
      · exact inductionHypothesis

namespace AlikeByKey

theorem mem_keys_iff (alike : AlikeByKey related left right) (key : κ) :
    key ∈ keys left ↔ key ∈ keys right := by
  rw [← not_iff_not, ← get?_eq_none_iff, ← get?_eq_none_iff]
  have same := alike key
  generalize get? left key = found, get? right key = found' at same ⊢
  cases same <;> simp

theorem insert (alike : AlikeByKey related left right) (key : κ) {value : ν} {value' : ω}
    (same : related value value') :
    AlikeByKey related (Entries.insert key value left) (Entries.insert key value' right) := by
  intro other
  rw [get?_insert, get?_insert]
  split
  · exact .some same
  · exact alike other

/-- With distinct keys the entries of the left table can be reordered to be alike those of
the right one. -/
theorem exists_perm_alike (distinct : (keys left).Nodup) (distinct' : (keys right).Nodup)
    (alike : AlikeByKey related left right) :
    ∃ middle, left.Perm middle ∧ Alike related middle right := by
  induction right generalizing left with
  | nil =>
      have empty : left = [] := by
        rw [List.eq_nil_iff_forall_not_mem]
        intro entry member
        have found := (alike.mem_keys_iff entry.1).mp (mem_keys_of_mem member)
        cases found
      exact ⟨[], empty ▸ .refl [], .nil⟩
  | cons entry' rest inductionHypothesis =>
      rcases entry' with ⟨key, value'⟩
      rw [keys_cons, List.nodup_cons] at distinct'
      have here := alike key
      rw [get?_cons, if_pos rfl] at here
      rcases found : get? left key with _ | value
      · rw [found] at here
        cases here
      · rw [found] at here
        rcases List.append_of_mem (mem_of_get? found) with ⟨before, after, split⟩
        subst split
        have reordered : (before ++ (key, value) :: after).Perm ((key, value) :: (before ++ after)) :=
          List.perm_middle
        have distinctOthers : (keys ((key, value) :: (before ++ after))).Nodup :=
          (reordered.map Prod.fst).nodup_iff.mp distinct
        rw [keys_cons, List.nodup_cons] at distinctOthers
        have others : AlikeByKey related (before ++ after) rest := by
          intro other
          have there := alike other
          rw [get?_append, get?_cons, get?_cons] at there
          by_cases same : key = other
          · subst same
            rw [(get?_eq_none_iff _ _).mpr distinctOthers.1, (get?_eq_none_iff _ _).mpr distinct'.1]
            exact .none
          · rw [if_neg same, if_neg same, ← get?_append] at there
            exact there
        rcases inductionHypothesis distinctOthers.2 distinct'.2 others with ⟨middle, perm, entries⟩
        cases here with
        | some same => exact ⟨(key, value) :: middle, reordered.trans (perm.cons _),
            .cons ⟨rfl, same⟩ entries⟩

end AlikeByKey

/-- With distinct keys the order of the entries does not matter for what is found. -/
theorem get?_of_perm {left right : Entries κ ν} (perm : left.Perm right)
    (distinct : (keys left).Nodup) (key : κ) : get? left key = get? right key := by
  cases found : get? right key with
  | none =>
      rw [get?_eq_none_iff] at found ⊢
      exact fun member => found ((perm.map Prod.fst).mem_iff.mp member)
  | some value => exact get?_of_mem distinct (perm.mem_iff.mpr (mem_of_get? found))

theorem alikeByKey_eq_iff {left right : Entries κ ν} :
    AlikeByKey Eq left right ↔ ∀ key, get? left key = get? right key := by
  refine forall_congr' fun key => ?_
  generalize get? left key = found, get? right key = found'
  constructor
  · rintro (same | _)
    · exact congrArg some same
    · rfl
  · rintro rfl
    cases found with
    | none => exact .none
    | some value => exact .some rfl

/-- Tables with distinct keys that hold the same under every key have the same entries. -/
theorem perm_of_get?_eq {left right : Entries κ ν} (distinct : (keys left).Nodup)
    (distinct' : (keys right).Nodup) (same : ∀ key, get? left key = get? right key) :
    left.Perm right := by
  rcases (alikeByKey_eq_iff.mpr same).exists_perm_alike distinct distinct' with
    ⟨middle, perm, entries⟩
  exact entries.eq ▸ perm

end Entries
end TaggedContent
