import Mathlib.Order.Bounds.Basic
import TaggedContent.Tag.Suggestion

namespace TaggedContent
namespace Tag

/-!
# The least number of edits

An edit inserts, deletes or substitutes one letter anywhere in a text.  The edit distance is
computed from the front letters alone, row by row.  Its recursion yields an upper bound, as
every branch of it is one edit at the front.  It is a lower bound as well because an edit of
the source, wherever it is made, changes the distance to any target by at most one.
-/

inductive Edit : List Char → List Char → Prop where
  | insertion (before : List Char) (letter : Char) (after : List Char) :
      Edit (before ++ after) (before ++ letter :: after)
  | deletion (before : List Char) (letter : Char) (after : List Char) :
      Edit (before ++ letter :: after) (before ++ after)
  | substitution (before : List Char) (letter other : Char) (after : List Char) :
      Edit (before ++ letter :: after) (before ++ other :: after)

/-- So many edits, one after the other, turn the source into the target. -/
inductive Edits : Nat → List Char → List Char → Prop where
  | none (text : List Char) : Edits 0 text text
  | more {count : Nat} {source middle target : List Char} (first : Edit source middle)
      (rest : Edits count middle target) : Edits (count + 1) source target

/-- The same edit can be made behind any letter. -/
theorem Edit.behind {source target : List Char} (edit : Edit source target) (head : Char) :
    Edit (head :: source) (head :: target) := by
  cases edit with
  | insertion before letter after => exact .insertion (head :: before) letter after
  | deletion before letter after => exact .deletion (head :: before) letter after
  | substitution before letter other after =>
      exact .substitution (head :: before) letter other after

theorem Edits.behind {count : Nat} {source target : List Char} (edits : Edits count source target)
    (head : Char) : Edits count (head :: source) (head :: target) := by
  induction edits with
  | none text => exact .none (head :: text)
  | more first _ inductionHypothesis => exact .more (first.behind head) inductionHypothesis

theorem Edits.behind_all {count : Nat} {source target : List Char}
    (edits : Edits count source target) (before : List Char) :
    Edits count (before ++ source) (before ++ target) := by
  induction before with
  | nil => exact edits
  | cons head before inductionHypothesis => exact inductionHypothesis.behind head

/-- An edit makes a text longer by at most one letter. -/
theorem Edits.length_le {count : Nat} {source target : List Char}
    (edits : Edits count source target) : target.length ≤ source.length + count := by
  induction edits with
  | none text => exact Nat.le_refl text.length
  | more first _ inductionHypothesis =>
      cases first <;>
        simp only [List.length_append, List.length_cons] at inductionHypothesis ⊢ <;> omega

/-! ## The recursion behind the rows -/

/-- The row that is reached when the letters of the target have been put in front of the
empty text, from the last to the first. -/
def distanceRow (source target : List Char) : List Nat :=
  target.foldr (fun letter row => extendRow letter source row) (emptyRow source)

def distance (source target : List Char) : Nat :=
  (distanceRow source target).headD 0

theorem extendRow_ne_nil (letter : Char) (source : List Char) {row : List Nat}
    (given : row ≠ []) : extendRow letter source row ≠ [] := by
  rcases row with _ | ⟨here, _ | ⟨below, row⟩⟩
  · exact absurd rfl given
  · cases source <;> exact List.cons_ne_nil _ _
  · cases source <;> exact List.cons_ne_nil _ _

theorem distanceRow_eq_cons (source target : List Char) :
    ∃ others, distanceRow source target = distance source target :: others := by
  have given : distanceRow source target ≠ [] := by
    induction target with
    | nil => cases source <;> exact List.cons_ne_nil _ _
    | cons letter target inductionHypothesis =>
        exact extendRow_ne_nil letter source inductionHypothesis
  rcases row : distanceRow source target with _ | ⟨here, others⟩
  · exact absurd row given
  · exact ⟨others, by rw [distance, row, List.headD_cons]⟩

theorem distanceRow_nil (target : List Char) : distanceRow [] target = [target.length] := by
  induction target with
  | nil => rfl
  | cons letter target inductionHypothesis =>
      change extendRow letter [] (distanceRow [] target) = _
      rw [inductionHypothesis]
      rfl

/-- How the first distance of a row comes from the row before it and from the rest of the
same row. -/
theorem distanceRow_cons_cons {head : Char} {tail target : List Char}
    (before : distanceRow (head :: tail) target =
      distance (head :: tail) target :: distanceRow tail target) (letter : Char) :
    distanceRow (head :: tail) (letter :: target) =
      min (min (distance (head :: tail) target + 1) (distance tail (letter :: target) + 1))
          (if head = letter then distance tail target else distance tail target + 1) ::
        distanceRow tail (letter :: target) := by
  rcases distanceRow_eq_cons tail target with ⟨others, row⟩
  have rest : extendRow letter tail (distance tail target :: others) =
      distanceRow tail (letter :: target) := by
    rw [← row]
    rfl
  change extendRow letter (head :: tail) (distanceRow (head :: tail) target) = _
  rw [before, row]
  simp only [extendRow, rest]
  rfl

/-- A row lists the distances from all suffixes of the source. -/
theorem distanceRow_cons (head : Char) (tail target : List Char) :
    distanceRow (head :: tail) target =
      distance (head :: tail) target :: distanceRow tail target := by
  induction target with
  | nil => rfl
  | cons letter target inductionHypothesis =>
      have row := distanceRow_cons_cons inductionHypothesis letter
      rw [distance, row, List.headD_cons]

@[simp] theorem distance_nil (target : List Char) : distance [] target = target.length := by
  rw [distance, distanceRow_nil, List.headD_cons]

@[simp] theorem distance_nil_right (source : List Char) : distance source [] = source.length := by
  cases source <;> rfl

theorem distance_cons_cons (head letter : Char) (tail target : List Char) :
    distance (head :: tail) (letter :: target) =
      min (min (distance (head :: tail) target + 1) (distance tail (letter :: target) + 1))
        (if head = letter then distance tail target else distance tail target + 1) := by
  rw [distance, distanceRow_cons_cons (distanceRow_cons head tail target), List.headD_cons]

theorem editDistance_eq (source target : String) :
    editDistance source target = distance source.toList target.toList :=
  rfl

/-! ## The distance is attained -/

theorem edits_of_letters (target : List Char) : Edits target.length [] target := by
  induction target with
  | nil => exact .none []
  | cons letter target inductionHypothesis =>
      exact .more (.insertion [] letter []) (inductionHypothesis.behind letter)

theorem edits_to_nothing (source : List Char) : Edits source.length source [] := by
  induction source with
  | nil => exact .none []
  | cons head tail inductionHypothesis => exact .more (.deletion [] head tail) inductionHypothesis

/-- By induction over both texts: each branch of the recursion is an edit at the front. -/
theorem edits_distance (source target : List Char) :
    Edits (distance source target) source target := by
  induction source generalizing target with
  | nil =>
      rw [distance_nil]
      exact edits_of_letters target
  | cons head tail shorterSource =>
      induction target with
      | nil =>
          rw [distance_nil_right]
          exact edits_to_nothing (head :: tail)
      | cons letter target shorterTarget =>
          have inserted : Edits (distance (head :: tail) target + 1) (head :: tail)
              (letter :: target) :=
            .more (.insertion [] letter (head :: tail)) (shorterTarget.behind letter)
          have deleted : Edits (distance tail (letter :: target) + 1) (head :: tail)
              (letter :: target) :=
            .more (.deletion [] head tail) (shorterSource (letter :: target))
          have kept := (shorterSource target).behind letter
          have substituted : Edits
              (if head = letter then distance tail target else distance tail target + 1)
              (head :: tail) (letter :: target) := by
            split
            case isTrue same => exact same ▸ kept
            case isFalse => exact .more (.substitution [] head letter tail) kept
          rw [distance_cons_cons]
          apply min_rec' (fun count => Edits count (head :: tail) (letter :: target))
          · exact min_rec' (fun count => Edits count (head :: tail) (letter :: target))
              inserted deleted
          · exact substituted

/-! ## No fewer edits suffice -/

theorem distance_self (text : List Char) : distance text text = 0 := by
  induction text with
  | nil => rfl
  | cons head tail inductionHypothesis =>
      rw [distance_cons_cons, if_pos rfl, inductionHypothesis, Nat.min_zero]

theorem distance_le_of_insertion (letter : Char) (source target : List Char) :
    distance source (letter :: target) ≤ distance source target + 1 := by
  cases source with
  | nil => simp
  | cons head tail =>
      rw [distance_cons_cons]
      omega

theorem distance_le_of_deletion (head : Char) (tail target : List Char) :
    distance (head :: tail) target ≤ distance tail target + 1 := by
  cases target with
  | nil => simp
  | cons letter target =>
      rw [distance_cons_cons]
      omega

/-- A letter in front of the source brings the target nearer by at most one. -/
theorem distance_le_of_cons (head : Char) (source target : List Char) :
    distance source target ≤ distance (head :: source) target + 1 := by
  induction target with
  | nil =>
      rw [distance_nil_right, distance_nil_right, List.length_cons]
      omega
  | cons letter target inductionHypothesis =>
      have longer := distance_le_of_insertion letter source target
      rw [distance_cons_cons]
      split <;> omega

/-- It matters by at most one which letter stands in front of the source. -/
theorem distance_le_of_substitution (head other : Char) (tail target : List Char) :
    distance (head :: tail) target ≤ distance (other :: tail) target + 1 := by
  induction target with
  | nil => simp
  | cons letter target inductionHypothesis =>
      rw [distance_cons_cons, distance_cons_cons]
      split <;> split <;> omega

/-- Sources that are within one of each other for all targets stay so behind a letter. -/
theorem distance_behind_le {source other : List Char}
    (close : ∀ target, distance source target ≤ distance other target + 1) (head : Char)
    (target : List Char) :
    distance (head :: source) target ≤ distance (head :: other) target + 1 := by
  induction target with
  | nil =>
      have lengths := close []
      rw [distance_nil_right, distance_nil_right] at lengths
      rw [distance_nil_right, distance_nil_right, List.length_cons, List.length_cons]
      omega
  | cons letter target inductionHypothesis =>
      have same := close target
      have deleted := close (letter :: target)
      rw [distance_cons_cons, distance_cons_cons]
      split <;> omega

theorem Edit.distance_le {source middle : List Char} (edit : Edit source middle)
    (target : List Char) : distance source target ≤ distance middle target + 1 := by
  -- By induction on what stands before the letter that is edited.
  cases edit with
  | insertion before letter after =>
      induction before generalizing target with
      | nil => exact distance_le_of_cons letter after target
      | cons head before inductionHypothesis =>
          exact distance_behind_le inductionHypothesis head target
  | deletion before letter after =>
      induction before generalizing target with
      | nil => exact distance_le_of_deletion letter after target
      | cons head before inductionHypothesis =>
          exact distance_behind_le inductionHypothesis head target
  | substitution before letter other after =>
      induction before generalizing target with
      | nil => exact distance_le_of_substitution letter other after target
      | cons head before inductionHypothesis =>
          exact distance_behind_le inductionHypothesis head target

theorem Edits.distance_le {count : Nat} {source target : List Char}
    (edits : Edits count source target) : distance source target ≤ count := by
  induction edits with
  | none text => exact Nat.le_of_eq (distance_self text)
  | @more count _ _ target first _ inductionHypothesis =>
      exact (first.distance_le target).trans (Nat.succ_le_succ inductionHypothesis)

/-- The edit distance is the least number of insertions, deletions and substitutions of one
character. -/
theorem editDistance_isLeast (source target : String) :
    IsLeast {count | Edits count source.toList target.toList} (editDistance source target) :=
  ⟨edits_distance source.toList target.toList, fun _ edits => edits.distance_le⟩

/-- A text is as far from one that continues it as the continuation is long. -/
theorem editDistance_append (text continuation : String) :
    editDistance text (text ++ continuation) = continuation.length := by
  have reached := (edits_of_letters continuation.toList).behind_all text.toList
  have shortest := (edits_distance text.toList (text.toList ++ continuation.toList)).length_le
  rw [List.append_nil] at reached
  rw [List.length_append] at shortest
  rw [editDistance_eq, String.toList_append, ← String.length_toList]
  exact Nat.le_antisymm reached.distance_le (Nat.le_of_add_le_add_left shortest)

end Tag
end TaggedContent
