import Mathlib.Data.List.Induction
import TaggedContent.Proofs.Resolution.LocksAndMarks
import TaggedContent.Proofs.Resolution.NormalForm
import TaggedContent.Proofs.Resolution.Placement

namespace TaggedContent
namespace Resolution

/-!
# Runs of marking and restoring

Marks are made and restored at many paths in any order.  What is pending at a path after such
a run are the keys that have been marked there since its last restoration, each once and in
the order of their first marks; this is the invariant of the run.  To restore aliases reads
the mapping that it extends.  As long as no pending key is the alias of another, what is read
is what the mapping held at the start, and the aliases might as well be inserted at once.
-/

/-! ## All aliases at once -/

def holdsSequence (entries : Mapping) (key : String) : Bool :=
  (Entries.get? entries (.name key)).any Tree.isSequence

theorem exists_of_holdsSequence {entries : Mapping} {key : String}
    (holds : holdsSequence entries key = true) :
    ∃ value, Entries.get? entries (.name key) = some value ∧
      alias? entries key = some (.name (aliasOf key), value) := by
  rw [holdsSequence, Option.any_eq_true] at holds
  rcases holds with ⟨value, held, isSequence⟩
  refine ⟨value, held, ?_⟩
  rw [alias?_eq, held, Option.bind_some, if_pos isSequence]

theorem alias?_of_not_holdsSequence {entries : Mapping} {key : String}
    (holds : ¬ holdsSequence entries key = true) : alias? entries key = none := by
  cases found : alias? entries key with
  | none => rfl
  | some entry =>
      rcases alias?_eq_some_iff.mp found with ⟨items, held, _⟩
      refine absurd ?_ holds
      rw [holdsSequence, held]
      rfl

/-- The keys that hold a sequence are those that have an alias. -/
theorem keys_aliases (keys : List String) (entries : Mapping) :
    Entries.keys (keys.filterMap (alias? entries)) =
      (keys.filter (holdsSequence entries)).map fun key => Key.name (aliasOf key) := by
  induction keys with
  | nil => rfl
  | cons key keys inductionHypothesis =>
      by_cases holds : holdsSequence entries key = true
      · rcases exists_of_holdsSequence holds with ⟨value, _, isAlias⟩
        rw [List.filterMap_cons_some isAlias, List.filter_cons_of_pos holds, Entries.keys_cons,
          inductionHypothesis, List.map_cons]
      · rw [List.filterMap_cons_none (alias?_of_not_holdsSequence holds),
          List.filter_cons_of_neg holds, inductionHypothesis]

section

variable {keys : List String} {entries : Mapping}

theorem keys_addAliases_of_isolated (isolated : ∀ key ∈ keys, aliasOf key ∉ keys)
    (distinct : keys.Nodup) :
    Entries.keys (addAliases keys entries).1 = Entries.keys entries ++
      ((keys.filter (holdsSequence entries)).map fun key => Key.name (aliasOf key)).filter
        (· ∉ Entries.keys entries) := by
  have once := nodup_keys_aliases distinct entries
  rw [keys_aliases] at once
  rw [addAliases_eq_foldl isolated, Entries.keys_foldl_insert, keys_aliases,
    eraseDups_of_nodup (once.filter _)]

/-- The aliases are looked up before the mapping that they extend. -/
theorem get?_addAliases_of_isolated (isolated : ∀ key ∈ keys, aliasOf key ∉ keys)
    (distinct : keys.Nodup) (other : Key) :
    Entries.get? (addAliases keys entries).1 other =
      (Entries.get? (keys.filterMap (alias? entries)) other).or (Entries.get? entries other) := by
  rw [addAliases_eq_foldl isolated, Entries.get?_foldl_insert,
    Entries.get?_reverse (nodup_keys_aliases distinct entries)]

theorem get?_addAliases_of_due (isolated : ∀ key ∈ keys, aliasOf key ∉ keys)
    (distinct : keys.Nodup) {key : String} (due : key ∈ keys.filter (holdsSequence entries)) :
    Entries.get? (addAliases keys entries).1 (.name (aliasOf key)) =
      Entries.get? entries (.name key) := by
  rcases List.mem_filter.mp due with ⟨listed, holds⟩
  rcases exists_of_holdsSequence holds with ⟨value, held, isAlias⟩
  have member := List.mem_filterMap.mpr ⟨key, listed, isAlias⟩
  rw [get?_addAliases_of_isolated isolated distinct,
    Entries.get?_of_mem (nodup_keys_aliases distinct entries) member, Option.some_or, held]

theorem get?_addAliases_of_not_due (isolated : ∀ key ∈ keys, aliasOf key ∉ keys)
    (distinct : keys.Nodup) {other : Key}
    (apart : ∀ key ∈ keys.filter (holdsSequence entries), other ≠ .name (aliasOf key)) :
    Entries.get? (addAliases keys entries).1 other = Entries.get? entries other := by
  have absent : Entries.get? (keys.filterMap (alias? entries)) other = none := by
    rw [Entries.get?_eq_none_iff, keys_aliases]
    intro member
    rcases List.mem_map.mp member with ⟨key, due, same⟩
    exact apart key due same.symm
  rw [get?_addAliases_of_isolated isolated distinct, absent, Option.none_or]

end

namespace Marks

/-! ## Calls -/

inductive Call where
  | mark (path : Path) (key : String)
  | restore (path : Path) (entries : Mapping)

namespace Call

def path : Call → Path
  | mark path _ => path
  | restore path _ => path

def restores (path : Path) : Call → Bool
  | mark _ _ => false
  | restore other _ => other = path

/-- The key that the call marks at the path. -/
def marked? (path : Path) : Call → Option String
  | mark other key => if other = path then some key else none
  | restore _ _ => none

end Call

/-- The marks after one more call. -/
def perform (marks : Marks) : Call → Marks
  | .mark path key => marks.mark path key
  | .restore path entries => (marks.restore path entries).marks

/-- The marks after these calls, when there were none before. -/
def run (calls : List Call) : Marks :=
  calls.foldl perform empty

/-- The keys that have been marked at the path since it was last restored, each once and in
the order of their first marks. -/
def markedSince (path : Path) (calls : List Call) : List String :=
  ((calls.reverse.takeWhile fun call => !call.restores path).reverse.filterMap
    (Call.marked? path)).eraseDups

/-! ## What is pending -/

variable {path : Path}

theorem run_concat (calls : List Call) (call : Call) :
    run (calls ++ [call]) = (run calls).perform call := by
  rw [run, List.foldl_concat]
  rfl

/-- One more element is added unless it is there. -/
theorem eraseDups_concat (keys : List String) (key : String) :
    (keys ++ [key]).eraseDups =
      if key ∉ keys.eraseDups then keys.eraseDups ++ [key] else keys.eraseDups := by
  rw [List.eraseDups_append]
  split
  case isTrue fresh =>
      rw [List.mem_eraseDups] at fresh
      simp [List.removeAll, fresh, List.eraseDups_cons]
  case isFalse known =>
      rw [List.mem_eraseDups, not_not] at known
      simp [List.removeAll, known]

/-- Only a mark at the path itself is added, and only when its key is not yet there. -/
theorem markedSince_concat_mark (calls : List Call) (path other : Path) (key : String) :
    markedSince other (calls ++ [.mark path key]) =
      if path = other ∧ key ∉ markedSince other calls then markedSince other calls ++ [key]
      else markedSince other calls := by
  rw [markedSince, List.reverse_concat, List.takeWhile_cons_of_pos rfl, List.reverse_cons,
    List.filterMap_append]
  by_cases here : path = other
  · have added : [Call.mark path key].filterMap (Call.marked? other) = [key] := by
      simp [Call.marked?, here]
    rw [added, eraseDups_concat]
    simp only [here, true_and, markedSince]
  · have nothing : [Call.mark path key].filterMap (Call.marked? other) = [] := by
      simp [Call.marked?, here]
    rw [nothing, List.append_nil, if_neg fun fresh => here fresh.1, markedSince]

theorem markedSince_concat_restore (calls : List Call) (path other : Path) (entries : Mapping) :
    markedSince other (calls ++ [.restore path entries]) =
      if path = other then [] else markedSince other calls := by
  rw [markedSince, List.reverse_concat]
  by_cases here : path = other
  · rw [List.takeWhile_cons_of_neg (by simp [Call.restores, here]), if_pos here]
    rfl
  · rw [List.takeWhile_cons_of_pos (by simp [Call.restores, here]), List.reverse_cons,
      List.filterMap_append, if_neg here, markedSince]
    exact congrArg List.eraseDups (List.append_nil _)

/-- By induction on the number of calls: the keys that are pending at a path are those that
have been marked there since its last restoration. -/
theorem keysAt_run (calls : List Call) (path : Path) :
    (run calls).keysAt path = markedSince path calls := by
  induction calls using List.reverseRecOn with
  | nil => rfl
  | append_singleton calls call inductionHypothesis =>
      rw [run_concat]
      cases call with
      | mark other key =>
          by_cases here : other = path
          · subst here
            rw [perform, keysAt_mark, markedSince_concat_mark, inductionHypothesis]
          · rw [perform, keysAt_mark_of_ne _ here, markedSince_concat_mark,
              if_neg fun fresh => here fresh.1, inductionHypothesis]
      | restore other entries =>
          rw [perform, markedSince_concat_restore, ← inductionHypothesis]
          exact keysAt_forget (run calls) other path

theorem nodup_markedSince (path : Path) (calls : List Call) : (markedSince path calls).Nodup :=
  nodup_eraseDups _

/-- A call elsewhere is not noticed. -/
theorem markedSince_concat_of_ne (calls : List Call) {call : Call} (elsewhere : call.path ≠ path) :
    markedSince path (calls ++ [call]) = markedSince path calls := by
  cases call with
  | mark other key =>
      rw [markedSince_concat_mark]
      exact if_neg fun fresh => elsewhere fresh.1
  | restore other entries =>
      rw [markedSince_concat_restore]
      exact if_neg elsewhere

/-- A call at the path adds to what is pending there, or ends it, by itself. -/
theorem markedSince_concat_congr {calls others : List Call} (call : Call)
    (same : markedSince path calls = markedSince path others) :
    markedSince path (calls ++ [call]) = markedSince path (others ++ [call]) := by
  cases call with
  | mark other key => rw [markedSince_concat_mark, markedSince_concat_mark, same]
  | restore other entries => rw [markedSince_concat_restore, markedSince_concat_restore, same]

/-- Only the calls at the path matter for what is pending there. -/
theorem markedSince_filter (path : Path) (calls : List Call) :
    markedSince path (calls.filter fun call => call.path = path) = markedSince path calls := by
  induction calls using List.reverseRecOn with
  | nil => rfl
  | append_singleton calls call inductionHypothesis =>
      rw [List.filter_append]
      by_cases here : call.path = path
      · rw [List.filter_cons_of_pos (by simpa using here), List.filter_nil]
        exact markedSince_concat_congr call inductionHypothesis
      · rw [List.filter_cons_of_neg (by simpa using here), List.filter_nil, List.append_nil,
          inductionHypothesis, markedSince_concat_of_ne calls here]

/-! ## Restoring after a run -/

/-- Once restored, a path has nothing more to restore. -/
theorem restore_restored (marks : Marks) (path : Path) (entries later : Mapping) :
    (marks.restore path entries).marks.restore path later =
      ⟨later, [], (marks.restore path entries).marks⟩ := by
  have nothing : (marks.forget path).keysAt path = [] := by
    rw [keysAt_forget, if_pos rfl]
  have forgotten : (marks.forget path).forget path = marks.forget path := by
    simp only [forget, List.filter_filter, Bool.and_self]
  simp only [restore, nothing, forgotten, addAliases]

/-- After any calls, a path is restored according to the keys that have been marked there
since it was last restored, each once and in the order of their first marks.  When none of
them is the alias of another, the mapping keeps its keys in their places, and the aliases of
those that hold a sequence follow, as far as they are not there, in the order of the marks.
An alias holds what its key does, whether it is new or was there before, and nothing else
changes.  Calls at other paths have no effect, and restoring the path again has none. -/
theorem restore_after_run (calls : List Call) (path : Path) (entries : Mapping)
    (isolated : ∀ key ∈ markedSince path calls, aliasOf key ∉ markedSince path calls) :
    let restored := (run calls).restore path entries
    let due := (markedSince path calls).filter (holdsSequence entries)
    Entries.keys restored.entries = Entries.keys entries ++
      (due.map fun key => Key.name (aliasOf key)).filter (· ∉ Entries.keys entries) ∧
    (∀ key ∈ due,
      Entries.get? restored.entries (.name (aliasOf key)) = Entries.get? entries (.name key)) ∧
    (∀ other, (∀ key ∈ due, other ≠ .name (aliasOf key)) →
      Entries.get? restored.entries other = Entries.get? entries other) ∧
    (∀ others : List Call,
      (others.filter fun call => call.path = path) = (calls.filter fun call => call.path = path) →
      ((run others).restore path entries).entries = restored.entries) ∧
    ∀ later, restored.marks.restore path later = ⟨later, [], restored.marks⟩ := by
  intro restored due
  have distinct := nodup_markedSince path calls
  have result : restored.entries = (addAliases (markedSince path calls) entries).1 := by
    rw [← keysAt_run]
    rfl
  refine ⟨?_, ?_, ?_, ?_, restore_restored (run calls) path entries⟩
  · rw [result]
    exact keys_addAliases_of_isolated isolated distinct
  · intro key member
    rw [result]
    exact get?_addAliases_of_due isolated distinct member
  · intro other apart
    rw [result]
    exact get?_addAliases_of_not_due isolated distinct apart
  · intro others same
    have pending : markedSince path others = markedSince path calls := by
      rw [← markedSince_filter path others, same, markedSince_filter]
    rw [result, ← pending, ← keysAt_run]
    rfl

/-- Marks from before the last restoration, a key marked twice, one that holds no sequence,
and an alias that is there already, with calls at another path in between. -/
theorem restore_after_run_interleaved :
    let nested := Path.root.child (.name "pages")
    let early : List Call := [.mark .root "pages", .restore .root []]
    let recent : List Call := [.mark .root "tags", .mark .root "items", .mark .root "tags",
      .mark .root "title"]
    let calls := early ++ [.mark nested "items", .restore nested []] ++ recent
    let entries : Mapping := [(.name "tags@", .null), (.name "title", .string "A"),
      (.name "items", .sequence [.null]), (.name "tags", .sequence [.bool true]),
      (.name "pages", .sequence [])]
    let restored := (run calls).restore .root entries
    markedSince .root calls = ["tags", "items", "title"] ∧
      (∀ key ∈ markedSince .root calls, aliasOf key ∉ markedSince .root calls) ∧
      Entries.keys restored.entries = [.name "tags@", .name "title", .name "items", .name "tags",
        .name "pages", .name "items@"] ∧
      Entries.get? restored.entries (.name "tags@") = some (.sequence [.bool true]) ∧
      Entries.get? restored.entries (.name "title") = some (.string "A") ∧
      ((run (early ++ recent)).restore .root entries).entries = restored.entries ∧
      restored.marks.restore .root entries = ⟨entries, [], restored.marks⟩ := by
  intro nested early recent calls entries restored
  have marked : markedSince .root calls = ["tags", "items", "title"] := by decide +kernel
  have isolated : ∀ key ∈ markedSince .root calls, aliasOf key ∉ markedSince .root calls := by
    rw [marked]
    decide
  have due : (markedSince .root calls).filter (holdsSequence entries) = ["tags", "items"] := by
    rw [marked]
    rfl
  rcases restore_after_run calls .root entries isolated with ⟨keys, aliases, others, apart, again⟩
  rw [due] at keys aliases others
  exact ⟨marked, isolated, keys, aliases "tags" List.mem_cons_self,
    others (.name "title") (by decide), apart (early ++ recent) rfl, again entries⟩

end Marks
end Resolution
end TaggedContent
