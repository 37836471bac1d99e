import Mathlib.Data.List.Basic
import Mathlib.Data.List.Nodup
import TaggedContent.Entries

namespace TaggedContent
namespace Entries

/-!
# Laws of insertion-ordered tables

A look-up after an insertion sees the new value under its key and the old table
under every other key.  An insertion keeps the keys in their places and appends at
most the new one.  Of pairs inserted from left to right the first with a key gives the
place and the last its value, which is a look-up in the reversed list.
-/

variable {κ : Type u} {ν : Type v}

@[simp] theorem keys_nil : keys ([] : Entries κ ν) = [] :=
  rfl

@[simp] theorem keys_cons (entry : κ × ν) (rest : Entries κ ν) :
    keys (entry :: rest) = entry.1 :: keys rest :=
  rfl

@[simp] theorem keys_append (first second : Entries κ ν) :
    keys (first ++ second) = keys first ++ keys second :=
  List.map_append

theorem mem_keys_of_mem {entries : Entries κ ν} {key : κ} {value : ν}
    (member : (key, value) ∈ entries) : key ∈ keys entries :=
  List.mem_map.mpr ⟨(key, value), member, rfl⟩

variable [DecidableEq κ]

@[simp] theorem get?_nil (key : κ) : get? ([] : Entries κ ν) key = none :=
  rfl

theorem get?_cons (other key : κ) (value : ν) (rest : Entries κ ν) :
    get? ((other, value) :: rest) key = if other = key then some value else get? rest key := by
  by_cases same : other = key
  · subst other
    simp [get?]
  · have different : (key == other) = false := beq_false_of_ne (Ne.symm same)
    simp [get?, List.lookup_cons, different, same]

theorem get?_eq_none_iff (entries : Entries κ ν) (key : κ) :
    get? entries key = none ↔ key ∉ keys entries := by
  induction entries with
  | nil => simp
  | cons entry rest inductionHypothesis =>
      rcases entry with ⟨other, value⟩
      rw [get?_cons, keys_cons, List.mem_cons]
      by_cases same : other = key
      · simp [same]
      · simp [same, Ne.symm same, inductionHypothesis]

theorem mem_of_get? {entries : Entries κ ν} {key : κ} {value : ν}
    (found : get? entries key = some value) : (key, value) ∈ entries := by
  induction entries with
  | nil => cases found
  | cons entry rest inductionHypothesis =>
      rcases entry with ⟨other, previous⟩
      rw [get?_cons] at found
      by_cases same : other = key
      · rw [if_pos same] at found
        cases found
        subst other
        exact List.mem_cons_self
      · rw [if_neg same] at found
        exact List.mem_cons_of_mem _ (inductionHypothesis found)

/-- With distinct keys every entry is the one that a look-up finds. -/
theorem get?_of_mem {entries : Entries κ ν} {key : κ} {value : ν}
    (distinct : (keys entries).Nodup) (member : (key, value) ∈ entries) :
    get? entries key = some value := by
  induction entries with
  | nil => cases member
  | cons entry rest inductionHypothesis =>
      rw [keys_cons, List.nodup_cons] at distinct
      rcases List.mem_cons.mp member with same | later
      · subst same
        simp [get?_cons]
      · have different : entry.1 ≠ key := by
          intro same
          exact distinct.1 (same ▸ mem_keys_of_mem later)
        rw [← Prod.eta entry, get?_cons, if_neg different]
        exact inductionHypothesis distinct.2 later

theorem get?_append (first second : Entries κ ν) (key : κ) :
    get? (first ++ second) key = (get? first key).or (get? second key) := by
  induction first with
  | nil => rfl
  | cons entry rest inductionHypothesis =>
      rw [List.cons_append, ← Prod.eta entry, get?_cons, get?_cons]
      by_cases same : entry.1 = key
      · simp [same]
      · simp [same, inductionHypothesis]

/-- Of the entries with certain keys nothing is found under any other key. -/
theorem get?_filter (chosen : κ → Bool) (entries : Entries κ ν) (key : κ) :
    get? (entries.filter fun entry => chosen entry.1) key =
      if chosen key then get? entries key else none := by
  induction entries with
  | nil => simp
  | cons entry rest inductionHypothesis =>
      rcases entry with ⟨other, value⟩
      rw [List.filter_cons, get?_cons]
      by_cases same : other = key
      · subst other
        cases here : chosen key with
        | true => rw [if_pos rfl, if_pos rfl, if_pos rfl, get?_cons, if_pos rfl]
        | false => rw [if_neg Bool.false_ne_true, inductionHypothesis, here]; rfl
      · rw [if_neg same, ← inductionHypothesis]
        split
        · rw [get?_cons, if_neg same]
        · rfl

/-- An insertion changes what is found under its key, and nothing else. -/
theorem get?_insert (key other : κ) (value : ν) (entries : Entries κ ν) :
    get? (insert key value entries) other =
      if key = other then some value else get? entries other := by
  induction entries with
  | nil => rw [insert, get?_cons]
  | cons entry rest inductionHypothesis =>
      rcases entry with ⟨head, previous⟩
      rw [insert]
      by_cases same : head = key
      · subst head
        rw [if_pos rfl, get?_cons, get?_cons]
        split <;> rfl
      · rw [if_neg same, get?_cons, get?_cons, inductionHypothesis]
        by_cases here : head = other
        · subst head
          simp [Ne.symm same]
        · simp [here]

theorem insert_of_not_mem {key : κ} (value : ν) {entries : Entries κ ν}
    (fresh : key ∉ keys entries) : insert key value entries = entries ++ [(key, value)] := by
  induction entries with
  | nil => rfl
  | cons entry rest inductionHypothesis =>
      rw [keys_cons, List.mem_cons, not_or] at fresh
      rw [← Prod.eta entry, insert, if_neg (Ne.symm fresh.1), inductionHypothesis fresh.2]
      rfl

/-- Inserting what is there already changes nothing. -/
theorem insert_of_get? {key : κ} {value : ν} {entries : Entries κ ν}
    (found : get? entries key = some value) : insert key value entries = entries := by
  induction entries with
  | nil => cases found
  | cons entry rest inductionHypothesis =>
      rcases entry with ⟨other, previous⟩
      rw [get?_cons] at found
      rw [insert]
      by_cases same : other = key
      · rw [if_pos same] at found ⊢
        cases found
        rw [same]
      · rw [if_neg same] at found ⊢
        rw [inductionHypothesis found]

theorem keys_insert_of_mem {key : κ} (value : ν) {entries : Entries κ ν}
    (member : key ∈ keys entries) : keys (insert key value entries) = keys entries := by
  induction entries with
  | nil => cases member
  | cons entry rest inductionHypothesis =>
      rcases entry with ⟨other, previous⟩
      rw [insert]
      by_cases same : other = key
      · rw [if_pos same, keys_cons, keys_cons, same]
      · rw [keys_cons, List.mem_cons] at member
        rw [if_neg same, keys_cons, keys_cons,
          inductionHypothesis (member.resolve_left (Ne.symm same))]

theorem mem_keys_insert (key other : κ) (value : ν) (entries : Entries κ ν) :
    other ∈ keys (insert key value entries) ↔ other = key ∨ other ∈ keys entries := by
  by_cases member : key ∈ keys entries
  · rw [keys_insert_of_mem value member]
    constructor
    · exact Or.inr
    · rintro (same | there)
      · exact same ▸ member
      · exact there
  · rw [insert_of_not_mem value member]
    simp [or_comm]

theorem nodup_keys_insert (key : κ) (value : ν) {entries : Entries κ ν}
    (distinct : (keys entries).Nodup) : (keys (insert key value entries)).Nodup := by
  by_cases member : key ∈ keys entries
  · rw [keys_insert_of_mem value member]
    exact distinct
  · rw [insert_of_not_mem value member, keys_append, List.nodup_append]
    refine ⟨distinct, List.nodup_singleton key, ?_⟩
    intro other there last inLast same
    have atKey : other = key := same.trans (List.mem_singleton.mp inLast)
    exact member (atKey ▸ there)

/-! ## Pairs inserted from left to right -/

theorem get?_foldl_insert (pairs : List (κ × ν)) (entries : Entries κ ν) (key : κ) :
    get? (pairs.foldl (fun entries pair => insert pair.1 pair.2 entries) entries) key =
      (get? pairs.reverse key).or (get? entries key) := by
  induction pairs generalizing entries with
  | nil => rfl
  | cons pair rest inductionHypothesis =>
      rw [List.foldl_cons, inductionHypothesis, get?_insert, List.reverse_cons, get?_append,
        get?_cons, Option.or_assoc]
      split <;> rfl

/-- Of equal keys the last gives the value. -/
theorem get?_ofPairs (pairs : List (κ × ν)) (key : κ) :
    get? (ofPairs pairs) key = get? pairs.reverse key := by
  rw [ofPairs, get?_foldl_insert, get?_nil, Option.or_none]

theorem nodup_keys_foldl_insert (pairs : List (κ × ν)) {entries : Entries κ ν}
    (distinct : (keys entries).Nodup) :
    (keys (pairs.foldl (fun entries pair => insert pair.1 pair.2 entries) entries)).Nodup := by
  induction pairs generalizing entries with
  | nil => exact distinct
  | cons pair rest inductionHypothesis =>
      exact inductionHypothesis (nodup_keys_insert pair.1 pair.2 distinct)

/-- A table built by insertions has distinct keys. -/
theorem nodup_keys_ofPairs (pairs : List (κ × ν)) : (keys (ofPairs pairs)).Nodup :=
  nodup_keys_foldl_insert pairs List.nodup_nil

/-- Keys that are not there yet are appended, in the order in which they come first. -/
theorem keys_foldl_insert (pairs : List (κ × ν)) (entries : Entries κ ν) :
    keys (pairs.foldl (fun entries pair => insert pair.1 pair.2 entries) entries) =
      keys entries ++ ((keys pairs).filter (· ∉ keys entries)).eraseDups := by
  induction pairs generalizing entries with
  | nil => simp
  | cons pair rest inductionHypothesis =>
      rw [List.foldl_cons, inductionHypothesis, keys_cons]
      by_cases member : pair.1 ∈ keys entries
      · rw [keys_insert_of_mem pair.2 member, List.filter_cons_of_neg (by simpa using member)]
      · rw [insert_of_not_mem pair.2 member, List.filter_cons_of_pos (by simpa using member),
          List.eraseDups_cons, List.filter_filter, keys_append, List.append_assoc, keys_cons,
          keys_nil, List.singleton_append]
        congr 4
        funext key
        rw [Bool.eq_iff_iff]
        simp [and_comm]

/-- Of equal keys the first gives the place. -/
theorem keys_ofPairs (pairs : List (κ × ν)) : keys (ofPairs pairs) = (keys pairs).eraseDups := by
  rw [ofPairs, keys_foldl_insert]
  simp

theorem mem_of_mem_ofPairs {pairs : List (κ × ν)} {key : κ} {value : ν}
    (member : (key, value) ∈ ofPairs pairs) : (key, value) ∈ pairs := by
  have found := get?_of_mem (nodup_keys_ofPairs pairs) member
  rw [get?_ofPairs] at found
  exact List.mem_reverse.mp (mem_of_get? found)

theorem foldl_insert_of_nodup (pairs : List (κ × ν)) (entries : Entries κ ν)
    (distinct : (keys (entries ++ pairs)).Nodup) :
    pairs.foldl (fun entries pair => insert pair.1 pair.2 entries) entries = entries ++ pairs := by
  induction pairs generalizing entries with
  | nil => exact (List.append_nil entries).symm
  | cons pair rest inductionHypothesis =>
      have fresh : pair.1 ∉ keys entries := by
        rw [keys_append, List.nodup_append] at distinct
        intro member
        exact distinct.2.2 pair.1 member pair.1 List.mem_cons_self rfl
      rw [List.foldl_cons, insert_of_not_mem pair.2 fresh, Prod.eta,
        inductionHypothesis _ (by rwa [List.append_assoc, List.singleton_append]),
        List.append_assoc, List.singleton_append]

/-- Pairs with distinct keys are a table as they stand. -/
theorem ofPairs_of_nodup {pairs : List (κ × ν)} (distinct : (keys pairs).Nodup) :
    ofPairs pairs = pairs :=
  foldl_insert_of_nodup pairs [] distinct

theorem foldl_insert_of_get? (pairs : List (κ × ν)) (entries : Entries κ ν)
    (found : ∀ pair ∈ pairs, get? entries pair.1 = some pair.2) :
    pairs.foldl (fun entries pair => insert pair.1 pair.2 entries) entries = entries := by
  induction pairs with
  | nil => rfl
  | cons pair rest inductionHypothesis =>
      rw [List.foldl_cons, insert_of_get? (found pair List.mem_cons_self)]
      exact inductionHypothesis fun other member => found other (List.mem_cons_of_mem _ member)

/-- With distinct keys a look-up does not depend on the direction. -/
theorem get?_reverse {entries : Entries κ ν} (distinct : (keys entries).Nodup) (key : κ) :
    get? entries.reverse key = get? entries key := by
  rw [← get?_ofPairs, ofPairs_of_nodup distinct]

end Entries
end TaggedContent
