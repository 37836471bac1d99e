import Mathlib.Data.List.Basic
import TaggedContent.Resolution.LocksAndMarks
import TaggedContent.Tag

namespace TaggedContent

/-!
# Reading names with at most one tag

A cut succeeds exactly when the separator occurs, and the last cut leaves no
separator behind it.  From this the reading of every name of a simple shape is
computed: a base without `@`, then possibly one tag, then possibly the mark.  Every
other kind of entry than a plain one has `@` in its name.
-/

/-- The name less its mark and tag: the key that the entry resolves to when it is kept. -/
def TaggedKey.base (key : TaggedKey) : String :=
  match key.form with
  | .plain => key.stripped
  | .locale base _ => base
  | .parameter base _ _ => base

namespace Tag

/-! ## Cuts -/

theorem cutLast_eq_none_iff (separator : Char) (text : List Char) :
    cutLast separator text = none ↔ separator ∉ text := by
  induction text with
  | nil => simp [cutLast]
  | cons head tail inductionHypothesis =>
      rw [cutLast, List.mem_cons, not_or, ← inductionHypothesis]
      cases cutLast separator tail with
      | some parts => simp
      | none => by_cases same : separator = head <;> simp [same, eq_comm]

theorem eq_append_of_cutLast {separator : Char} {text before after : List Char}
    (cut : cutLast separator text = some (before, after)) :
    text = before ++ separator :: after ∧ separator ∉ after := by
  induction text generalizing before with
  | nil => cases cut
  | cons head tail inductionHypothesis =>
      rw [cutLast] at cut
      cases later : cutLast separator tail with
      | some parts =>
          rw [later] at cut
          cases cut
          rcases inductionHypothesis later with ⟨split, clean⟩
          exact ⟨by rw [split]; rfl, clean⟩
      | none =>
          rw [later] at cut
          by_cases same : head = separator
          · simp only [if_pos same] at cut
            cases cut
            exact ⟨by rw [same]; rfl, (cutLast_eq_none_iff separator _).mp later⟩
          · simp only [if_neg same] at cut
            cases cut

theorem cutLast_append {separator : Char} {after : List Char} (clean : separator ∉ after)
    (before : List Char) :
    cutLast separator (before ++ separator :: after) = some (before, after) := by
  induction before with
  | nil =>
      rw [List.nil_append, cutLast, (cutLast_eq_none_iff separator after).mpr clean]
      simp
  | cons head tail inductionHypothesis =>
      rw [List.cons_append, cutLast, inductionHypothesis]

theorem eq_append_of_cutFirst {separator : Char} {text before after : List Char}
    (cut : cutFirst separator text = some (before, after)) :
    text = before ++ separator :: after ∧ separator ∉ before := by
  induction text generalizing before with
  | nil => cases cut
  | cons head tail inductionHypothesis =>
      rw [cutFirst] at cut
      by_cases same : head = separator
      · rw [if_pos same] at cut
        cases cut
        exact ⟨by rw [same]; rfl, List.not_mem_nil⟩
      · rw [if_neg same, Option.map_eq_some_iff] at cut
        rcases cut with ⟨⟨first, last⟩, later, joined⟩
        cases joined
        rcases inductionHypothesis later with ⟨split, clean⟩
        refine ⟨by rw [split]; rfl, ?_⟩
        rw [List.mem_cons, not_or]
        exact ⟨Ne.symm same, clean⟩

theorem cutFirst_append {separator : Char} {before : List Char} (clean : separator ∉ before)
    (after : List Char) :
    cutFirst separator (before ++ separator :: after) = some (before, after) := by
  induction before with
  | nil => rw [List.nil_append, cutFirst, if_pos rfl]
  | cons head tail inductionHypothesis =>
      rw [List.mem_cons, not_or] at clean
      rw [List.cons_append, cutFirst, if_neg (Ne.symm clean.1), inductionHypothesis clean.2]
      rfl

/-- A tail is read as a parameter exactly when it is cut at its first dot into two parts
that are not empty. -/
theorem parameterParts?_eq_some_iff {tail name value : List Char} :
    parameterParts? tail = some (name, value) ↔
      tail = name ++ '.' :: value ∧ '.' ∉ name ∧ name ≠ [] ∧ value ≠ [] := by
  constructor
  · intro parts
    rw [parameterParts?] at parts
    cases cut : cutFirst '.' tail with
    | none => simp only [cut, reduceCtorEq] at parts
    | some found =>
        simp only [cut] at parts
        split at parts
        case isTrue => cases parts
        case isFalse given =>
            cases parts
            rcases eq_append_of_cutFirst cut with ⟨split, clean⟩
            simp only [Bool.or_eq_true, List.isEmpty_iff, not_or] at given
            exact ⟨split, clean, given.1, given.2⟩
  · rintro ⟨split, clean, named, valued⟩
    rw [parameterParts?, split, cutFirst_append clean]
    simp [named, valued]

/-! ## Forms -/

theorem formOf_of_clean (registered : String → Bool) {text : List Char} (clean : '@' ∉ text) :
    formOf registered text = .plain := by
  rw [formOf, (cutLast_eq_none_iff '@' text).mpr clean]

/-- The base of a tagged text is the part before its tag, whatever the tag is read as. -/
theorem base_formOf_append (registered : String → Bool) (stripped : String) (marked : Bool)
    (base : List Char) {tag : List Char} (given : tag ≠ []) (clean : '@' ∉ tag) :
    TaggedKey.base ⟨stripped, marked, formOf registered (base ++ '@' :: tag)⟩ = .ofList base := by
  cases tag with
  | nil => exact absurd rfl given
  | cons head tail =>
      simp only [formOf, cutLast_append clean]
      cases parameterParts? (head :: tail) with
      | none => rfl
      | some parts =>
          dsimp only
          split <;> rfl

theorem eq_append_of_formOf_parameter {registered : String → Bool} {text : List Char}
    {base name argument : String} (form : formOf registered text = .parameter base name argument) :
    text = base.toList ++ '@' :: (name.toList ++ '.' :: argument.toList) ∧
      '@' ∉ name.toList ++ '.' :: argument.toList := by
  rw [formOf] at form
  split at form
  case h_1 => cases form
  case h_2 => cases form
  case h_3 before after _ cut =>
      rcases eq_append_of_cutLast cut with ⟨split, clean⟩
      split at form
      case h_2 => cases form
      case h_1 first last parts =>
          split at form <;> cases form
          rw [(parameterParts?_eq_some_iff.mp parts).1] at split clean
          simpa only [String.toList_ofList] using And.intro split clean

/-! ## Names -/

/-- What a name that is not a comment is read as. -/
theorem of_ofKey_eq_tagged {table : Option Parameter.Table} {name : String} {key : TaggedKey}
    (tagged : ofKey table name = .tagged key) :
    key.marked = ['@'].isSuffixOf name.toList ∧
      key.stripped = .ofList (if key.marked then name.toList.dropLast else name.toList) ∧
      key.form = formOf (isRegistered table) key.stripped.toList := by
  dsimp only [ofKey] at tagged
  split at tagged
  · cases tagged
  · cases tagged
    exact ⟨rfl, rfl, by rw [String.toList_ofList]⟩

theorem ofKey_of_comment (table : Option Parameter.Table) {name : String}
    (suffixed : ['@', '#'] <:+ name.toList) : ofKey table name = .comment := by
  rw [ofKey, if_pos (List.isSuffixOf_iff_suffix.mpr suffixed)]

/-- Without `@` a name is plain and unmarked. -/
theorem ofKey_of_clean (table : Option Parameter.Table) {name : String}
    (clean : '@' ∉ name.toList) : ofKey table name = .tagged ⟨name, false, .plain⟩ := by
  have noSuffix : ∀ rest, ('@' :: rest).isSuffixOf name.toList = false := by
    intro rest
    rw [Bool.eq_false_iff, Ne, List.isSuffixOf_iff_suffix]
    intro suffixed
    exact clean (suffixed.subset List.mem_cons_self)
  simp only [ofKey, noSuffix, Bool.false_eq_true, if_false, formOf_of_clean _ clean,
    String.ofList_toList]

/-- A mark is taken off before the form is read, and is never part of a comment. -/
theorem ofKey_of_marked (table : Option Parameter.Table) {name : String} {text : List Char}
    (marked : name.toList = text ++ ['@']) :
    ofKey table name = .tagged ⟨.ofList text, true, formOf (isRegistered table) text⟩ := by
  have notComment : ['@', '#'].isSuffixOf name.toList = false := by
    rw [marked]
    simp [List.isSuffixOf, List.isPrefixOf]
  have isMarked : ['@'].isSuffixOf name.toList = true := by
    rw [List.isSuffixOf_iff_suffix, marked]
    exact List.suffix_append text ['@']
  simp only [ofKey, notComment, isMarked, Bool.false_eq_true, if_false, if_true]
  rw [marked, List.dropLast_concat]

/-- The alias of a clean name is read as that name, plain and marked. -/
theorem ofKey_aliasOf (table : Option Parameter.Table) {name : String}
    (clean : '@' ∉ name.toList) :
    ofKey table (Resolution.aliasOf name) = .tagged ⟨name, true, .plain⟩ := by
  have marked : (Resolution.aliasOf name).toList = name.toList ++ ['@'] := by
    rw [Resolution.aliasOf, String.toList_append]
    rfl
  rw [ofKey_of_marked table marked, formOf_of_clean _ clean, String.ofList_toList]

/-- The argument of a parameter has no `@` in it. -/
theorem not_mem_argument {table : Option Parameter.Table} {name stripped : String}
    {marked : Bool} {base parameter argument : String}
    (tagged : ofKey table name = .tagged ⟨stripped, marked, .parameter base parameter argument⟩) :
    '@' ∉ argument.toList := by
  have form := (of_ofKey_eq_tagged tagged).2.2
  intro member
  exact (eq_append_of_formOf_parameter form.symm).2
    (List.mem_append_right _ (List.mem_cons_of_mem _ member))

/-- Locale entries and parameterized entries have an `@` in their names. -/
theorem mem_toList_of_form_ne_plain {table : Option Parameter.Table} {name : String}
    {key : TaggedKey} (tagged : ofKey table name = .tagged key) (form : key.form ≠ .plain) :
    '@' ∈ name.toList := by
  by_contra clean
  rw [ofKey_of_clean table clean] at tagged
  cases tagged
  exact form rfl

/-! ## Simple shapes -/

/-- A comment, or a base without `@` with at most one tag and at most one mark. -/
def HasSimpleShape (name : String) : Prop :=
  ['@', '#'] <:+ name.toList ∨
    ∃ base mark : List Char, '@' ∉ base ∧ (mark = [] ∨ mark = ['@']) ∧
      (name.toList = base ++ mark ∨
        ∃ tag : List Char, tag ≠ [] ∧ '@' ∉ tag ∧ name.toList = base ++ '@' :: tag ++ mark)

/-- The text that is left of a name when its mark is taken off. -/
theorem stripped_of_append_mark {table : Option Parameter.Table} {name : String}
    {key : TaggedKey} (tagged : ofKey table name = .tagged key) {text mark : List Char}
    (isMark : mark = [] ∨ mark = ['@']) (open_ : ¬ ['@'] <:+ text)
    (split : name.toList = text ++ mark) : key.stripped.toList = text := by
  rcases of_ofKey_eq_tagged tagged with ⟨marked, stripped, _⟩
  rcases isMark with none | one
  · subst none
    rw [List.append_nil] at split
    have unmarked : key.marked = false := by
      rw [marked, Bool.eq_false_iff, Ne, List.isSuffixOf_iff_suffix, split]
      exact open_
    rw [stripped, unmarked, String.toList_ofList, split]
    rfl
  · subst one
    have isMarked : key.marked = true := by
      rw [marked, List.isSuffixOf_iff_suffix, split]
      exact List.suffix_append text ['@']
    rw [stripped, isMarked, String.toList_ofList, split, if_pos rfl, List.dropLast_concat]

/-- A text that goes on after its last `@` has no mark. -/
theorem not_suffix_of_tag (base : List Char) {tag : List Char} (given : tag ≠ [])
    (clean : '@' ∉ tag) : ¬ ['@'] <:+ base ++ '@' :: tag := by
  intro suffixed
  have whole : tag <:+ base ++ '@' :: tag :=
    (List.suffix_cons '@' tag).trans (List.suffix_append base _)
  have inTag := List.suffix_of_suffix_length_le suffixed whole (List.length_pos_iff.mpr given)
  exact clean (inTag.subset List.mem_cons_self)

/-- An entry with a name of a simple shape resolves to a key without `@`. -/
theorem HasSimpleShape.base_clean {table : Option Parameter.Table} {name : String}
    {key : TaggedKey} (simple : HasSimpleShape name) (tagged : ofKey table name = .tagged key) :
    '@' ∉ key.base.toList := by
  rcases key with ⟨stripped, marked, form⟩
  rcases simple with comment |
    ⟨base, mark, clean, isMark, untagged | ⟨tag, given, cleanTag, withTag⟩⟩
  · rw [ofKey_of_comment table comment] at tagged
    cases tagged
  · have bare := stripped_of_append_mark tagged isMark
      (fun suffixed => clean (suffixed.subset List.mem_cons_self)) untagged
    have plain := (of_ofKey_eq_tagged tagged).2.2
    rw [bare, formOf_of_clean _ clean] at plain
    dsimp only at bare plain
    simpa only [TaggedKey.base, plain, bare] using clean
  · have open_ := not_suffix_of_tag base given cleanTag
    have bare := stripped_of_append_mark tagged isMark open_ withTag
    have form := (of_ofKey_eq_tagged tagged).2.2
    dsimp only at bare form
    rw [form, bare, base_formOf_append _ _ _ _ given cleanTag, String.toList_ofList]
    exact clean

end Tag
end TaggedContent
