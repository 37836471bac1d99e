import TaggedContent.Proofs.Resolution.Thinning
import TaggedContent.Proofs.Tag.Registered

namespace TaggedContent

/-!
# Disabling a parameter

To register a parameter as disabled is to delete its entries.  A name that has the
parameter in its tag becomes inapplicable.  Every other name is read as before, since the
table matters to it only through the one parameter name that it has.  No entry that a
resolver can look up is deleted, so the resolvers see the same fields.
-/

namespace Tag

/-- The text less one `@` at its end. -/
def unmarked (letters : List Char) : List Char :=
  if ['@'].isSuffixOf letters then letters.dropLast else letters

/-- Whether the name, less its mark, goes on after its last `@` with the parameter, a dot
and a text that is not empty. -/
def givesValueTo (parameter key : String) : Bool :=
  match cutLast '@' (unmarked key.toList) with
  | some (_, tail) =>
      (parameter.toList ++ ['.']).isPrefixOf tail && parameter.toList.length + 1 < tail.length
  | none => false

theorem unmarked_append {text mark : List Char} (isMark : mark = [] ∨ mark = ['@'])
    (unfinished : ¬ ['@'] <:+ text) : unmarked (text ++ mark) = text := by
  rcases isMark with none | one
  · subst none
    rw [List.append_nil, unmarked, if_neg]
    rwa [List.isSuffixOf_iff_suffix]
  · subst one
    rw [unmarked, if_pos, List.dropLast_concat]
    rw [List.isSuffixOf_iff_suffix]
    exact List.suffix_append text ['@']

theorem exists_mark (letters : List Char) :
    ∃ mark, (mark = [] ∨ mark = ['@']) ∧ letters = unmarked letters ++ mark := by
  rw [unmarked]
  split
  case isTrue marked =>
      rcases List.isSuffixOf_iff_suffix.mp marked with ⟨before, split⟩
      refine ⟨['@'], Or.inr rfl, ?_⟩
      rw [← split, List.dropLast_concat]
  case isFalse => exact ⟨[], Or.inl rfl, (List.append_nil letters).symm⟩

section

variable {parameter key : String}

theorem isPrefixOf_dot_iff {tail : List Char} :
    ((parameter.toList ++ ['.']).isPrefixOf tail &&
        parameter.toList.length + 1 < tail.length) = true ↔
      ∃ value, value ≠ [] ∧ tail = parameter.toList ++ '.' :: value := by
  rw [Bool.and_eq_true, List.isPrefixOf_iff_prefix, decide_eq_true_eq]
  constructor
  · rintro ⟨⟨value, split⟩, longer⟩
    refine ⟨value, ?_, ?_⟩
    · rintro rfl
      rw [List.append_nil] at split
      simp [← split] at longer
    · rw [← split, List.append_assoc, List.singleton_append]
  · rintro ⟨value, given, split⟩
    refine ⟨⟨value, ?_⟩, ?_⟩
    · rw [split, List.append_assoc, List.singleton_append]
    · have longer := List.length_pos_iff.mpr given
      simp only [split, List.length_append, List.length_cons]
      omega

theorem hasParameterName_iff :
    HasParameterName key parameter ↔ ∃ base value mark : List Char, (mark = [] ∨ mark = ['@']) ∧
      key.toList = base ++ '@' :: (parameter.toList ++ '.' :: value) ++ mark ∧
      '@' ∉ parameter.toList ++ '.' :: value ∧ '.' ∉ parameter.toList ∧ parameter ≠ "" ∧
      value ≠ [] := by
  constructor
  · rintro ⟨base, value, mark, isMark, split, clean, noDot, named, valued⟩
    refine ⟨base.toList, value.toList, mark.toList, ?_, ?_, by simpa using clean, noDot, named, ?_⟩
    · rcases isMark with rfl | rfl
      · exact Or.inl rfl
      · exact Or.inr rfl
    · simp [split]
    · rwa [Ne, String.toList_eq_nil_iff]
  · rintro ⟨base, value, mark, isMark, split, clean, noDot, named, valued⟩
    refine ⟨.ofList base, .ofList value, .ofList mark, ?_, ?_, by simpa using clean, noDot, named,
      ?_⟩
    · rcases isMark with rfl | rfl
      · exact Or.inl rfl
      · exact Or.inr rfl
    · rw [← String.toList_inj, split]
      simp
    · rwa [Ne, ← String.toList_eq_nil_iff, String.toList_ofList]

/-- A name that can be addressed is given a value by exactly the names that have it. -/
theorem givesValueTo_iff (addressable : Parameter.Addressable parameter) :
    givesValueTo parameter key = true ↔ HasParameterName key parameter := by
  rcases addressable with ⟨named, noAt, noDot⟩
  rw [hasParameterName_iff, givesValueTo]
  constructor
  · intro gives
    cases cut : cutLast '@' (unmarked key.toList) with
    | none =>
        rw [cut] at gives
        cases gives
    | some parts =>
        rcases parts with ⟨base, tail⟩
        rw [cut] at gives
        rcases isPrefixOf_dot_iff.mp gives with ⟨value, valued, same⟩
        rcases eq_append_of_cutLast cut with ⟨split, clean⟩
        rcases exists_mark key.toList with ⟨mark, isMark, whole⟩
        subst same
        rw [split] at whole
        exact ⟨base, value, mark, isMark, whole, clean, noDot, named, valued⟩
  · rintro ⟨base, value, mark, isMark, split, clean, _, _, valued⟩
    have unfinished := not_suffix_of_tag base (List.append_ne_nil_of_right_ne_nil _ (by simp)) clean
    rw [split, unmarked_append isMark unfinished, cutLast_append clean]
    exact isPrefixOf_dot_iff.mpr ⟨value, valued, rfl⟩

end
end Tag

namespace Resolution

variable {locale : Option String} {table : Option Parameter.Table} {extended : Parameter.Table}
  {parameter : String}

/-- The names that have the disabled parameter are inapplicable, and all others are read
as without the registration. -/
theorem Settings.thins_of_disabled
    (disabled : (table.getD .empty).register parameter none = .ok extended) :
    Settings.Thins ⟨locale, some extended⟩ ⟨locale, table⟩ (Tag.givesValueTo parameter) := by
  rcases Parameter.Table.register_eq_ok_iff_fresh.mp disabled with ⟨addressable, -, rfl⟩
  have registered : ∀ name, Tag.isRegistered
      (some ⟨Entries.insert parameter none (table.getD .empty).registrations⟩) name =
        (decide (parameter = name) || Tag.isRegistered table name) := by
    intro name
    rw [Tag.isRegistered, Parameter.Table.contains, Entries.get?_insert]
    by_cases here : parameter = name
    · simp [here]
    · cases table <;> simp [here, Tag.isRegistered, Parameter.Table.contains, Parameter.Table.empty]
  have resolver : ∀ name, Settings.resolver?
      ⟨locale, some ⟨Entries.insert parameter none (table.getD .empty).registrations⟩⟩ name =
        if parameter = name then none else Settings.resolver? ⟨locale, table⟩ name := by
    intro name
    rw [Settings.resolver?, Option.bind_some, Parameter.Table.resolver?, Entries.get?_insert]
    by_cases here : parameter = name
    · simp [here]
    · cases table <;>
        simp [here, Settings.resolver?, Parameter.Table.resolver?, Parameter.Table.empty]
  constructor
  · intro name among
    have has := (Tag.givesValueTo_iff addressable).mp among
    rcases Tag.ofKey_of_hasParameterName has
        (by rw [registered, decide_eq_true rfl, Bool.true_or]) with
      ⟨stripped, marked, base, argument, read⟩
    rw [Settings.Inapplicable, read]
    dsimp only
    rw [resolver, if_pos rfl]
  · intro name stays
    have other : ∀ found, Tag.HasParameterName name found → parameter ≠ found := by
      rintro found has rfl
      rw [(Tag.givesValueTo_iff addressable).mpr has] at stays
      cases stays
    refine ⟨rfl, Tag.ofKey_congr fun found has => ?_, fun read => ?_⟩
    · rw [registered, decide_eq_false (other found has), Bool.false_or]
    · rw [resolver, if_neg (other _ (Tag.hasParameterName_of_ofKey read))]

/-- To register a parameter as disabled is to delete the entries whose names give it a
value, at every depth: both resolve to the same tree, or fail in the same way. -/
theorem Settings.resolve_disabled
    (disabled : (table.getD .empty).register parameter none = .ok extended) (tree : Tree) :
    Settings.resolve ⟨locale, some extended⟩ tree =
      Settings.resolve ⟨locale, table⟩ (tree.without (Tag.givesValueTo parameter)) := by
  have thins : Settings.Thins ⟨locale, some extended⟩ ⟨locale, table⟩
      (Tag.givesValueTo parameter) := Settings.thins_of_disabled disabled
  have agree := Walk.resolveTree_without thins .root .initial tree .root
  have same := agree.outcome_fst (Progress.freshBelow_initial .root).shifted
  rw [Path.below_root, ← Settings.resolve_eq_outcome, ← Settings.resolve_eq_outcome] at same
  rw [same]
  rcases Settings.resolve ⟨locale, table⟩ _ with _ | _ <;> rfl

/-- Without the registration the entry in front would be a locale entry that applies, and
the marked one below would not compile. -/
theorem Settings.resolve_disabled_environment :
    let extended : Parameter.Table := ⟨[("user", some (.literal "admin")), ("env", none)]⟩
    let table : Parameter.Table := ⟨[("user", some (.literal "admin"))]⟩
    let tree : Tree := .sequence [.mapping [(.name "url@env.prod", .string "https"),
      (.name "url@user.admin", .mapping [(.name "items@env.(@", .sequence [])]),
      (.name "url", .string "http")]]
    table.register "env" none = .ok extended ∧
      Settings.resolve ⟨some "env-prod", some extended⟩ tree =
        Settings.resolve ⟨some "env-prod", some table⟩ (.sequence [.mapping [
          (.name "url@user.admin", .mapping []), (.name "url", .string "http")]]) := by
  intro extended table tree
  have disabled : ((some table).getD .empty).register "env" none = .ok extended := rfl
  exact ⟨disabled, Settings.resolve_disabled disabled tree⟩

end Resolution
end TaggedContent
