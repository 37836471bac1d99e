import TaggedContent.Proofs.Parameter.Registration
import TaggedContent.Proofs.Tag.Grammar

namespace TaggedContent
namespace Tag

open Parameter (Addressable Registration)

/-!
# Registered names in tags

A registration and the grammar agree about which names a tag can give.  A registered name
has no separator in it, so in `base@name.value` the last `@` is the one before the name
and the first dot after it is the one behind the name, whatever the base and the value
are.  Conversely a name that is read from a tag was cut out at these two separators, and
what is cut out there can be registered.
-/

section

variable {table : Option Parameter.Table} {base name value : String}

/-- A name that can be addressed, and a value, are the two parts of the tag. -/
theorem isParameter_of_addressable (addressable : Addressable name)
    (registered : isRegistered table name = true) (given : value ≠ "") :
    IsParameter table (name ++ "." ++ value) name value :=
  ⟨rfl, addressable.2.2, addressable.1, given, registered⟩

theorem clean_parts_iff :
    '@' ∉ (name ++ "." ++ value).toList ↔ '@' ∉ name.toList ∧ '@' ∉ value.toList := by
  rw [toList_parts.mp rfl, List.mem_append, List.mem_cons, not_or, not_or]
  simp

/-- A tagged key whose tag goes on after the last `@` shows its mark. -/
theorem marked_iff_of_tag {stripped tail : String} {form : TagForm} {marked : Bool}
    (cut : stripped = base ++ "@" ++ tail) (given : tail ≠ "") (clean : '@' ∉ tail.toList) :
    marked = true ↔ ['@'] <:+ (TaggedKey.render ⟨stripped, marked, form⟩).toList := by
  cases marked with
  | true =>
      refine iff_of_true rfl ?_
      rw [TaggedKey.render, if_pos rfl, String.toList_append]
      exact List.suffix_append stripped.toList ['@']
  | false =>
      refine iff_of_false Bool.false_ne_true ?_
      rw [TaggedKey.render, if_neg Bool.false_ne_true, toList_cut.mp cut]
      exact not_suffix_of_tag base.toList (fun empty => given (String.toList_eq_nil_iff.mp empty))
        clean

/-- A name that a tag has can be addressed. -/
theorem HasParameterName.addressable {key : String} (has : HasParameterName key name) :
    Addressable name := by
  rcases has with ⟨base, value, mark, _, _, clean, noDot, named, _⟩
  exact ⟨named, (clean_parts_iff.mp clean).1, noDot⟩

/-- Whatever stands before the tag, a registered name in it is read back with its value. -/
theorem ofKey_render_parameter (addressable : Addressable name)
    (registered : isRegistered table name = true) (given : value ≠ "")
    (clean : '@' ∉ value.toList) (base : String) (marked : Bool) :
    let key : TaggedKey :=
      ⟨base ++ "@" ++ (name ++ "." ++ value), marked, .parameter base name value⟩
    ofKey table key.render = .tagged key := by
  intro key
  have tailClean := clean_parts_iff.mpr ⟨addressable.2.1, clean⟩
  have parts := isParameter_of_addressable addressable registered given
  have tailGiven : name ++ "." ++ value ≠ "" := by
    intro empty
    exact addressable.1 (by simpa using congrArg String.toList empty)
  have wellFormed : WellFormed table key :=
    ⟨.parameter rfl tailClean parts, marked_iff_of_tag rfl tailGiven tailClean⟩
  refine ofKey_eq_tagged_iff.mpr ⟨fun suffixed => ?_, rfl, wellFormed⟩
  -- Only a locale tag can be written like a comment.
  rcases (locale_of_comment_suffix wellFormed suffixed).2 with ⟨_, form⟩
  cases form

/-- A name with a registered parameter is read as a parameterized one. -/
theorem ofKey_of_hasParameterName {key : String} (has : HasParameterName key name)
    (registered : isRegistered table name = true) :
    ∃ stripped marked base value,
      ofKey table key = .tagged ⟨stripped, marked, .parameter base name value⟩ := by
  have addressable := has.addressable
  rcases has with ⟨base, value, mark, isMark, split, clean, _, _, valued⟩
  have valueClean := (clean_parts_iff.mp clean).2
  have reads := ofKey_render_parameter addressable registered valued valueClean base
  rcases isMark with none | one
  · rw [split, none, String.append_empty]
    exact ⟨_, false, base, value, reads false⟩
  · rw [split, one]
    exact ⟨_, true, base, value, reads true⟩

/-- A key whose last tag is `name.value` is written with it, with the mark or without. -/
theorem hasParameterName_render {stripped : String} {form : TagForm}
    (cut : stripped = base ++ "@" ++ (name ++ "." ++ value))
    (clean : '@' ∉ (name ++ "." ++ value).toList) (noDot : '.' ∉ name.toList) (named : name ≠ "")
    (valued : value ≠ "") (marked : Bool) :
    HasParameterName (TaggedKey.render ⟨stripped, marked, form⟩) name := by
  refine ⟨base, value, if marked then "@" else "", ?_, ?_, clean, noDot, named, valued⟩
  · cases marked <;> simp
  · rw [TaggedKey.render]
    dsimp only
    rw [cut]
    cases marked <;> simp

/-- A parameterized name has the parameter that it is read with. -/
theorem hasParameterName_of_ofKey {key stripped : String} {marked : Bool}
    (read : ofKey table key = .tagged ⟨stripped, marked, .parameter base name value⟩) :
    HasParameterName key name := by
  rcases ofKey_eq_tagged_iff.mp read with ⟨_, written, form, _⟩
  cases form with
  | @parameter _ tail _ _ cut clean parts =>
      rcases parts with ⟨same, noDot, named, valued, _⟩
      subst same
      rw [← written]
      exact hasParameterName_render cut clean noDot named valued marked

end

/-- Registration accepts exactly the names that the grammar can address.  A name in a
table that registrations have built is read back from every tag that gives it a value, with
and without the mark, whatever stands before the tag and whichever other names are in the
table.  Any name that is read as a parameter, with any table, can be registered.  Hence a
name can be registered when some tag can give it, and only then. -/
theorem ofKey_registered :
    (∀ (calls : List Registration) (base name value : String),
      name ∈ (Parameter.Table.empty.run calls).names → value ≠ "" → '@' ∉ value.toList →
      let key := base ++ "@" ++ (name ++ "." ++ value)
      ofKey (some (Parameter.Table.empty.run calls)) key =
          .tagged ⟨key, false, .parameter base name value⟩ ∧
        ofKey (some (Parameter.Table.empty.run calls)) (key ++ "@") =
          .tagged ⟨key, true, .parameter base name value⟩) ∧
    (∀ (table : Option Parameter.Table) (key stripped base name value : String) (marked : Bool),
      ofKey table key = .tagged ⟨stripped, marked, .parameter base name value⟩ →
      ∀ resolver, Parameter.Table.empty.register name resolver = .ok ⟨[(name, resolver)]⟩) ∧
    ∀ (name : String) (resolver : Option Parameter.Resolver),
      (∃ extended, Parameter.Table.empty.register name resolver = .ok extended) ↔
        ∃ table key stripped marked base value,
          ofKey table key = .tagged ⟨stripped, marked, .parameter base name value⟩ := by
  refine ⟨?_, ?_, ?_⟩
  · intro calls base name value there given clean
    have addressable := (Parameter.Table.valid_empty.run calls).addressable name there
    have registered : isRegistered (some (Parameter.Table.empty.run calls)) name = true :=
      Parameter.Table.contains_iff.mpr there
    exact ⟨ofKey_render_parameter addressable registered given clean base false,
      ofKey_render_parameter addressable registered given clean base true⟩
  · intro table key stripped base name value marked read resolver
    exact Parameter.Table.register_empty (hasParameterName_of_ofKey read).addressable
  · intro name resolver
    constructor
    · rintro ⟨extended, registered⟩
      rcases Parameter.Table.register_eq_ok_iff_fresh.mp registered with ⟨addressable, _, _⟩
      have known : isRegistered (some ⟨[(name, resolver)]⟩) name = true :=
        Parameter.Table.contains_iff.mpr List.mem_cons_self
      have given : "#" ≠ "" := by decide
      exact ⟨_, _, _, _, _, _, ofKey_render_parameter addressable known given (by decide) "" false⟩
    · rintro ⟨table, key, stripped, marked, base, value, read⟩
      exact ⟨_, Parameter.Table.register_empty (hasParameterName_of_ofKey read).addressable⟩

/-- The disabled name `en` is how `env` begins.  A base may have an `@` of its own, and a
value dots and a `#` at its end. -/
theorem ofKey_registered_prefixes :
    let table := Parameter.Table.empty.run
      [("en", none), ("env", some (.literal "prod")), ("en.v", none)]
    ofKey (some table) "a@b@en.v.#" =
        .tagged ⟨"a@b@en.v.#", false, .parameter "a@b" "en" "v.#"⟩ ∧
      ofKey (some table) "@env..@" = .tagged ⟨"@env..", true, .parameter "" "env" "."⟩ ∧
      ∀ resolver, Parameter.Table.empty.register "en" resolver = .ok ⟨[("en", resolver)]⟩ := by
  intro table
  rcases ofKey_registered with ⟨reads, registers, _⟩
  have disabled := (reads [("en", none), ("env", some (.literal "prod")), ("en.v", none)]
    "a@b" "en" "v.#" (by decide) (by decide) (by decide)).1
  have marked := (reads [("en", none), ("env", some (.literal "prod")), ("en.v", none)]
    "" "env" "." (by decide) (by decide) (by decide)).2
  exact ⟨disabled, marked, registers _ _ _ _ _ _ _ disabled⟩

end Tag
end TaggedContent
