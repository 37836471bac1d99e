import Mathlib.Data.List.Basic
import TaggedContent.Proofs.Entries
import TaggedContent.Proofs.Tag

namespace TaggedContent

/-!
# The grammar of tags

Reading a name is the inverse of writing a tagged key.  The grammar says which forms a
name has when its mark is taken off: it is plain when nothing follows its last `@`, a
parameter when `name.value` with a registered name follows, and a locale tag otherwise.
A name that is not a comment is read as the one tagged key that is written like it, has
a form that the grammar allows, and has the mark that the name shows.
-/

/-- The name that the tagged key is written as. -/
def TaggedKey.render (key : TaggedKey) : String :=
  if key.marked then key.stripped ++ "@" else key.stripped

namespace Tag

/-- A tail that gives a registered parameter its value; the name ends at the first dot. -/
def IsParameter (table : Option Parameter.Table) (tail name value : String) : Prop :=
  tail = name ++ "." ++ value ∧ '.' ∉ name.toList ∧ name ≠ "" ∧ value ≠ "" ∧
    isRegistered table name = true

/-- The forms of a key without its mark. -/
inductive HasForm (table : Option Parameter.Table) (stripped : String) : TagForm → Prop where
  | plain (bare : '@' ∉ stripped.toList ∨ ['@'] <:+ stripped.toList) :
      HasForm table stripped .plain
  | parameter {base tail name value : String} (cut : stripped = base ++ "@" ++ tail)
      (clean : '@' ∉ tail.toList) (parts : IsParameter table tail name value) :
      HasForm table stripped (.parameter base name value)
  | locale {base tail : String} (cut : stripped = base ++ "@" ++ tail) (given : tail ≠ "")
      (clean : '@' ∉ tail.toList) (other : ∀ name value, ¬ IsParameter table tail name value) :
      HasForm table stripped (.locale base tail)

/-- A tagged key with an allowed form, whose mark is set exactly when it is written with
`@` at the end. -/
structure WellFormed (table : Option Parameter.Table) (key : TaggedKey) : Prop where
  form : HasForm table key.stripped key.form
  mark : key.marked = true ↔ ['@'] <:+ key.render.toList

/-- The key has, less its mark, a last tag `name.value`, whether or not the name is
registered. -/
def HasParameterName (key name : String) : Prop :=
  ∃ base value mark : String, (mark = "" ∨ mark = "@") ∧
    key = base ++ "@" ++ (name ++ "." ++ value) ++ mark ∧
    '@' ∉ (name ++ "." ++ value).toList ∧ '.' ∉ name.toList ∧ name ≠ "" ∧ value ≠ ""

/-! ## Forms -/

section

variable {table : Option Parameter.Table} {stripped base tail name value : String}

theorem toList_cut : stripped = base ++ "@" ++ tail ↔
    stripped.toList = base.toList ++ '@' :: tail.toList := by
  rw [← String.toList_inj]
  simp

theorem toList_parts : tail = name ++ "." ++ value ↔
    tail.toList = name.toList ++ '.' :: value.toList := by
  rw [← String.toList_inj]
  simp

theorem isParameter_iff :
    IsParameter table tail name value ↔
      parameterParts? tail.toList = some (name.toList, value.toList) ∧
        isRegistered table name = true := by
  rw [IsParameter, parameterParts?_eq_some_iff, toList_parts, Ne, Ne, Ne, Ne,
    String.toList_eq_nil_iff, String.toList_eq_nil_iff]
  tauto

/-- The form of a key whose last `@` has a tail. -/
theorem formOf_append (registered : String → Bool) (base : List Char) {tail : List Char}
    (given : tail ≠ []) (clean : '@' ∉ tail) :
    formOf registered (base ++ '@' :: tail) =
      match parameterParts? tail with
      | some (name, value) =>
          if registered (.ofList name) then
            .parameter (.ofList base) (.ofList name) (.ofList value)
          else .locale (.ofList base) (.ofList tail)
      | none => .locale (.ofList base) (.ofList tail) := by
  cases tail with
  | nil => exact absurd rfl given
  | cons head rest =>
      cases parts : parameterParts? (head :: rest) <;>
        simp only [formOf, cutLast_append clean, parts]

theorem formOf_of_suffix (registered : String → Bool) {text : List Char}
    (suffixed : ['@'] <:+ text) : formOf registered text = .plain := by
  rcases suffixed with ⟨base, split⟩
  rw [← split, formOf, cutLast_append List.not_mem_nil]

/-- What the grammar allows is what is read. -/
theorem formOf_of_hasForm {form : TagForm} (allowed : HasForm table stripped form) :
    formOf (isRegistered table) stripped.toList = form := by
  cases allowed with
  | plain bare =>
      rcases bare with clean | suffixed
      · exact formOf_of_clean _ clean
      · exact formOf_of_suffix _ suffixed
  | @parameter base tail name value cut clean parts =>
      rcases isParameter_iff.mp parts with ⟨found, registered⟩
      have given : tail.toList ≠ [] := by
        rw [(parameterParts?_eq_some_iff.mp found).1]
        simp
      rw [toList_cut.mp cut, formOf_append _ _ given clean, found]
      simp only [String.ofList_toList, registered, if_true]
  | @locale base tail cut given clean other =>
      have givenTail : tail.toList ≠ [] := fun empty => given (String.toList_eq_nil_iff.mp empty)
      rw [toList_cut.mp cut, formOf_append _ _ givenTail clean]
      cases found : parameterParts? tail.toList with
      | none => simp only [String.ofList_toList]
      | some parts =>
          rcases parts with ⟨name, value⟩
          have unknown : ¬ isRegistered table (.ofList name) = true := by
            intro registered
            apply other (.ofList name) (.ofList value)
            exact isParameter_iff.mpr ⟨by simpa only [String.toList_ofList] using found, registered⟩
          simp only [unknown, String.ofList_toList, Bool.false_eq_true, if_false]

/-- What is read is allowed by the grammar. -/
theorem hasForm_formOf (table : Option Parameter.Table) (stripped : String) :
    HasForm table stripped (formOf (isRegistered table) stripped.toList) := by
  cases cut : cutLast '@' stripped.toList with
  | none =>
      have clean := (cutLast_eq_none_iff '@' _).mp cut
      rw [formOf_of_clean _ clean]
      exact .plain (Or.inl clean)
  | some parts =>
      rcases parts with ⟨base, tail⟩
      rcases eq_append_of_cutLast cut with ⟨split, clean⟩
      by_cases given : tail = []
      · have suffixed : ['@'] <:+ stripped.toList := ⟨base, by rw [split, given]⟩
        rw [formOf_of_suffix _ suffixed]
        exact .plain (Or.inr suffixed)
      · have written : stripped = .ofList base ++ "@" ++ .ofList tail :=
          toList_cut.mpr (by simpa only [String.toList_ofList] using split)
        have cleanTail : '@' ∉ (String.ofList tail).toList := by rwa [String.toList_ofList]
        have givenTail : String.ofList tail ≠ "" := by
          rwa [Ne, ← String.toList_eq_nil_iff, String.toList_ofList]
        rw [split, formOf_append _ _ given clean]
        cases found : parameterParts? tail with
        | none =>
            refine .locale written givenTail cleanTail fun name value parts => ?_
            have impossible := (isParameter_iff.mp parts).1
            rw [String.toList_ofList, found] at impossible
            cases impossible
        | some parts =>
            rcases parts with ⟨name, value⟩
            dsimp only
            cases registered : isRegistered table (.ofList name) with
            | true =>
                rw [if_pos rfl]
                refine .parameter written cleanTail (isParameter_iff.mpr ⟨?_, registered⟩)
                simpa only [String.toList_ofList] using found
            | false =>
                rw [if_neg Bool.false_ne_true]
                refine .locale written givenTail cleanTail fun other rest parts => ?_
                rcases isParameter_iff.mp parts with ⟨same, known⟩
                rw [String.toList_ofList, found, Option.some.injEq, Prod.mk.injEq] at same
                rw [same.1, String.ofList_toList, known] at registered
                cases registered

theorem hasForm_iff {form : TagForm} :
    HasForm table stripped form ↔ form = formOf (isRegistered table) stripped.toList := by
  constructor
  · exact fun allowed => (formOf_of_hasForm allowed).symm
  · exact fun same => same ▸ hasForm_formOf table stripped

end

/-! ## Names -/

section

variable {table : Option Parameter.Table} {key : String}

theorem ofKey_eq_comment_iff : ofKey table key = .comment ↔ ['@', '#'] <:+ key.toList := by
  rw [ofKey, ← List.isSuffixOf_iff_suffix]
  dsimp only
  split <;> simp_all

/-- Taking the mark off and writing it again gives the name back. -/
theorem render_of_ofKey {tagged : TaggedKey} (read : ofKey table key = .tagged tagged) :
    tagged.render = key := by
  rcases of_ofKey_eq_tagged read with ⟨marked, stripped, _⟩
  rw [TaggedKey.render, ← String.toList_inj]
  cases mark : tagged.marked with
  | false =>
      rw [if_neg Bool.false_ne_true, stripped, mark, String.toList_ofList,
        if_neg Bool.false_ne_true]
  | true =>
      rw [mark, eq_comm, List.isSuffixOf_iff_suffix] at marked
      rcases marked with ⟨before, split⟩
      rw [if_pos rfl, stripped, mark, if_pos rfl, ← split, List.dropLast_concat]
      simp

/-- A name that is not a comment is read as a tagged key exactly when it is written like
it, the key has the mark that the name shows, and the form is allowed. -/
theorem ofKey_eq_tagged_iff {tagged : TaggedKey} :
    ofKey table key = .tagged tagged ↔
      ¬ ['@', '#'] <:+ key.toList ∧ tagged.render = key ∧ WellFormed table tagged := by
  constructor
  · intro read
    rcases of_ofKey_eq_tagged read with ⟨marked, _, form⟩
    have written := render_of_ofKey read
    refine ⟨fun suffixed => ?_, written, hasForm_iff.mpr form, ?_⟩
    · rw [ofKey_of_comment table suffixed] at read
      cases read
    · rw [written, marked, List.isSuffixOf_iff_suffix]
  · rintro ⟨noComment, written, form, mark⟩
    cases read : ofKey table key with
    | comment => exact absurd (ofKey_eq_comment_iff.mp read) noComment
    | tagged other =>
        rcases of_ofKey_eq_tagged read with ⟨otherMarked, _, otherForm⟩
        have sameMark : other.marked = tagged.marked := by
          rw [Bool.eq_iff_iff, mark, otherMarked, List.isSuffixOf_iff_suffix, written]
        have sameStripped : other.stripped = tagged.stripped := by
          have texts := (render_of_ofKey read).trans written.symm
          rw [TaggedKey.render, TaggedKey.render, sameMark] at texts
          split at texts
          case isTrue =>
              have letters := congrArg String.toList texts
              rw [String.toList_append, String.toList_append] at letters
              exact String.toList_inj.mp (List.append_cancel_right letters)
          case isFalse => exact texts
        have sameForm : other.form = tagged.form := by
          rw [otherForm, sameStripped]
          exact (hasForm_iff.mp form).symm
        rcases other with ⟨stripped, marked, shape⟩
        rcases tagged with ⟨stripped', marked', shape'⟩
        dsimp only at sameMark sameStripped sameForm
        rw [sameMark, sameStripped, sameForm]

/-- The only tagged keys that are written like comments are unmarked ones with the
locale pattern `#`. -/
theorem locale_of_comment_suffix {tagged : TaggedKey} (wellFormed : WellFormed table tagged)
    (suffixed : ['@', '#'] <:+ tagged.render.toList) :
    tagged.marked = false ∧ ∃ base, tagged.form = .locale base "#" := by
  rcases suffixed with ⟨base, split⟩
  have unmarked : tagged.marked = false := by
    rw [Bool.eq_false_iff, Ne, wellFormed.mark, ← split]
    rintro ⟨before, other⟩
    have lasts := congrArg List.getLast? other
    simp at lasts
  refine ⟨unmarked, .ofList base, ?_⟩
  rw [TaggedKey.render, unmarked, if_neg Bool.false_ne_true] at split
  rw [hasForm_iff.mp wellFormed.form, ← split,
    formOf_append _ _ (List.cons_ne_nil '#' []) (by decide)]
  rfl

/-- The form depends on the table only through the parameter name that the key has. -/
theorem formOf_congr {registered other : String → Bool} {text : List Char}
    (same : ∀ base name value : List Char, text = base ++ '@' :: (name ++ '.' :: value) →
      '@' ∉ name ++ '.' :: value → '.' ∉ name → name ≠ [] → value ≠ [] →
      registered (.ofList name) = other (.ofList name)) :
    formOf registered text = formOf other text := by
  cases cut : cutLast '@' text with
  | none => rw [formOf, formOf, cut]
  | some parts =>
      rcases parts with ⟨base, tail⟩
      rcases eq_append_of_cutLast cut with ⟨split, clean⟩
      by_cases given : tail = []
      · have suffixed : ['@'] <:+ text := ⟨base, by rw [split, given]⟩
        rw [formOf_of_suffix _ suffixed, formOf_of_suffix _ suffixed]
      · rw [split, formOf_append _ _ given clean, formOf_append _ _ given clean]
        cases found : parameterParts? tail with
        | none => rfl
        | some parts =>
            rcases parts with ⟨name, value⟩
            rcases parameterParts?_eq_some_iff.mp found with ⟨whole, noDot, named, valued⟩
            rw [whole] at split clean
            simp only [same base name value split clean noDot named valued]

theorem ofKey_congr {other : Option Parameter.Table}
    (same : ∀ name, HasParameterName key name → isRegistered table name = isRegistered other name) :
    ofKey table key = ofKey other key := by
  cases read : ofKey table key with
  | comment => exact (ofKey_of_comment other (ofKey_eq_comment_iff.mp read)).symm
  | tagged tagged =>
      rcases ofKey_eq_tagged_iff.mp read with ⟨noComment, written, form, mark⟩
      refine (ofKey_eq_tagged_iff.mpr ⟨noComment, written, hasForm_iff.mpr ?_, mark⟩).symm
      rw [hasForm_iff.mp form]
      apply formOf_congr
      intro base name value split clean noDot named valued
      apply same
      refine ⟨.ofList base, .ofList value, if tagged.marked then "@" else "", ?_, ?_, ?_, ?_, ?_, ?_⟩
      · cases tagged.marked <;> simp
      · rw [← written, TaggedKey.render, ← String.toList_inj]
        cases tagged.marked <;> simp [split]
      · simpa using clean
      · simpa using noDot
      · rwa [Ne, ← String.toList_eq_nil_iff, String.toList_ofList]
      · rwa [Ne, ← String.toList_eq_nil_iff, String.toList_ofList]

end

/-- Reading names accepts exactly the tag grammar.  Comments are the names that end in
`@#`; every other name is read as the one well-formed key that is written like it.  Every
well-formed key is read back from how it is written, except for an unmarked locale tag
with the pattern `#`.  Of the table only the registration of the name in the tag matters. -/
theorem ofKey_grammar (table : Option Parameter.Table) :
    (∀ key : String,
      (ofKey table key = .comment ↔ ['@', '#'] <:+ key.toList) ∧
      (∀ tagged : TaggedKey, ofKey table key = .tagged tagged ↔
        ¬ ['@', '#'] <:+ key.toList ∧ tagged.render = key ∧
          (tagged.marked = true ↔ ['@'] <:+ key.toList) ∧
          HasForm table tagged.stripped tagged.form) ∧
      ∀ other : Option Parameter.Table,
        (∀ name, HasParameterName key name →
          isRegistered table name = isRegistered other name) →
        ofKey table key = ofKey other key) ∧
    ∀ tagged : TaggedKey, WellFormed table tagged →
      ¬ (tagged.marked = false ∧ ∃ base, tagged.form = .locale base "#") →
      ofKey table tagged.render = .tagged tagged := by
  refine ⟨fun key => ⟨ofKey_eq_comment_iff, fun tagged => ?_, fun other => ofKey_congr⟩,
    fun tagged wellFormed noComment => ?_⟩
  · rw [ofKey_eq_tagged_iff]
    constructor
    · rintro ⟨noComment, written, form, mark⟩
      exact ⟨noComment, written, written ▸ mark, form⟩
    · rintro ⟨noComment, written, mark, form⟩
      exact ⟨noComment, written, form, written.symm ▸ mark⟩
  · refine ofKey_eq_tagged_iff.mpr ⟨fun suffixed => ?_, rfl, wellFormed⟩
    exact noComment (locale_of_comment_suffix wellFormed suffixed)

/-- A marked key with a parameter is read back, also when the parameter is disabled. -/
theorem ofKey_grammar_parameter :
    let table : Parameter.Table := ⟨[("env", some (.literal "prod"))]⟩
    let disabled : Parameter.Table := ⟨[("env", none)]⟩
    let key : TaggedKey := ⟨"url@env.prod.*", true, .parameter "url" "env" "prod.*"⟩
    (WellFormed (some table) key ∧ ofKey (some table) key.render = .tagged key) ∧
      (∀ name, HasParameterName key.render name →
        isRegistered (some table) name = isRegistered (some disabled) name) ∧
      ofKey (some table) key.render = ofKey (some disabled) key.render := by
  intro table disabled key
  have wellFormed : WellFormed (some table) key := by
    have cut : key.stripped = "url" ++ "@" ++ "env.prod.*" := rfl
    refine ⟨.parameter cut (by decide) ⟨rfl, ?_⟩, ?_⟩ <;> decide
  have sameNames : ∀ name, isRegistered (some table) name = isRegistered (some disabled) name := by
    intro name
    simp only [isRegistered, Parameter.Table.contains, table, disabled, Entries.get?_cons]
    split <;> rfl
  have grammar := ofKey_grammar (some table)
  exact ⟨⟨wellFormed, grammar.2 key wellFormed fun locale => absurd locale.1 (by decide)⟩,
    fun name _ => sameNames name, (grammar.1 key.render).2.2 (some disabled) fun name _ => sameNames name⟩

end Tag
end TaggedContent
