import TaggedContent.Proofs.Parameter.NumberText
import TaggedContent.Proofs.Verdict

namespace TaggedContent
namespace Parameter

/-!
# What a resolver asks

A resolver asks at most one question: whether a certain pattern matches a certain text.
The rule for it is given here apart from its computation.  A field value either holds a
pattern or counts as absent, and it counts as absent in its own table only.  With the
question the whole of a resolution is known, on any cache: without one nothing is
matched, and otherwise the answer is that of matching the pattern.
-/

/-- The pattern that a field value holds: a text that is not empty, or the text of a number. -/
inductive HoldsPattern : Tree → String → Prop where
  | text {text : String} (given : text ≠ "") : HoldsPattern (.string text) text
  | int (value : Int64) : HoldsPattern (.int value) (value.toInt.repr)
  | float {value : Float} {text : String} (written : WritesNumber value text) :
      HoldsPattern (.float value) text

/-- A field value that is passed over as if the field were missing. -/
inductive CountsAsAbsent : Tree → Prop where
  | null : CountsAsAbsent .null
  | bool (value : Bool) : CountsAsAbsent (.bool value)
  | emptyText : CountsAsAbsent (.string "")
  | sequence (items : List Tree) : CountsAsAbsent (.sequence items)
  | mapping (entries : Mapping) : CountsAsAbsent (.mapping entries)

/-- The pattern comes from the first of the tables in which the field is neither missing nor
counted as absent. -/
inductive Supplies (field : String) : List Mapping → String → Prop where
  | here {table : Mapping} {others : List Mapping} {value : Tree} {pattern : String}
      (found : Entries.get? table (.name field) = some value)
      (holds : HoldsPattern value pattern) : Supplies field (table :: others) pattern
  | missing {table : Mapping} {others : List Mapping} {pattern : String}
      (missing : Entries.get? table (.name field) = none)
      (later : Supplies field others pattern) : Supplies field (table :: others) pattern
  | absent {table : Mapping} {others : List Mapping} {value : Tree} {pattern : String}
      (found : Entries.get? table (.name field) = some value) (absent : CountsAsAbsent value)
      (later : Supplies field others pattern) : Supplies field (table :: others) pattern

/-- The defaults that a document gives in its `localization` section.  There are none when
the section is missing or is not a mapping. -/
inductive GivesDefaults : Tree → Mapping → Prop where
  | section {entries defaults : Mapping}
      (found : Entries.get? entries (.name "localization") = some (.mapping defaults)) :
      GivesDefaults (.mapping entries) defaults
  | nothing {document : Tree}
      (nowhere : ∀ entries defaults, document = .mapping entries →
        Entries.get? entries (.name "localization") ≠ some (.mapping defaults)) :
      GivesDefaults document []

/-- The resolver asks whether the pattern matches the text. -/
inductive Resolver.Asks (request : Request) : Resolver → String → String → Prop where
  | literal {text : String} (given : text ≠ "") :
      Asks request (.literal text) request.argument text
  | field {text pattern : String} {collection pod : Mapping}
      (supplied : Supplies request.argument [request.node, collection, pod] pattern) :
      Asks request (.field text collection pod) pattern text
  | localeField {locale pattern : String} {collection pod : Mapping}
      (given : request.locale = some locale)
      (supplied : Supplies request.argument [request.node, collection, pod] pattern) :
      Asks request (.localeField collection pod) pattern locale

/-! ## Patterns of fields -/

theorem holdsPattern_iff {value : Tree} {pattern : String} :
    HoldsPattern value pattern ↔ patternText? value = some pattern := by
  constructor
  · intro holds
    cases holds with
    | text given => rw [patternText?, if_neg (fun empty => given (String.isEmpty_iff.mp empty))]
    | int value => rfl
    | float written => rw [patternText?, writesNumber_iff.mp written]
  · intro held
    cases value with
    | string text =>
        rw [patternText?] at held
        split at held
        case isTrue => cases held
        case isFalse given =>
            cases held
            exact .text fun empty => given (String.isEmpty_iff.mpr empty)
    | int value =>
        cases held
        exact .int value
    | float value =>
        cases held
        exact .float (writesNumber_write value)
    | _ => cases held

theorem countsAsAbsent_iff {value : Tree} :
    CountsAsAbsent value ↔ patternText? value = none := by
  constructor
  · intro absent
    cases absent <;> rfl
  · intro nothing
    cases value with
    | null => exact .null
    | bool value => exact .bool value
    | string text =>
        rw [patternText?] at nothing
        split at nothing
        case isTrue empty =>
            rw [String.isEmpty_iff.mp empty]
            exact .emptyText
        case isFalse => cases nothing
    | sequence items => exact .sequence items
    | mapping entries => exact .mapping entries
    | _ => cases nothing

/-- By induction over the tables, each of which holds a pattern for the field or is passed
over. -/
theorem supplies_iff {field pattern : String} {tables : List Mapping} :
    Supplies field tables pattern ↔ fieldPattern? tables field = some pattern := by
  induction tables with
  | nil =>
      constructor
      · exact fun supplied => nomatch supplied
      · exact fun found => nomatch found
  | cons table others inductionHypothesis =>
      rw [fieldPattern?] at inductionHypothesis
      rw [fieldPattern?, List.findSome?_cons]
      constructor
      · intro supplied
        cases supplied with
        | here found holds => rw [found, Option.bind_some, holdsPattern_iff.mp holds]
        | missing missing later =>
            rw [missing, Option.bind_none, inductionHypothesis.mp later]
        | absent found absent later =>
            rw [found, Option.bind_some, countsAsAbsent_iff.mp absent,
              inductionHypothesis.mp later]
      · intro supplied
        cases found : Entries.get? table (.name field) with
        | none =>
            rw [found, Option.bind_none] at supplied
            exact .missing found (inductionHypothesis.mpr supplied)
        | some value =>
            rw [found, Option.bind_some] at supplied
            cases held : patternText? value with
            | none =>
                rw [held] at supplied
                exact .absent found (countsAsAbsent_iff.mpr held)
                  (inductionHypothesis.mpr supplied)
            | some text =>
                rw [held, Option.some.injEq] at supplied
                exact .here found (holdsPattern_iff.mpr (supplied ▸ held))

theorem givesDefaults_localizationSection (document : Tree) :
    GivesDefaults document (localizationSection document) := by
  unfold localizationSection
  cases document with
  | mapping entries =>
      rw [Tree.get?, Tree.mapping?, Option.bind_some]
      cases found : Entries.get? entries (.name "localization") with
      | none =>
          refine .nothing fun other defaults same held => ?_
          cases same
          rw [found] at held
          cases held
      | some value =>
          cases value with
          | mapping defaults => exact .section found
          | _ =>
              refine .nothing fun other defaults same held => ?_
              cases same
              rw [found] at held
              cases held
  | _ => exact .nothing fun _ _ impossible => nomatch impossible

/-! ## Questions and answers -/

namespace Resolver

variable {resolver : Resolver} {request : Request} {pattern text : String}

theorem asks_iff :
    resolver.Asks request pattern text ↔ resolver.question? request = some (pattern, text) := by
  constructor
  · intro asks
    cases asks with
    | literal given => rw [question?, if_neg (fun empty => given (String.isEmpty_iff.mp empty))]
    | field supplied => rw [question?, supplies_iff.mp supplied, Option.map_some]
    | localeField given supplied =>
        rw [question?, given, Option.bind_some, supplies_iff.mp supplied, Option.map_some]
  · intro asked
    cases resolver with
    | literal value =>
        rw [question?] at asked
        split at asked
        case isTrue => cases asked
        case isFalse given =>
            cases asked
            exact .literal fun empty => given (String.isEmpty_iff.mpr empty)
    | field value collection pod =>
        rcases Option.map_eq_some_iff.mp asked with ⟨found, chain, same⟩
        cases same
        exact .field (supplies_iff.mpr chain)
    | localeField collection pod =>
        rcases Option.bind_eq_some_iff.mp asked with ⟨locale, given, asked⟩
        rcases Option.map_eq_some_iff.mp asked with ⟨found, chain, same⟩
        cases same
        exact .localeField given (supplies_iff.mpr chain)

/-- Without a question nothing is matched, and the entry is dropped. -/
theorem resolve_of_unasked (unasked : ∀ pattern text, ¬ resolver.Asks request pattern text)
    (cache : Pattern.Cache) : resolver.resolve request cache = (.ok none, cache) := by
  have nothing : resolver.question? request = none := by
    rw [Option.eq_none_iff_forall_ne_some]
    exact fun question asked => unasked question.1 question.2 (asks_iff.mpr asked)
  simp only [resolve, nothing]

/-- The answer to a question is that of matching its pattern with its text, on any cache. -/
theorem resolve_of_asks (asks : resolver.Asks request pattern text) (cache : Pattern.Cache) :
    resolver.resolve request cache =
      ((cache.fullMatch pattern text).1.map fun applies =>
        if applies then some (.name request.base, request.content) else none,
      (cache.fullMatch pattern text).2) := by
  simp only [resolve, asks_iff.mp asks]
  rcases cache.fullMatch pattern text with ⟨error | _ | _, after⟩ <;> rfl

theorem resolve_eq_error_iff {cache : Pattern.Cache} {error : Pattern.PatternError} :
    (resolver.resolve request cache).1 = .error error ↔
      ∃ pattern text, resolver.Asks request pattern text ∧
        (cache.fullMatch pattern text).1 = .error error := by
  constructor
  · intro failed
    by_cases asked : ∃ pattern text, resolver.Asks request pattern text
    · rcases asked with ⟨pattern, text, asks⟩
      refine ⟨pattern, text, asks, ?_⟩
      rw [resolve_of_asks asks] at failed
      rcases outcome : (cache.fullMatch pattern text).1 with fault | applies
      · rw [outcome] at failed
        cases failed
        rfl
      · rw [outcome] at failed
        cases failed
    · rw [resolve_of_unasked fun pattern text asks => asked ⟨pattern, text, asks⟩] at failed
      cases failed
  · rintro ⟨pattern, text, asks, failed⟩
    rw [resolve_of_asks asks, failed]
    rfl

/-- An entry that is kept is kept under its base, with its content. -/
theorem resolve_eq_some_iff {cache : Pattern.Cache} {kept : Key × Tree} :
    (resolver.resolve request cache).1 = .ok (some kept) ↔
      kept = (.name request.base, request.content) ∧
        ∃ pattern text, resolver.Asks request pattern text ∧
          (cache.fullMatch pattern text).1 = .ok true := by
  constructor
  · intro applied
    by_cases asked : ∃ pattern text, resolver.Asks request pattern text
    · rcases asked with ⟨pattern, text, asks⟩
      rw [resolve_of_asks asks] at applied
      rcases outcome : (cache.fullMatch pattern text).1 with fault | _ | _
      · rw [outcome] at applied
        cases applied
      · rw [outcome] at applied
        cases applied
      · rw [outcome] at applied
        cases applied
        exact ⟨rfl, pattern, text, asks, outcome⟩
    · rw [resolve_of_unasked fun pattern text asks => asked ⟨pattern, text, asks⟩] at applied
      cases applied
  · rintro ⟨rfl, pattern, text, asks, applies⟩
    rw [resolve_of_asks asks, applies]
    rfl

end Resolver
end Parameter
end TaggedContent
