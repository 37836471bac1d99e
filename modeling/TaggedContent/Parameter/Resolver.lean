import TaggedContent.Decimal.Style
import TaggedContent.Pattern.Cache
import TaggedContent.Tree

namespace TaggedContent
namespace Parameter

/-!
# Parameter resolvers

A resolver decides whether an entry tagged `name.value` applies.  It does so by
matching one pattern against one text.  Either the tag value is the pattern
itself, or it names a field that holds the pattern; the text is fixed, or it is
the locale.
-/

inductive Resolver where
  /-- The tag value is a pattern for a fixed text; an empty text never matches. -/
  | literal (value : String)
  /-- The tag value names a field whose pattern is for a fixed text. -/
  | field (value : String) (collection pod : Mapping)
  /-- The tag value names a field whose pattern is for the locale. -/
  | localeField (collection pod : Mapping)
  deriving Inhabited

/-- What a resolver sees of an entry: the mapping that holds it as written, the key
without its tag, both parts of the tag, the value already resolved, and the locale. -/
structure Request where
  node : Mapping
  base : String
  name : String
  argument : String
  content : Tree
  locale : Option String

/-- Numbers used as patterns never have an exponent, and whole ones no point. -/
def numberStyle : Decimal.Style :=
  ⟨.upward, fun _ => true, "", "NaN", "inf", "-inf"⟩

/-- The pattern that a field value holds: a text that is not empty, or a number. -/
def patternText? : Tree → Option String
  | .string text => if text.isEmpty then none else some text
  | .int value => some (value.toInt.repr)
  | .float value => some (numberStyle.write value)
  | _ => none

/-- The first table in which the field holds a pattern decides. -/
def fieldPattern? (tables : List Mapping) (field : String) : Option String :=
  tables.findSome? fun table => (Entries.get? table (.name field)).bind patternText?

/-- The `localization` section of a document; anything but a mapping counts as
empty. -/
def localizationSection (document : Tree) : Mapping :=
  ((document.get? "localization").bind Tree.mapping?).getD []

namespace Resolver

/-- A locale resolver with the defaults that a collection and its pod define. -/
def ofSections (pod collection : Tree) : Resolver :=
  .localeField (localizationSection collection) (localizationSection pod)

/-- The pattern to be matched and the text to match it against.  When there is
none the entry does not apply, and nothing is compiled. -/
def question? : Resolver → Request → Option (String × String)
  | literal value, request => if value.isEmpty then none else some (request.argument, value)
  | field value collection pod, request =>
      (fieldPattern? [request.node, collection, pod] request.argument).map fun pattern =>
        (pattern, value)
  | localeField collection pod, request =>
      request.locale.bind fun locale =>
        (fieldPattern? [request.node, collection, pod] request.argument).map fun pattern =>
          (pattern, locale)

/-- The entry as it is kept, or nothing when the parameter does not apply. -/
def resolve (resolver : Resolver) (request : Request) (cache : Pattern.Cache) :
    Except Pattern.PatternError (Option (Key × Tree)) × Pattern.Cache :=
  match resolver.question? request with
  | none => (.ok none, cache)
  | some (pattern, text) =>
      match cache.fullMatch pattern text with
      | (.error error, cache) => (.error error, cache)
      | (.ok false, cache) => (.ok none, cache)
      | (.ok true, cache) => (.ok (some (.name request.base, request.content)), cache)

end Resolver
end Parameter
end TaggedContent
