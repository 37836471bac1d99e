import TaggedContent.Parameter.Table
import TaggedContent.Tag.Suggestion
import TaggedContent.Text

namespace TaggedContent

/-!
# Tags of keys

A name key is read as `base@tag`.  A key that ends in `@#` is a comment.  Any
other key may carry one trailing `@`, the extraction mark; what remains is cut at
its last `@`.  The part after it is a parameter `name.value` when that name is
registered, and a locale pattern otherwise.  Without a part after the last `@`
the key is plain.
-/

inductive TagForm where
  | plain
  | locale (base pattern : String)
  | parameter (base name value : String)
  deriving DecidableEq

structure TaggedKey where
  stripped : String
  marked : Bool
  form : TagForm
  deriving DecidableEq

inductive Tag where
  | comment
  | tagged (key : TaggedKey)
  deriving DecidableEq

namespace Tag

/-- `name.value`, cut at the first dot, with neither part empty. -/
def parameterParts? (tail : List Char) : Option (List Char × List Char) :=
  match cutFirst '.' tail with
  | some (name, value) => if name.isEmpty || value.isEmpty then none else some (name, value)
  | none => none

/-- The form of a key without its mark, where `registered` tells which parameter
names are known. -/
def formOf (registered : String → Bool) (key : List Char) : TagForm :=
  match cutLast '@' key with
  | none => .plain
  | some (_, []) => .plain
  | some (base, tail) =>
      match parameterParts? tail with
      | some (name, value) =>
          if registered (.ofList name) then
            .parameter (.ofList base) (.ofList name) (.ofList value)
          else .locale (.ofList base) (.ofList tail)
      | none => .locale (.ofList base) (.ofList tail)

/-- Without a table no parameter name is registered. -/
def isRegistered (table : Option Parameter.Table) (name : String) : Bool :=
  match table with
  | some table => table.contains name
  | none => false

def ofKey (table : Option Parameter.Table) (key : String) : Tag :=
  let letters := key.toList
  if ['@', '#'].isSuffixOf letters then .comment
  else
    let marked := ['@'].isSuffixOf letters
    let stripped := if marked then letters.dropLast else letters
    .tagged ⟨.ofList stripped, marked, formOf (isRegistered table) stripped⟩

/-- A locale pattern that looks like a misspelt parameter. -/
structure NearMiss where
  stripped : String
  name : String
  suggestions : List String
  deriving DecidableEq

/-- What reading this key would report: a tag of the shape `name.value` whose name
is unknown to the table but close to some of the registered ones. -/
def nearMiss? (table : Option Parameter.Table) (key : String) : Option NearMiss :=
  match table, ofKey table key with
  | some table, .tagged ⟨stripped, _, .locale _ pattern⟩ =>
      match parameterParts? pattern.toList with
      | some (name, _) =>
          let name := String.ofList name
          match suggestions name table.names with
          | [] => none
          | found => some ⟨stripped, name, found⟩
      | none => none
  | _, _ => none

end Tag
end TaggedContent
