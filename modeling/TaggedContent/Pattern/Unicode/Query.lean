import TaggedContent.Pattern.Unicode.Age
import TaggedContent.Pattern.Unicode.Boundary
import TaggedContent.Pattern.Unicode.CaseFold
import TaggedContent.Pattern.Unicode.Category
import TaggedContent.Pattern.Unicode.Property
import TaggedContent.Pattern.Unicode.Script

namespace TaggedContent
namespace Pattern
namespace Unicode

/-!
# Property queries

A pattern may ask for the code points with a named property.  Names are compared
loosely: case, spaces, hyphens, underscores and a leading `is` do not count.
-/

inductive Query where
  /-- A property that holds or does not, a general category or a script. -/
  | named (name : String)
  | valued (property value : String)
  deriving DecidableEq

def looseLetter? (letter : Char) : Option Char :=
  if letter = ' ' ∨ letter = '_' ∨ letter = '-' ∨ 0x80 ≤ letter.toNat then none
  else some letter.toLower

/-- The loose form of a name.  The abbreviation `isc` is a name of its own and not
`c` after a leading `is`. -/
def looseName (name : String) : String :=
  let strip := fun letters => String.ofList (letters.filterMap looseLetter?)
  match name.toList with
  | first :: second :: rest =>
      if first.toLower = 'i' ∧ second.toLower = 's' then
        let stripped := strip rest
        if stripped = "c" then "isc" else stripped
      else strip (first :: second :: rest)
  | letters => strip letters

/-- Three names of general categories are also abbreviations of properties that
take values, and are read as categories. -/
def category? (name : String) : Option CodePoints :=
  if name = "cf" ∨ name = "sc" ∨ name = "lc" then generalCategory? name
  else
    match binaryProperty? name with
    | some set => some set
    | none =>
        match generalCategory? name with
        | some set => some set
        | none => script? name

/-- The properties that take values, each with the reading of its values. -/
def valuedProperties : List (List String × (String → Option CodePoints)) :=
  [(["generalcategory", "gc"], generalCategory?),
   (["script", "sc"], script?),
   (["scriptextensions", "scx"], scriptExtension?),
   (["age"], age?),
   (["graphemeclusterbreak", "gcb"], graphemeClusterBreak?),
   (["wordbreak", "wb"], wordBreak?),
   (["sentencebreak", "sb"], sentenceBreak?)]

def Query.codePoints? : Query → Option CodePoints
  | named name => category? (looseName name)
  | valued property value =>
      match valuesOf valuedProperties (looseName property) with
      | some read => read (looseName value)
      | none => none

def alphabetic : CodePoints :=
  (binaryProperty? "alphabetic").getD .empty

def decimalDigits : CodePoints :=
  generalCategory ["Nd"]

def whiteSpace : CodePoints :=
  ⟨[0x9, 0xE, 0x20, 0x21, 0x85, 0x86, 0xA0, 0xA1, 0x1680, 0x1681, 0x2000, 0x200B, 0x2028, 0x202A,
    0x202F, 0x2030, 0x205F, 0x2060, 0x3000, 0x3001]⟩

/-- Letters, marks, decimal digits, connectors and the two join controls. -/
def wordCharacters : CodePoints :=
  (alphabetic.union (generalCategory ["Mn", "Mc", "Me", "Nd", "Pc"])).union
    ((binaryProperty? "joincontrol").getD .empty)

def alphanumeric : CodePoints :=
  alphabetic.union (generalCategory ["Nd", "Nl", "No"])

end Unicode
end Pattern
end TaggedContent
