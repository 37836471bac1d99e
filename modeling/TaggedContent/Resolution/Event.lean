import TaggedContent.Path
import TaggedContent.Tag

namespace TaggedContent
namespace Resolution

/-!
# Events

Resolution reports every decision that it takes: which entries it drops and why,
which locale entries it selects, which aliases it restores, and which tags look
like misspelt parameters.
-/

inductive DropReason where
  | comment
  | keyResolved
  | markedLocale
  | localeMismatch (locale : String)
  | localeTaken
  | localePrecedence
  | noResolver (parameter : String)
  | parameterRejected (parameter : String)
  deriving DecidableEq

inductive Event where
  | dropped (path : Path) (key : String) (reason : DropReason)
  | selected (path : Path) (key base : String)
  | aliasRestored (path : Path) (key : String)
  | nearMiss (miss : Tag.NearMiss)
  deriving DecidableEq

inductive Level where
  | trace
  | debug
  | warn
  deriving DecidableEq

def Level.label : Level → String
  | trace => "trace"
  | debug => "debug"
  | warn => "warn"

namespace DropReason

def message : DropReason → String
  | comment => "dropping comment"
  | keyResolved => "dropping entry for an already resolved key"
  | markedLocale => "dropping extraction-marked locale entry"
  | localeMismatch _ => "locale does not match"
  | localeTaken => "another locale entry already won"
  | localePrecedence => "locale entry takes precedence"
  | noResolver _ => "no resolver configured"
  | parameterRejected _ => "parameter does not apply"

def fields : DropReason → List (String × String)
  | localeMismatch locale => [("locale", locale)]
  | noResolver parameter => [("param", parameter)]
  | parameterRejected parameter => [("param", parameter)]
  | _ => []

end DropReason

namespace Event

/-- A name of up to three bytes may well be a language, so a near miss of one is
reported less loudly. -/
def resemblesLanguage (miss : Tag.NearMiss) : Bool :=
  miss.name.utf8ByteSize ≤ 3

def level : Event → Level
  | nearMiss miss => if resemblesLanguage miss then .debug else .warn
  | _ => .trace

def message : Event → String
  | dropped _ _ reason => reason.message
  | selected _ _ _ => "locale entry selected"
  | aliasRestored _ _ => "restoring extraction alias"
  | nearMiss miss =>
      if resemblesLanguage miss then
        "tag resembles a parameter, treating it as a locale pattern"
      else "tag looks like an unregistered parameter, treating it as a locale pattern"

def fields : Event → List (String × String)
  | dropped path key reason => ("path", path.display) :: ("key", key) :: reason.fields
  | selected path key base => [("path", path.display), ("key", key), ("untagged", base)]
  | aliasRestored path key => [("path", path.display), ("key", key)]
  | nearMiss miss =>
      [("key", miss.stripped), ("param", miss.name),
        ("suggestions", ", ".intercalate miss.suggestions)]

end Event
end Resolution
end TaggedContent
