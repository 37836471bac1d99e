import TaggedContent.Pattern.Bracket

namespace TaggedContent
namespace Pattern

/-!
# Scanning a pattern

The tokens of a whole pattern text, or nothing when some token is malformed or
the groups do not balance.
-/

/-- The token that begins with `letter`. -/
def Token.next? (verbose : Bool) (letter : Char) (rest : List Char) :
    Option (Token × List Char) :=
  match letter with
  | '(' => opening? verbose rest
  | ')' => some (.closing, rest)
  | '|' => some (.bar, rest)
  | '[' => bracket? verbose rest
  | '?' => some (Token.ofRounds 0 (some 1) rest)
  | '*' => some (Token.ofRounds 0 none rest)
  | '+' => some (Token.ofRounds 1 none rest)
  | '{' => counted? verbose rest
  | '\\' => escape? verbose rest
  | '.' => some (.dot, rest)
  | '^' => some (.anchor .lineStart, rest)
  | '$' => some (.anchor .lineEnd, rest)
  | _ => some (.literal letter false, rest)

/-- Whether ignored text is skipped, here and after each of the open groups. -/
structure Layout where
  verbose : Bool
  outer : List Bool
  deriving DecidableEq

/-- The layout after a token; a group that was never opened cannot be closed. -/
def Layout.after? (layout : Layout) : Token → Option Layout
  | .opening (.scoped changes) =>
      some ⟨(settingOf .verbose changes).getD layout.verbose, layout.verbose :: layout.outer⟩
  | .opening (.capture _) => some ⟨layout.verbose, layout.verbose :: layout.outer⟩
  | .closing =>
      match layout.outer with
      | [] => none
      | verbose :: outer => some ⟨verbose, outer⟩
  | .flags changes =>
      some { layout with verbose := (settingOf .verbose changes).getD layout.verbose }
  | _ => some layout

def scanWithin : Nat → Layout → List Char → Option (List Token)
  | 0, _, _ => none
  | steps + 1, layout, letters =>
      match skip layout.verbose letters with
      | [] => if layout.outer.isEmpty then some [] else none
      | letter :: rest =>
          (Token.next? layout.verbose letter rest).bind fun (token, rest) =>
            (layout.after? token).bind fun layout =>
              (scanWithin steps layout rest).map (token :: ·)

/-- Every step but the last reads at least one letter. -/
def scan (letters : List Char) : Option (List Token) :=
  scanWithin (letters.length + 1) ⟨false, []⟩ letters

end Pattern
end TaggedContent
