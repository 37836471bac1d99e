import TaggedContent.Proofs.Pattern.Continuation

namespace TaggedContent
namespace Pattern

/-!
# Brackets in a text that goes on

A bracket that is closed is read as the same class whatever follows it.  Two places
look ahead while the bracket is still open: a hyphen asks for the letter behind it,
and a named class is looked for up to its end.  Neither finds anything else in a
longer text, because the bracket has to be closed within the shorter one.
-/

variable {verbose : Bool} {letters rest : List Char}

/-! ## Members -/

theorem classAtom?_append {atom : Token} (more : List Char)
    (read : classAtom? verbose letters = some (atom, rest)) (left : rest ≠ []) :
    classAtom? verbose (letters ++ more) = some (atom, rest ++ more) := by
  cases letters with
  | nil => cases read
  | cons letter letters =>
      simp only [List.cons_append, classAtom?] at read ⊢
      split at read
      case isTrue escape =>
        rw [if_pos escape]
        exact (escape?_continues read).steady left more
      case isFalse plain =>
        cases read
        rw [if_neg plain]

theorem peekVerbose_append {inComment : Bool} {letter : Char} (more : List Char)
    {letters : List Char} (seen : peekVerbose inComment letters = some letter) :
    peekVerbose inComment (letters ++ more) = some letter := by
  induction letters generalizing inComment with
  | nil => cases seen
  | cons first letters further =>
      simp only [List.cons_append, peekVerbose] at seen ⊢
      split at seen
      case isTrue blank =>
        rw [if_pos blank]
        exact further seen
      case isFalse printed =>
        rw [if_neg printed]
        split at seen
        case isTrue sign =>
          rw [if_pos sign]
          exact further seen
        case isFalse other => rw [if_neg other, seen]

/-- Where nothing is seen, everything is white space and perhaps one number sign. -/
theorem skipIgnored_of_peekVerbose {inComment skipping : Bool} {letters : List Char}
    (unseen : peekVerbose inComment letters = none) : skipIgnored skipping letters = [] := by
  induction letters generalizing inComment skipping with
  | nil => cases skipping <;> rfl
  | cons letter letters further =>
      simp only [peekVerbose] at unseen
      cases skipping with
      | true =>
          split at unseen
          · exact further unseen
          · split at unseen
            · exact further unseen
            · cases unseen
      | false =>
          simp only [skipIgnored]
          split at unseen
          case isTrue blank =>
            rw [if_pos blank]
            exact further unseen
          case isFalse printed =>
            rw [if_neg printed]
            split at unseen
            case isTrue sign =>
              rw [if_pos sign.1]
              exact further unseen
            case isFalse => cases unseen

theorem peek_append (more : List Char)
    (seen : skip verbose letters ≠ [] ∨ peek verbose letters = some ']' ∨
      peek verbose letters = some '-') :
    peek verbose (letters ++ more) = peek verbose letters := by
  cases verbose with
  | false =>
      cases letters with
      | nil => simp [skip, peek] at seen
      | cons letter letters => rfl
  | true =>
      cases peeked : peekVerbose false letters with
      | some letter => simp [peek, peeked, peekVerbose_append more peeked]
      | none =>
          have skipped : skip true letters = [] := skipIgnored_of_peekVerbose peeked
          cases letters with
          | nil => simp [skipped, peek, peekVerbose] at seen
          | cons letter letters =>
              have bracket : isBlank ']' = false := by decide +kernel
              have hyphen : isBlank '-' = false := by decide +kernel
              rcases seen with some_left | seen | seen
              · exact absurd skipped some_left
              · obtain rfl : letter = ']' := by simpa [peek, peeked] using seen
                simp [peekVerbose, bracket] at peeked
              · obtain rfl : letter = '-' := by simpa [peek, peeked] using seen
                simp [peekVerbose, hyphen] at peeked

theorem member?_append {member : ClassSet} (more : List Char)
    (read : member? verbose letters = some (member, rest)) (left : rest ≠ []) :
    member? verbose (letters ++ more) = some (member, rest ++ more) := by
  rcases Option.bind_eq_some_iff.mp read with ⟨⟨first, after⟩, readFirst, read⟩
  dsimp only at read
  have some_left : skip verbose after ≠ [] := by
    intro skipped
    simp [skipped] at read
  have after_left : after ≠ [] := by
    rintro rfl
    exact some_left (skip_nil verbose)
  simp only [member?, classAtom?_append more readFirst after_left, Option.bind_some,
    skip_append more some_left]
  split at read
  case h_1 => cases read
  case h_2 tail hyphen =>
    simp only [hyphen, List.cons_append]
    split at read
    case isTrue stops =>
      rw [peek_append more (.inr stops), if_pos stops]
      rcases Option.map_eq_some_iff.mp read with ⟨member, known, same⟩
      cases same
      simp [known]
    case isFalse range =>
      rcases Option.bind_eq_some_iff.mp read with ⟨⟨last, others⟩, readLast, read⟩
      have tail_left : skip verbose tail ≠ [] := by
        intro skipped
        simp [skipped, classAtom?] at readLast
      rw [peek_append more (.inl tail_left), if_neg range, skip_append more tail_left]
      dsimp only at read
      split at read
      case h_1 lower _ upper _ =>
        split at read
        case isTrue ascending =>
          cases read
          simp [classAtom?_append more readLast left, ascending]
        case isFalse => cases read
      case h_2 => cases read
  case h_3 noHyphen =>
    rcases Option.map_eq_some_iff.mp read with ⟨member, known, same⟩
    cases same
    rcases List.exists_cons_of_ne_nil some_left with ⟨letter, tail, present⟩
    have different : letter ≠ '-' := by
      rintro rfl
      exact noHyphen tail present
    simp [present, different, known]

/-- The last letter of a text is no member; a bracket would have to be closed behind it. -/
theorem member?_singleton (verbose : Bool) (letter : Char) : member? verbose [letter] = none := by
  by_cases escape : letter = '\\'
  · simp [member?, classAtom?, escape, escape?]
  · simp [member?, classAtom?, escape, skip_nil]

/-- Where no sign with a meaning of its own comes next, a member is read. -/
theorem bracketWithin_of_member {steps : Nat} {bracket : Bracket} {outer : List Bracket}
    {letter next : Char} {tail : List Char} {member : ClassSet}
    (present : skip verbose letters = letter :: next :: tail)
    (ordinary : letter ≠ '[' ∧ letter ≠ ']' ∧ ¬ (letter = next ∧ letter ∈ ['&', '-', '~']))
    (read : member? verbose (letter :: next :: tail) = some (member, rest)) :
    bracketWithin verbose (steps + 1) bracket outer letters =
      bracketWithin verbose steps (bracket.push member) outer rest := by
  rcases ordinary with ⟨noOpening, noClosing, noOperator⟩
  rw [bracketWithin, present]
  split
  case h_1 same => cases same
  case h_2 same =>
    cases same
    exact absurd rfl noOpening
  case h_3 same =>
    cases same
    exact absurd rfl noClosing
  case h_4 same | h_5 same | h_6 same =>
    cases same
    exact absurd ⟨rfl, by simp⟩ noOperator
  case h_7 => simp only [read]

/-! ## The beginning of a bracket -/

/-- Whether a caret begins the text, and what follows. -/
def afterCaret (verbose : Bool) (letters : List Char) : Bool × List Char :=
  match skip verbose letters with
  | '^' :: rest => (true, skip verbose rest)
  | opened => (false, opened)

/-- The bracket that begins with the hyphens of the text, or with a bracket that
stands for itself. -/
def withHyphens (verbose : Bool) : Bool × List Char → Bracket × List Char
  | (negated, opened) =>
      match takeRun verbose (· == '-') opened with
      | ([], ']' :: rest) => (⟨negated, none, [.literal ']']⟩, skip verbose rest)
      | (hyphens, rest) => (⟨negated, none, hyphens.map .literal⟩, rest)

theorem begin_eq (verbose : Bool) (letters : List Char) :
    Bracket.begin verbose letters = withHyphens verbose (afterCaret verbose letters) := by
  simp only [Bracket.begin, afterCaret]
  generalize skip verbose letters = opened
  cases opened with
  | nil => rfl
  | cons letter tail =>
      by_cases caret : letter = '^'
      · subst caret
        rfl
      · simp only [List.cons.injEq, caret, false_and, imp_self, implies_true]
        rfl

theorem afterCaret_append (more : List Char) (left : (afterCaret verbose letters).2 ≠ []) :
    afterCaret verbose (letters ++ more) =
      ((afterCaret verbose letters).1, (afterCaret verbose letters).2 ++ more) := by
  have some_left : skip verbose letters ≠ [] := by
    intro skipped
    simp [afterCaret, skipped] at left
  unfold afterCaret at left ⊢
  rw [skip_append more some_left]
  rcases List.exists_cons_of_ne_nil some_left with ⟨letter, tail, present⟩
  rw [present] at left ⊢
  by_cases caret : letter = '^'
  · subst caret
    simp only [List.cons_append, skip_append more left]
  · simp [caret]

theorem withHyphens_append {negated : Bool} {opened : Bracket} (more : List Char)
    (read : withHyphens verbose (negated, letters) = (opened, rest)) (left : rest ≠ []) :
    letters ≠ [] ∧ withHyphens verbose (negated, letters ++ more) = (opened, rest ++ more) := by
  simp only [withHyphens] at read ⊢
  split at read
  case h_1 after run =>
    cases read
    have longer := takeRun_append more run (List.cons_ne_nil _ _)
    rw [List.cons_append] at longer
    simp only [longer, skip_append more left, and_true]
    exact ne_nil_of_takeRun run (List.cons_ne_nil _ _)
  case h_2 hyphens after unclosed run =>
    cases read
    refine ⟨ne_nil_of_takeRun run left, ?_⟩
    rw [takeRun_append more run left]
    rcases List.exists_cons_of_ne_nil left with ⟨letter, tail, rfl⟩
    split
    case h_1 same =>
      cases same
      exact (unclosed _ rfl rfl).elim
    case h_2 same =>
      cases same
      rfl

theorem begin_append {opened : Bracket} (more : List Char)
    (begun : Bracket.begin verbose letters = (opened, rest)) (left : rest ≠ []) :
    Bracket.begin verbose (letters ++ more) = (opened, rest ++ more) := by
  rw [begin_eq] at begun ⊢
  rcases withHyphens_append more begun left with ⟨caret_left, longer⟩
  rw [afterCaret_append more caret_left]
  exact longer

/-! ## Named classes -/

/-- The letters of the names, and what stands before a name. -/
def posixLetters : List Char :=
  [':', '^', 'a', 'b', 'c', 'd', 'e', 'f', 'g', 'h', 'i', 'j', 'k', 'l', 'm', 'n', 'o', 'p', 'q',
    'r', 's', 't', 'u', 'v', 'w', 'x', 'y', 'z']

theorem posixLetters_plain : ∀ letter ∈ posixLetters,
    isBlank letter = false ∧ letter ∉ ['#', '[', ']', '&', '-', '~', '\\'] := by
  have all : posixLetters.all (fun letter =>
      !isBlank letter && decide (letter ∉ ['#', '[', ']', '&', '-', '~', '\\'])) = true := by
    decide +kernel
  intro letter there
  simpa using List.all_eq_true.mp all letter there

def posixNames : List String :=
  ["alnum", "alpha", "ascii", "blank", "cntrl", "digit", "graph", "lower", "print", "punct",
    "space", "upper", "word", "xdigit"]

theorem mem_posixNames {name : String} {kind : PosixClass}
    (named : posixNamed? name = some kind) : name ∈ posixNames := by
  unfold posixNamed? at named
  split at named
  case h_15 => cases named
  all_goals simp [posixNames]

theorem posixNames_plain : ∀ name ∈ posixNames,
    ':' ∉ name.toList ∧ '^' ∉ name.toList ∧ ∀ letter ∈ name.toList, letter ∈ posixLetters := by
  have all : posixNames.all (fun name =>
      !name.toList.contains ':' && !name.toList.contains '^' &&
        name.toList.all posixLetters.contains) = true := by
    decide +kernel
  intro name there
  simpa [and_assoc] using List.all_eq_true.mp all name there

theorem name_plain {name : List Char} {kind : PosixClass}
    (named : posixNamed? (.ofList name) = some kind) :
    ':' ∉ name ∧ '^' ∉ name ∧ ∀ letter ∈ name, letter ∈ posixLetters := by
  simpa using posixNames_plain _ (mem_posixNames named)

/-- What stands before the first colon is the name, and a bracket has to follow. -/
theorem closing_eq_some_iff {negated : Bool} {member : ClassSet} :
    (match letters.dropWhile (· ≠ ':') with
      | ':' :: ']' :: after =>
          (posixNamed? (.ofList (letters.takeWhile (· ≠ ':')))).map fun kind =>
            (ClassSet.posix kind negated, after)
      | _ => none) = some (member, rest) ↔
      ∃ (name : List Char) (kind : PosixClass), posixNamed? (.ofList name) = some kind ∧
        member = .posix kind negated ∧ letters = name ++ ':' :: ']' :: rest := by
  constructor
  · intro read
    split at read
    case h_1 after closing =>
      rcases Option.map_eq_some_iff.mp read with ⟨kind, known, same⟩
      cases same
      refine ⟨letters.takeWhile (· ≠ ':'), kind, known, rfl, ?_⟩
      rw [← closing, List.takeWhile_append_dropWhile]
    case h_2 => cases read
  · rintro ⟨name, kind, known, rfl, rfl⟩
    have noColon : ∀ letter ∈ name, decide (letter ≠ ':') = true := by
      intro letter there
      exact decide_eq_true fun same => (name_plain known).1 (same ▸ there)
    rw [List.takeWhile_append_of_pos noColon, List.dropWhile_append_of_pos noColon]
    simp [known]

/-- A named class is written by a colon, perhaps a caret, a name and the closing. -/
theorem posix?_eq_some_iff {member : ClassSet} :
    posix? letters = some (member, rest) ↔
      ∃ (negated : Bool) (name : List Char) (kind : PosixClass),
        posixNamed? (.ofList name) = some kind ∧ member = .posix kind negated ∧
          letters = ':' :: ((if negated then ['^'] else []) ++ name ++ ':' :: ']' :: rest) := by
  constructor
  · intro read
    unfold posix? at read
    split at read
    case h_1 text =>
      rcases closing_eq_some_iff.mp read with ⟨name, kind, known, rfl, rfl⟩
      exact ⟨true, name, kind, known, rfl, rfl⟩
    case h_2 text =>
      rcases closing_eq_some_iff.mp read with ⟨name, kind, known, rfl, rfl⟩
      exact ⟨false, name, kind, known, rfl, rfl⟩
    case h_3 => cases read
  · rintro ⟨negated, name, kind, known, rfl, rfl⟩
    cases negated with
    | true => exact closing_eq_some_iff.mpr ⟨name, kind, known, rfl, rfl⟩
    | false =>
        cases name with
        | nil => cases known
        | cons letter name =>
            have noCaret : letter ≠ '^' := by
              rintro rfl
              exact (name_plain known).2.1 List.mem_cons_self
            refine Eq.trans ?_ (closing_eq_some_iff.mpr ⟨letter :: name, kind, known, rfl, rfl⟩)
            unfold posix?
            split
            case h_1 caret =>
              cases caret
              exact absurd rfl noCaret
            case h_2 same =>
              cases same
              rfl
            case h_3 other => exact (other _ rfl).elim

theorem posix?_append {member : ClassSet} (more : List Char)
    (read : posix? letters = some (member, rest)) :
    posix? (letters ++ more) = some (member, rest ++ more) := by
  rcases posix?_eq_some_iff.mp read with ⟨negated, name, kind, known, rfl, rfl⟩
  exact posix?_eq_some_iff.mpr ⟨negated, name, kind, known, rfl, by simp⟩

/-- A text that is the beginning of a named class and no more holds no bracket. -/
theorem posixLetters_of_posix?_append {more : List Char}
    (unnamed : posix? letters = none) (named : posix? (letters ++ more) ≠ none) :
    ∀ letter ∈ letters, letter ∈ posixLetters := by
  rcases Option.ne_none_iff_exists'.mp named with ⟨⟨member, after⟩, read⟩
  rcases posix?_eq_some_iff.mp read with ⟨negated, name, kind, known, rfl, whole⟩
  have plain : ∀ letter ∈ ':' :: ((if negated then ['^'] else []) ++ name ++ [':']),
      letter ∈ posixLetters := by
    have signs : ':' ∈ posixLetters ∧ '^' ∈ posixLetters := by decide +kernel
    have inName := (name_plain known).2.2
    intro letter there
    cases negated <;> simp at there <;> grind
  have split_there : letters ++ more =
      (':' :: ((if negated then ['^'] else []) ++ name ++ [':'])) ++ (']' :: after) := by
    simp [whole]
  rcases List.append_eq_append_iff.mp split_there with ⟨others, longer, -⟩ | ⟨others, shorter, rest⟩
  · intro letter there
    exact plain letter (longer ▸ List.mem_append_left others there)
  · cases others with
    | nil =>
        rw [List.append_nil] at shorter
        rwa [shorter]
    | cons bracket others =>
        cases rest
        have readAll : posix? letters = some (.posix kind negated, others) :=
          posix?_eq_some_iff.mpr ⟨negated, name, kind, known, rfl, by simp [shorter]⟩
        rw [unnamed] at readAll
        cases readAll

theorem skip_of_posixLetters (plain : ∀ letter ∈ letters, letter ∈ posixLetters) :
    skip verbose letters = letters := by
  cases verbose with
  | false => rfl
  | true =>
      cases letters with
      | nil => rfl
      | cons letter letters =>
          rcases posixLetters_plain letter (plain letter List.mem_cons_self) with
            ⟨printed, ordinary⟩
          have noSign : letter ≠ '#' := fun same => ordinary (by simp [same])
          simp [skip, skipIgnored, printed, noSign]

theorem takeRun_of_posixLetters (plain : ∀ letter ∈ letters, letter ∈ posixLetters) :
    takeRun verbose (· == '-') letters = ([], letters) := by
  cases letters with
  | nil => rfl
  | cons letter letters =>
      rcases posixLetters_plain letter (plain letter List.mem_cons_self) with ⟨-, ordinary⟩
      have noHyphen : letter ≠ '-' := fun same => ordinary (by simp [same])
      simp [takeRun, takeRunWithin, noHyphen]

theorem afterCaret_of_posixLetters (plain : ∀ letter ∈ letters, letter ∈ posixLetters) :
    ∀ letter ∈ (afterCaret verbose letters).2, letter ∈ posixLetters := by
  unfold afterCaret
  rw [skip_of_posixLetters plain]
  split
  case h_1 rest =>
    have plainRest := (List.forall_mem_cons.mp plain).2
    rwa [skip_of_posixLetters plainRest]
  case h_2 => exact plain

theorem begin_of_posixLetters (plain : ∀ letter ∈ letters, letter ∈ posixLetters) :
    ∀ letter ∈ (Bracket.begin verbose letters).2, letter ∈ posixLetters := by
  rw [begin_eq]
  have plainRest : ∀ letter ∈ (afterCaret verbose letters).2, letter ∈ posixLetters :=
    afterCaret_of_posixLetters plain
  generalize afterCaret verbose letters = begun at plainRest ⊢
  rcases begun with ⟨negated, opened⟩
  rw [withHyphens, takeRun_of_posixLetters plainRest]
  split
  case h_1 rest closing =>
    cases closing
    rcases posixLetters_plain ']' (plainRest _ List.mem_cons_self) with ⟨-, ordinary⟩
    exact absurd (by simp) ordinary
  case h_2 same =>
    cases same
    exact plainRest

/-- Without a closing bracket in the text no bracket is closed. -/
theorem bracketWithin_of_posixLetters {steps : Nat} {bracket : Bracket} {outer : List Bracket}
    (plain : ∀ letter ∈ letters, letter ∈ posixLetters) :
    bracketWithin verbose steps bracket outer letters = none := by
  induction steps generalizing bracket letters with
  | zero => rfl
  | succ steps further =>
      rcases letters with _ | ⟨letter, _ | ⟨next, tail⟩⟩
      · simp [bracketWithin, skip_nil]
      · rcases posixLetters_plain letter (plain letter List.mem_cons_self) with ⟨-, ordinary⟩
        simp only [List.mem_cons, List.not_mem_nil, or_false, not_or] at ordinary
        simp [bracketWithin, skip_of_posixLetters plain, ordinary, member?_singleton]
      · have plainRest := (List.forall_mem_cons.mp plain).2
        rcases posixLetters_plain letter (plain letter List.mem_cons_self) with ⟨-, ordinary⟩
        rcases posixLetters_plain next (plainRest next List.mem_cons_self) with
          ⟨-, nextOrdinary⟩
        simp only [List.mem_cons, List.not_mem_nil, or_false, not_or] at ordinary nextOrdinary
        have read : member? verbose (letter :: next :: tail) =
            some (.literal letter, next :: tail) := by
          simp [member?, classAtom?, ordinary, skip_of_posixLetters plainRest, nextOrdinary,
            memberOfToken?]
        rw [bracketWithin_of_member (skip_of_posixLetters plain) (by simp [ordinary]) read]
        exact further plainRest

/-! ## Brackets -/

theorem ne_nil_of_bracketWithin {steps : Nat} {bracket : Bracket} {outer : List Bracket}
    {token : Token}
    (read : bracketWithin verbose steps bracket outer letters = some (token, rest)) :
    letters ≠ [] := by
  rintro rfl
  cases steps <;> simp [bracketWithin, skip_nil] at read

theorem bracketWithin_append {steps further : Nat} {bracket : Bracket} {outer : List Bracket}
    {token : Token} (more : List Char) (furtherSteps : steps ≤ further)
    (read : bracketWithin verbose steps bracket outer letters = some (token, rest)) :
    bracketWithin verbose further bracket outer (letters ++ more) = some (token, rest ++ more) := by
  induction steps generalizing bracket outer letters further with
  | zero => cases read
  | succ steps shorter =>
      rcases Nat.exists_eq_succ_of_ne_zero (Nat.ne_zero_of_lt furtherSteps) with ⟨further, rfl⟩
      have enough := Nat.le_of_succ_le_succ furtherSteps
      have some_left : skip verbose letters ≠ [] := by
        intro skipped
        simp [bracketWithin, skipped] at read
      simp only [bracketWithin] at read
      split at read
      case h_1 => cases read
      case h_2 inner opened =>
        rw [bracketWithin, skip_append more some_left, opened]
        split at read
        case h_1 member after named =>
          simp only [List.cons_append, posix?_append more named, shorter enough read]
        case h_2 unnamed =>
          -- A name that ends in the new text leaves no closing bracket in the old one.
          have still : posix? (inner ++ more) = none := by
            by_contra named
            have plain := posixLetters_of_posix?_append unnamed named
            rw [bracketWithin_of_posixLetters (begin_of_posixLetters plain)] at read
            cases read
          rcases begun : Bracket.begin verbose inner with ⟨inside, after⟩
          rw [begun] at read
          simp only [List.cons_append, still,
            begin_append more begun (ne_nil_of_bracketWithin read), shorter enough read]
      case h_3 inner closed =>
        rw [bracketWithin, skip_append more some_left, closed]
        split at read
        case h_1 =>
          cases read
          rfl
        case h_2 => exact shorter enough read
      case h_4 inner operator | h_5 inner operator | h_6 inner operator =>
        rw [bracketWithin, skip_append more some_left, operator]
        exact shorter enough read
      case h_7 _ noOpening noClosing noBoth noDifference noEither =>
        split at read
        case h_2 => cases read
        case h_1 member after readMember =>
          rcases present : skip verbose letters with _ | ⟨letter, _ | ⟨next, tail⟩⟩
          · exact absurd present some_left
          · rw [present, member?_singleton] at readMember
            cases readMember
          · have longer := member?_append more readMember (ne_nil_of_bracketWithin read)
            rw [present] at longer noOpening noClosing noBoth noDifference noEither
            have presentMore : skip verbose (letters ++ more) =
                letter :: next :: (tail ++ more) := by
              rw [skip_append more some_left, present]
              rfl
            have ordinary : letter ≠ '[' ∧ letter ≠ ']' ∧
                ¬ (letter = next ∧ letter ∈ ['&', '-', '~']) := by
              refine ⟨?_, ?_, ?_⟩
              · rintro rfl
                exact noOpening _ rfl
              · rintro rfl
                exact noClosing _ rfl
              · rintro ⟨rfl, sign⟩
                simp only [List.mem_cons, List.not_mem_nil, or_false] at sign
                rcases sign with rfl | rfl | rfl
                · exact noBoth _ rfl
                · exact noDifference _ rfl
                · exact noEither _ rfl
            rw [bracketWithin_of_member presentMore ordinary longer]
            exact shorter enough read

theorem bracket?_append {token : Token} (more : List Char)
    (read : bracket? verbose letters = some (token, rest)) :
    bracket? verbose (letters ++ more) = some (token, rest ++ more) := by
  have left : (Bracket.begin verbose letters).2 ≠ [] := by
    intro nothing
    simp [bracket?, nothing, bracketWithin, skip_nil] at read
  rcases begun : Bracket.begin verbose letters with ⟨opened, after⟩
  rw [begun] at left
  simp only [bracket?, begun, begin_append more begun left] at read ⊢
  exact bracketWithin_append more (by simp) read

end Pattern
end TaggedContent
