import Mathlib.Data.List.TakeWhile
import TaggedContent.Pattern.Scan

namespace TaggedContent
namespace Pattern

/-!
# Text that goes on

A reading takes a token off the beginning of a text and leaves the rest.  Here each
reading is followed when more text is put behind the whole.  As long as something
is left over, or a closing parenthesis comes next, the same token is read and the
longer rest is left.  There is one way out of this: where ignored text is skipped
up to the end, the text may stop inside a comment, and then the comment takes up
what follows on its line.
-/

variable {verbose : Bool} {letters rest : List Char} {token : Token}

/-! ## Ignored text -/

theorem skip_nil (verbose : Bool) : skip verbose [] = [] := by
  cases verbose <;> rfl

theorem skip_closing (verbose : Bool) (letters : List Char) :
    skip verbose (')' :: letters) = ')' :: letters := by
  cases verbose with
  | false => rfl
  | true =>
      have printed : isBlank ')' = false := by decide +kernel
      simp [skip, skipIgnored, printed]

theorem skipIgnored_append (more : List Char) {inComment : Bool} {letters : List Char}
    (left : skipIgnored inComment letters ≠ []) :
    skipIgnored inComment (letters ++ more) = skipIgnored inComment letters ++ more := by
  induction letters generalizing inComment with
  | nil => exact absurd rfl left
  | cons letter letters further =>
      cases inComment with
      | true => exact further left
      | false =>
          simp only [List.cons_append, skipIgnored] at left ⊢
          split
          case isTrue blank => exact further (by simpa only [if_pos blank] using left)
          case isFalse printed =>
            rw [if_neg printed] at left
            split
            case isTrue sign => exact further (by simpa only [if_pos sign] using left)
            case isFalse => rfl

/-- Text that follows what is left after skipping changes nothing. -/
theorem skip_append (more : List Char) (left : skip verbose letters ≠ []) :
    skip verbose (letters ++ more) = skip verbose letters ++ more := by
  cases verbose with
  | false => rfl
  | true => exact skipIgnored_append more left

theorem skipIgnored_comment {letters : List Char} (oneLine : '\n' ∉ letters) :
    skipIgnored true letters = [] := by
  induction letters with
  | nil => rfl
  | cons letter letters further =>
      rcases not_or.mp (mt List.mem_cons.mpr oneLine) with ⟨different, others⟩
      rw [skipIgnored, decide_eq_true (Ne.symm different)]
      exact further others

theorem skipIgnored_eq_nil {inComment : Bool} {letters : List Char}
    (skipped : skipIgnored inComment letters = []) :
    (∀ more, skipIgnored inComment (letters ++ more) = skipIgnored false more) ∨
      ∀ more, '\n' ∉ more → skipIgnored inComment (letters ++ more) = [] := by
  induction letters generalizing inComment with
  | nil =>
      cases inComment with
      | true => exact .inr fun more oneLine => skipIgnored_comment oneLine
      | false => exact .inl fun more => rfl
  | cons letter letters further =>
      cases inComment with
      | true => exact further skipped
      | false =>
          simp only [List.cons_append, skipIgnored] at skipped ⊢
          split
          case isTrue blank => exact further (by simpa only [if_pos blank] using skipped)
          case isFalse printed =>
            rw [if_neg printed] at skipped
            split
            case isTrue sign => exact further (by simpa only [if_pos sign] using skipped)
            case isFalse other =>
              rw [if_neg other] at skipped
              cases skipped

/-- Ignored text up to the end is over there, or it is a comment that goes on. -/
theorem skip_eq_nil (skipped : skip verbose letters = []) :
    (∀ more, skip verbose (letters ++ more) = skip verbose more) ∨
      ∀ more, '\n' ∉ more → skip verbose (letters ++ more) = [] := by
  cases verbose with
  | false =>
      obtain rfl : letters = [] := skipped
      exact .inl fun more => rfl
  | true => exact skipIgnored_eq_nil skipped

theorem length_skipIgnored_le (inComment : Bool) (letters : List Char) :
    (skipIgnored inComment letters).length ≤ letters.length := by
  induction letters generalizing inComment with
  | nil => cases inComment <;> exact Nat.le_refl 0
  | cons letter letters further =>
      cases inComment with
      | true => exact Nat.le_succ_of_le (further _)
      | false =>
          simp only [skipIgnored]
          split
          · exact Nat.le_succ_of_le (further _)
          · split
            · exact Nat.le_succ_of_le (further _)
            · exact Nat.le_refl _

theorem length_skip_le (verbose : Bool) (letters : List Char) :
    (skip verbose letters).length ≤ letters.length := by
  cases verbose with
  | false => exact Nat.le_refl _
  | true => exact length_skipIgnored_le false letters

theorem takeRunWithin_append {accept : Char → Bool} {steps further : Nat}
    {run : List Char} (enough : letters.length ≤ steps) (more : List Char)
    (furtherSteps : steps ≤ further)
    (taken : takeRunWithin verbose accept steps letters = (run, rest)) (left : rest ≠ []) :
    takeRunWithin verbose accept further (letters ++ more) = (run, rest ++ more) := by
  induction steps generalizing letters run rest further with
  | zero =>
      obtain rfl := List.length_eq_zero_iff.mp (Nat.le_zero.mp enough)
      cases taken
      exact absurd rfl left
  | succ steps shorter =>
      cases letters with
      | nil =>
          cases taken
          exact absurd rfl left
      | cons letter letters =>
          rcases Nat.exists_eq_succ_of_ne_zero (Nat.ne_zero_of_lt furtherSteps) with ⟨further, rfl⟩
          simp only [List.cons_append, takeRunWithin] at taken ⊢
          split at taken
          case isTrue accepted =>
            cases taken
            rw [if_pos accepted]
            have some_left : skip verbose letters ≠ [] := by
              intro skipped
              rw [skipped] at left
              exact left (by cases steps <;> rfl)
            have enoughLeft : (skip verbose letters).length ≤ steps :=
              Nat.le_trans (length_skip_le verbose letters) (Nat.le_of_succ_le_succ enough)
            rw [skip_append more some_left,
              shorter enoughLeft (Nat.le_of_succ_le_succ furtherSteps) rfl left]
          case isFalse refused =>
            cases taken
            rw [if_neg refused]
            rfl

theorem takeWhile_append_of_left {accept : Char → Bool} (more : List Char)
    (left : letters.dropWhile accept ≠ []) :
    (letters ++ more).takeWhile accept = letters.takeWhile accept := by
  rw [List.takeWhile_append, if_neg]
  intro whole
  have all := List.takeWhile_eq_self_iff.mp ((List.takeWhile_prefix accept).eq_of_length whole)
  exact left (List.dropWhile_eq_nil_iff.mpr all)

theorem dropWhile_append_of_left {accept : Char → Bool} (more : List Char)
    (left : letters.dropWhile accept ≠ []) :
    (letters ++ more).dropWhile accept = letters.dropWhile accept ++ more := by
  rw [List.dropWhile_append, if_neg (by simpa [List.isEmpty_iff] using left)]

/-- A run that leaves something was taken off something. -/
theorem ne_nil_of_takeRun {accept : Char → Bool} {run : List Char}
    (taken : takeRun verbose accept letters = (run, rest)) (left : rest ≠ []) : letters ≠ [] := by
  rintro rfl
  cases taken
  exact left rfl

/-- A run that leaves something has ended for good. -/
theorem takeRun_append {accept : Char → Bool} {run : List Char} (more : List Char)
    (taken : takeRun verbose accept letters = (run, rest)) (left : rest ≠ []) :
    takeRun verbose accept (letters ++ more) = (run, rest ++ more) :=
  takeRunWithin_append (Nat.le_refl _) more (by simp) taken left

/-- The same where ignored text is skipped before the run. -/
theorem takeRun_skip_append {accept : Char → Bool} {run : List Char} (more : List Char)
    (taken : takeRun verbose accept (skip verbose letters) = (run, rest)) (left : rest ≠ []) :
    takeRun verbose accept (skip verbose (letters ++ more)) = (run, rest ++ more) := by
  rw [skip_append more (ne_nil_of_takeRun taken left)]
  exact takeRun_append more taken left

/-! ## Readings with more text behind -/

/-- How a reading goes on, given what it reads when more text is behind its own. -/
def Continues (reading : List Char → Option (α × List Char)) (value : α) (rest : List Char) :
    Prop :=
  (∀ more, rest ≠ [] ∨ more.head? = some ')' → reading more = some (value, rest ++ more)) ∨
    (rest = [] ∧ ∀ more, '\n' ∉ more → reading more = some (value, []))

/-- Where nothing is left, a closing parenthesis comes next. -/
theorem exists_of_delimited {more : List Char}
    (delimited : ([] : List Char) ≠ [] ∨ more.head? = some ')') :
    ∃ others, more = ')' :: others :=
  List.head?_eq_some_iff.mp (delimited.resolve_left fun some_left => some_left rfl)

namespace Continues

variable {α β : Type} {reading : List Char → Option (α × List Char)} {value : α}

theorem of_forall (always : ∀ more, reading more = some (value, rest ++ more)) :
    Continues reading value rest :=
  .inl fun more _ => always more

/-- A reading that leaves something is not changed by what is behind. -/
theorem steady (continues : Continues reading value rest) (left : rest ≠ []) (more : List Char) :
    reading more = some (value, rest ++ more) := by
  rcases continues with continues | ⟨nothing, -⟩
  · exact continues more (.inl left)
  · exact absurd nothing left

theorem congr {other : List Char → Option (α × List Char)}
    (continues : Continues reading value rest) (same : ∀ more, other more = reading more) :
    Continues other value rest := by
  rwa [funext same]

/-- What is made of the value afterwards, when the rest is only handed on. -/
theorem bind (continues : Continues reading value rest)
    {next : α × List Char → Option (β × List Char)} {result : β}
    (accepted : ∀ rest, next (value, rest) = some (result, rest)) :
    Continues (fun more => (reading more).bind next) result rest := by
  rcases continues with continues | ⟨nothing, continues⟩
  · refine .inl fun more delimited => ?_
    simp only [continues more delimited, Option.bind_some, accepted]
  · refine .inr ⟨nothing, fun more oneLine => ?_⟩
    simp only [continues more oneLine, Option.bind_some, accepted]

theorem map (continues : Continues reading value rest) (result : α → β) :
    Continues (fun more => (reading more).map fun read => (result read.1, read.2))
      (result value) rest := by
  simp only [Option.map_eq_bind]
  exact continues.bind fun rest => rfl

/-- Reading nothing after ignored text. -/
theorem skip (value : α) (skipped : skip verbose letters = []) :
    Continues (fun more => some (value, Pattern.skip verbose (letters ++ more))) value [] := by
  rcases skip_eq_nil skipped with ended | commented
  · refine .inl fun more delimited => ?_
    rcases exists_of_delimited delimited with ⟨others, rfl⟩
    simp only [ended, skip_closing, List.nil_append]
  · exact .inr ⟨rfl, fun more oneLine => by simp only [commented more oneLine]⟩

end Continues

/-! ## Escapes -/

theorem fixedHex?_continues {count : Nat} {digits : List Char}
    (read : fixedHex? verbose count letters = some (digits, rest)) :
    Continues (fun more => fixedHex? verbose count (letters ++ more)) digits rest := by
  induction count generalizing letters digits with
  | zero =>
      cases read
      exact .of_forall fun more => rfl
  | succ count further =>
      cases letters with
      | nil => cases read
      | cons letter letters =>
          simp only [fixedHex?] at read
          split at read
          case isFalse => cases read
          case isTrue digit =>
            rcases Option.map_eq_some_iff.mp read with ⟨⟨others, after⟩, readOthers, same⟩
            cases same
            simp only [List.cons_append, fixedHex?, if_pos digit]
            by_cases skipped : skip verbose letters = []
            -- After the last digit ignored text is skipped too, and it may be all there is.
            · rw [skipped] at readOthers
              cases count with
              | zero =>
                  cases readOthers
                  exact (Continues.skip [] skipped).map (letter :: ·)
              | succ count => cases readOthers
            · simp only [skip_append _ skipped]
              exact (further readOthers).map (letter :: ·)

theorem hexEscape?_continues {count : Nat}
    (read : hexEscape? verbose (count + 1) letters = some (token, rest)) :
    Continues (fun more => hexEscape? verbose (count + 1) (letters ++ more)) token rest := by
  have some_left : skip verbose letters ≠ [] := by
    intro skipped
    simp [hexEscape?, skipped, fixedHex?] at read
  simp only [hexEscape?, skip_append _ some_left] at read ⊢
  split at read
  case h_1 inner opened =>
    rw [opened]
    split at read
    case h_1 digits after run =>
      refine .of_forall fun more => ?_
      simp only [List.cons_append, takeRun_skip_append more run (List.cons_ne_nil _ _)]
      split at read
      case isTrue => cases read
      case isFalse wellFormed =>
        rcases Option.map_eq_some_iff.mp read with ⟨letter, scalar, same⟩
        cases same
        simp only [if_neg wellFormed, scalar, Option.map_some]
    case h_2 => cases read
  case h_2 unopened =>
    rcases Option.bind_eq_some_iff.mp read with ⟨⟨digits, after⟩, readDigits, same⟩
    rcases Option.map_eq_some_iff.mp same with ⟨letter, scalar, same⟩
    cases same
    dsimp only at scalar
    have whole : Continues (fun more =>
        (fixedHex? verbose (count + 1) (skip verbose letters ++ more)).bind fun read =>
          (scalarOfHex? read.1).map fun letter =>
            (Token.literal letter (count + 1 == 2), read.2))
        (.literal letter (count + 1 == 2)) after :=
      (fixedHex?_continues readDigits).bind fun after => by
        simp only [scalar, Option.map_some]
    refine whole.congr fun more => ?_
    rcases List.exists_cons_of_ne_nil some_left with ⟨first, others, present⟩
    rw [present] at unopened ⊢
    simp only [List.cons_append]
    split
    case h_1 inner opened =>
      cases opened
      exact absurd rfl (unopened others)
    case h_2 => rfl

theorem propertyEscape?_append {negated : Bool} (more : List Char)
    (read : propertyEscape? verbose negated letters = some (token, rest)) :
    propertyEscape? verbose negated (letters ++ more) = some (token, rest ++ more) := by
  have some_left : skip verbose letters ≠ [] := by
    intro skipped
    simp [propertyEscape?, skipped] at read
  simp only [propertyEscape?, skip_append more some_left] at read ⊢
  split at read
  case h_1 inner opened =>
    rw [opened]
    split at read
    case h_1 text after run =>
      cases read
      simp only [List.cons_append, takeRun_skip_append more run (List.cons_ne_nil _ _)]
    case h_2 => cases read
  case h_2 letter others unopened present =>
    rw [present, List.cons_append]
    split at read
    case isTrue => cases read
    case isFalse other =>
      cases read
      split
      case h_1 opened =>
        cases opened
        exact (unopened rfl).elim
      case h_2 same =>
        cases same
        rw [if_neg other]
      case h_3 nothing => cases nothing
  case h_3 => cases read

theorem boundaryEscape?_plain {first : Char} (unopened : first ≠ '{') (letters : List Char) :
    boundaryEscape? verbose (first :: letters) =
      some (.anchor (.word .boundary), first :: letters) := by
  unfold boundaryEscape?
  split
  case h_1 opened =>
    cases opened
    exact absurd rfl unopened
  case h_2 => rfl

theorem boundaryEscape?_continues
    (read : boundaryEscape? verbose letters = some (token, rest)) :
    Continues (fun more => boundaryEscape? verbose (letters ++ more)) token rest := by
  cases letters with
  | nil =>
      cases read
      refine .inl fun more delimited => ?_
      rcases exists_of_delimited delimited with ⟨others, rfl⟩
      rfl
  | cons first letters =>
      refine .of_forall fun more => ?_
      by_cases opened : first = '{'
      · subst opened
        simp only [List.cons_append, boundaryEscape?] at read ⊢
        split at read
        case h_1 => cases read
        case h_2 letter others present =>
          have some_left : skip verbose letters ≠ [] := by simp [present]
          simp only [skip_append more some_left, present, List.cons_append]
          split at read
          case isTrue named =>
            rw [if_pos named]
            split at read
            case h_1 name after run =>
              rcases Option.map_eq_some_iff.mp read with ⟨test, known, same⟩
              cases same
              have longer := takeRun_append more run (List.cons_ne_nil _ _)
              rw [List.cons_append] at longer
              simp only [longer, List.cons_append, known, Option.map_some]
            case h_2 => cases read
          case isFalse unnamed =>
            rw [if_neg unnamed]
            cases read
            rfl
      · rw [boundaryEscape?_plain opened] at read
        cases read
        exact boundaryEscape?_plain opened (letters ++ more)

theorem escape?_continues (read : escape? verbose letters = some (token, rest)) :
    Continues (fun more => escape? verbose (letters ++ more)) token rest := by
  cases letters with
  | nil => cases read
  | cons letter letters =>
      simp only [List.cons_append, escape?] at read ⊢
      split at read
      case h_1 => exact hexEscape?_continues read
      case h_2 => exact hexEscape?_continues read
      case h_3 => exact hexEscape?_continues read
      case h_4 => exact .of_forall fun more => propertyEscape?_append more read
      case h_5 => exact .of_forall fun more => propertyEscape?_append more read
      case h_20 => exact boundaryEscape?_continues read
      case h_24 =>
        split at read
        case isTrue sign =>
          cases read
          refine .of_forall fun more => ?_
          simp only [if_pos sign]
        case isFalse => cases read
      all_goals
        cases read
        exact .of_forall fun more => rfl

/-! ## Groups and flags -/

theorem groupName?_append {name : String} (more : List Char)
    (read : groupName? letters = some (name, rest)) :
    groupName? (letters ++ more) = some (name, rest ++ more) := by
  unfold groupName? at read ⊢
  split at read
  case h_1 first others closing after named present =>
    have left : letters.dropWhile (· ≠ '>') ≠ [] := by rw [present]; exact List.cons_ne_nil _ _
    rw [takeWhile_append_of_left more left, dropWhile_append_of_left more left, named, present]
    split at read
    case isTrue wellFormed =>
      cases read
      simp only [List.cons_append, if_pos wellFormed]
    case isFalse => cases read
  case h_2 => cases read

theorem flagChanges?_append {on dangling : Bool} {changes : List FlagChange} {stop : Char}
    (more : List Char) (read : flagChanges? on dangling letters = some (changes, stop, rest)) :
    flagChanges? on dangling (letters ++ more) = some (changes, stop, rest ++ more) := by
  induction letters generalizing on dangling changes with
  | nil => cases read
  | cons letter letters further =>
      simp only [List.cons_append, flagChanges?] at read ⊢
      split at read
      case isTrue ended =>
        rw [if_pos ended]
        split at read
        case isTrue => cases read
        case isFalse closed =>
          cases read
          rw [if_neg closed]
      case isFalse goesOn =>
        rw [if_neg goesOn]
        split at read
        case isTrue hyphen =>
          rw [if_pos hyphen]
          split at read
          case isTrue switched =>
            rw [if_pos switched]
            exact further read
          case isFalse => cases read
        case isFalse noHyphen =>
          rw [if_neg noHyphen]
          split at read
          case h_1 => cases read
          case h_2 flag known =>
            split at read
            case h_1 => cases read
            case h_2 others stop rest readOthers =>
              split at read
              case isTrue => cases read
              case isFalse fresh =>
                cases read
                simp only [further readOthers, if_neg fresh]

/-- A flag list does not begin like a look-around or a group name. -/
theorem flagChanges?_head {on dangling : Bool} {letter : Char} {letters : List Char}
    (read : (flagChanges? on dangling (letter :: letters)).isSome = true) :
    letter ∉ ['=', '!', '<', 'P'] := by
  intro special
  simp only [List.mem_cons, List.not_mem_nil, or_false] at special
  rcases special with rfl | rfl | rfl | rfl <;> simp [flagChanges?, flagOf?] at read

theorem opening?_continues (read : opening? verbose letters = some (token, rest)) :
    Continues (fun more => opening? verbose (letters ++ more)) token rest := by
  by_cases skipped : skip verbose letters = []
  · obtain ⟨rfl, rfl⟩ : token = .opening (.capture none) ∧ rest = [] := by
      simpa [opening?, skipped, eq_comm] using read
    rcases skip_eq_nil skipped with ended | commented
    · refine .inl fun more delimited => ?_
      rcases exists_of_delimited delimited with ⟨others, rfl⟩
      simp [opening?, ended, skip_closing]
    · refine .inr ⟨rfl, fun more oneLine => ?_⟩
      simp [opening?, commented more oneLine]
  · refine .of_forall fun more => ?_
    simp only [opening?, skip_append more skipped] at read ⊢
    split at read
    case h_1 | h_2 | h_3 | h_4 => cases read
    case h_5 inner begun =>
      rcases Option.map_eq_some_iff.mp read with ⟨⟨name, after⟩, named, same⟩
      cases same
      simp only [begun, List.cons_append, groupName?_append more named, Option.map_some]
    case h_6 inner noLookbehind noNegated begun =>
      rcases Option.map_eq_some_iff.mp read with ⟨⟨name, after⟩, named, same⟩
      cases same
      cases inner with
      | nil => cases named
      | cons letter inner =>
          have noEqual : letter ≠ '=' := fun same => noLookbehind inner (by rw [same])
          have noMark : letter ≠ '!' := fun same => noNegated inner (by rw [same])
          have longer := groupName?_append more named
          rw [List.cons_append] at longer
          simp [begun, longer, noEqual, noMark]
    case h_7 inner _ _ _ _ _ _ begun =>
      split at read
      case h_1 => cases read
      case h_2 changes stop after flagged =>
        have longer := flagChanges?_append more flagged
        cases inner with
        | nil => cases flagged
        | cons letter inner =>
            have head := flagChanges?_head (by rw [flagged]; rfl)
            simp only [List.mem_cons, List.not_mem_nil, or_false, not_or] at head
            rw [List.cons_append] at longer
            split at read
            case isTrue group =>
              cases read
              simp [begun, longer, head, group]
            case isFalse noGroup =>
              split at read
              case isTrue => cases read
              case isFalse nonempty =>
                cases read
                rw [List.isEmpty_iff] at nonempty
                simp [begun, longer, head, noGroup, nonempty]
    case h_8 unmarked =>
      cases read
      rcases List.exists_cons_of_ne_nil skipped with ⟨first, others, present⟩
      have ordinary : first ≠ '?' := by
        rintro rfl
        exact unmarked others present
      simp [present, ordinary]

/-! ## Repetitions -/

theorem count?_append {count : Nat} (more : List Char)
    (read : count? verbose letters = some (count, rest)) (left : rest ≠ []) :
    count? verbose (letters ++ more) = some (count, rest ++ more) := by
  simp only [count?] at read
  split at read
  case isTrue => cases read
  case isFalse counted =>
    cases read
    rcases run : takeRun verbose Char.isDigit (letters.dropWhile isBlank) with ⟨digits, after⟩
    rw [run] at counted left
    have after_left : after.dropWhile isBlank ≠ [] := by
      intro blank
      rw [blank, skip_nil] at left
      exact left rfl
    have after_some : after ≠ [] := by
      rintro rfl
      exact after_left rfl
    have letters_left := ne_nil_of_takeRun run after_some
    simp only [count?, dropWhile_append_of_left more letters_left,
      takeRun_append more run after_some, if_neg counted,
      dropWhile_append_of_left more after_left, skip_append more left]

theorem ofRounds_append (least : Nat) (most : Option Nat) (more : List Char)
    (left : letters ≠ []) :
    Token.ofRounds least most (letters ++ more) =
      ((Token.ofRounds least most letters).1, (Token.ofRounds least most letters).2 ++ more) := by
  rcases List.exists_cons_of_ne_nil left with ⟨first, others, rfl⟩
  by_cases question : first = '?'
  · subst question
    rfl
  · simp [Token.ofRounds, question]

/-- The end of a repetition: ignored text, and perhaps a question mark. -/
theorem continues_ofRounds (verbose : Bool) {least : Nat} {most : Option Nat}
    (read : Token.ofRounds least most (skip verbose letters) = (token, rest)) :
    Continues (fun more => some (Token.ofRounds least most (skip verbose (letters ++ more))))
      token rest := by
  by_cases skipped : skip verbose letters = []
  · rw [skipped] at read
    cases read
    rcases skip_eq_nil skipped with ended | commented
    · refine .inl fun more delimited => ?_
      rcases exists_of_delimited delimited with ⟨others, rfl⟩
      simp [ended, skip_closing, Token.ofRounds]
    · exact .inr ⟨rfl, fun more oneLine => by simp [commented more oneLine, Token.ofRounds]⟩
  · exact .of_forall fun more => by
      simp only [skip_append more skipped, ofRounds_append least most more skipped, read]

theorem count?_nil (verbose : Bool) : count? verbose [] = none :=
  rfl

theorem counted?_continues (read : counted? verbose letters = some (token, rest)) :
    Continues (fun more => counted? verbose (letters ++ more)) token rest := by
  rcases Option.bind_eq_some_iff.mp read with ⟨⟨least, after⟩, first, read⟩
  have some_left : skip verbose letters ≠ [] := by
    intro skipped
    rw [skipped, count?_nil] at first
    cases first
  dsimp only at read
  split at read
  case h_1 inner =>
    refine (continues_ofRounds verbose (Option.some.inj read)).congr fun more => ?_
    have longer := count?_append more first (List.cons_ne_nil _ _)
    rw [List.cons_append] at longer
    simp only [counted?, skip_append more some_left, longer, Option.bind_some]
  case h_2 inner =>
    have inner_left : skip verbose inner ≠ [] := by
      intro skipped
      simp [skipped, count?_nil] at read
    have longer := fun more => count?_append more first (List.cons_ne_nil _ _)
    simp only [List.cons_append] at longer
    split at read
    case h_1 others present =>
      refine (continues_ofRounds verbose (Option.some.inj read)).congr fun more => ?_
      simp only [counted?, skip_append more some_left, longer, Option.bind_some,
        skip_append more inner_left, present, List.cons_append]
    case h_2 unclosed =>
      split at read
      case h_1 most others second =>
        split at read
        case isTrue allowed =>
          refine (continues_ofRounds verbose (Option.some.inj read)).congr fun more => ?_
          have longerSecond := count?_append more second (List.cons_ne_nil _ _)
          rcases List.exists_cons_of_ne_nil inner_left with ⟨letter, tail, present⟩
          have open_brace : letter ≠ '}' := by
            rintro rfl
            exact unclosed tail present
          rw [present, List.cons_append, List.cons_append] at longerSecond
          simp [counted?, skip_append more some_left, longer,
            skip_append more inner_left, present, open_brace, longerSecond, allowed]
        case isFalse => cases read
      case h_2 => cases read
  case h_3 => cases read

end Pattern
end TaggedContent
