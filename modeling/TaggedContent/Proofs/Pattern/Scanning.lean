import TaggedContent.Pattern.Cache
import TaggedContent.Proofs.Pattern.Bracket

namespace TaggedContent
namespace Pattern

/-!
# Scanning a pattern between anchors

A pattern that scans on its own gives the same tokens when it stands inside an open
group, up to a closing parenthesis behind it.  So between anchors it gives its own
tokens with those of the anchors around them.  The exception is a pattern whose
last line ends in a comment: there the closing parenthesis is part of the comment,
and the anchored text does not scan.
-/

variable {verbose : Bool} {letters rest : List Char} {token : Token}

/-! ## One token -/

theorem Token.next?_continues {letter : Char}
    (read : Token.next? verbose letter letters = some (token, rest)) :
    Continues (fun more => Token.next? verbose letter (letters ++ more)) token rest := by
  unfold Token.next? at read ⊢
  split at read
  case h_1 => exact opening?_continues read
  case h_4 => exact .of_forall fun more => bracket?_append more read
  case h_5 | h_6 | h_7 =>
    exact continues_ofRounds false (Option.some.inj read)
  case h_8 => exact counted?_continues read
  case h_9 => exact escape?_continues read
  case h_13 =>
    cases read
    exact .of_forall fun more => rfl
  all_goals
    cases read
    exact .of_forall fun more => rfl

/-- Further open groups around those of a layout. -/
def Layout.inside (base : List Bool) (layout : Layout) : Layout :=
  ⟨layout.verbose, layout.outer ++ base⟩

theorem Layout.after?_inside {layout after : Layout} (base : List Bool)
    (left : layout.after? token = some after) :
    (layout.inside base).after? token = some (after.inside base) := by
  rcases layout with ⟨verbose, outer⟩
  cases token with
  | opening kind =>
      cases kind <;>
        · cases left
          rfl
  | closing =>
      cases outer with
      | nil => cases left
      | cons _ _ =>
          cases left
          rfl
  | _ =>
      cases left
      rfl

/-! ## All tokens -/

/-- Scanning looks at a text only behind the ignored text at its beginning. -/
theorem scanWithin_congr {steps : Nat} {layout : Layout} {letters others : List Char}
    (same : skip layout.verbose letters = skip layout.verbose others) :
    scanWithin steps layout letters = scanWithin steps layout others := by
  cases steps with
  | zero => rfl
  | succ steps => simp only [scanWithin, same]

theorem scanWithin_of_skipped {layout : Layout} (steps : Nat)
    (skipped : skip layout.verbose letters = []) :
    scanWithin (steps + 1) layout letters = if layout.outer.isEmpty then some [] else none := by
  simp only [scanWithin, skipped]

theorem scanWithin_cons {layout after : Layout} (steps : Nat) {letter : Char}
    {behind : List Char} (present : skip layout.verbose letters = letter :: behind)
    (read : Token.next? layout.verbose letter behind = some (token, rest))
    (left : layout.after? token = some after) :
    scanWithin (steps + 1) layout letters = (scanWithin steps after rest).map (token :: ·) := by
  simp only [scanWithin, present, read, left, Option.bind_some]

theorem length_lt_of_scanWithin {steps : Nat} {layout : Layout} {tokens : List Token}
    (scanned : scanWithin steps layout letters = some tokens) : tokens.length < steps := by
  induction steps generalizing layout letters tokens with
  | zero => cases scanned
  | succ steps further =>
      simp only [scanWithin] at scanned
      split at scanned
      · split at scanned <;> cases scanned
        exact Nat.succ_pos steps
      · rcases Option.bind_eq_some_iff.mp scanned with ⟨⟨token, rest⟩, -, scanned⟩
        rcases Option.bind_eq_some_iff.mp scanned with ⟨after, -, scanned⟩
        rcases Option.map_eq_some_iff.mp scanned with ⟨others, scannedRest, rfl⟩
        exact Nat.succ_lt_succ (further scannedRest)

/-- Inside further groups the same tokens are read up to a closing parenthesis. -/
def ScansUpTo (layout : Layout) (letters : List Char) (tokens : List Token) : Prop :=
  ∃ verbose, ∀ (base : List Bool) (more : List Char) (steps : Nat), more.head? = some ')' →
    scanWithin (tokens.length + steps) (layout.inside base) (letters ++ more) =
      (scanWithin steps ⟨verbose, base⟩ more).map (tokens ++ ·)

/-- What follows on the same line is ignored. -/
def ScansOver (layout : Layout) (letters : List Char) (tokens : List Token) : Prop :=
  ∀ (base : List Bool) (more : List Char) (steps : Nat), '\n' ∉ more →
    scanWithin (tokens.length + (steps + 1)) (layout.inside base) (letters ++ more) =
      if base.isEmpty then some tokens else none

theorem Layout.inside_of_closed {layout : Layout} (closed : layout.outer = []) (base : List Bool) :
    layout.inside base = ⟨layout.verbose, base⟩ := by
  rw [Layout.inside, closed, List.nil_append]

theorem scansUpTo_nil {layout : Layout} (closed : layout.outer = [])
    (complete : ∀ more, skip layout.verbose (letters ++ more) = skip layout.verbose more) :
    ScansUpTo layout letters [] := by
  refine ⟨layout.verbose, fun base more steps _ => ?_⟩
  have same : scanWithin steps ⟨layout.verbose, base⟩ (letters ++ more) =
      scanWithin steps ⟨layout.verbose, base⟩ more := scanWithin_congr (complete more)
  simp [Layout.inside_of_closed closed, same]

theorem scansOver_nil {layout : Layout} (closed : layout.outer = [])
    (commented : ∀ more, '\n' ∉ more → skip layout.verbose (letters ++ more) = []) :
    ScansOver layout letters [] := by
  intro base more steps oneLine
  rw [Layout.inside_of_closed closed, List.length_nil, Nat.zero_add]
  exact scanWithin_of_skipped steps (commented more oneLine)

section Cons

variable {layout after : Layout} {letter : Char} {behind : List Char} {tokens : List Token}
  (present : skip layout.verbose letters = letter :: behind)
  (left : layout.after? token = some after)
include present left

/-- One more token inside further groups, with text behind. -/
theorem scanWithin_inside_cons (base : List Bool) (more : List Char) (steps : Nat)
    (read : Token.next? layout.verbose letter (behind ++ more) = some (token, rest)) :
    scanWithin ((token :: tokens).length + steps) (layout.inside base) (letters ++ more) =
      (scanWithin (tokens.length + steps) (after.inside base) rest).map (token :: ·) := by
  have some_left : skip layout.verbose letters ≠ [] := by simp [present]
  have presentMore : skip (layout.inside base).verbose (letters ++ more) =
      letter :: (behind ++ more) := by
    rw [Layout.inside, skip_append more some_left, present, List.cons_append]
  rw [List.length_cons, Nat.add_right_comm]
  exact scanWithin_cons _ presentMore read (Layout.after?_inside base left)

theorem scansUpTo_cons
    (read : ∀ more : List Char, more.head? = some ')' →
      Token.next? layout.verbose letter (behind ++ more) = some (token, rest ++ more))
    (others : ScansUpTo after rest tokens) : ScansUpTo layout letters (token :: tokens) := by
  rcases others with ⟨verbose, others⟩
  refine ⟨verbose, fun base more steps closing => ?_⟩
  rw [scanWithin_inside_cons present left base more steps (read more closing),
    others base more steps closing, Option.map_map]
  rfl

theorem scansOver_cons
    (read : ∀ more : List Char,
      Token.next? layout.verbose letter (behind ++ more) = some (token, rest ++ more))
    (others : ScansOver after rest tokens) : ScansOver layout letters (token :: tokens) := by
  intro base more steps oneLine
  rw [scanWithin_inside_cons present left base more (steps + 1) (read more),
    others base more steps oneLine]
  split <;> rfl

/-- The last token swallows the rest of the line. -/
theorem scansOver_last (closed : after.outer = [])
    (read : ∀ more : List Char, '\n' ∉ more →
      Token.next? layout.verbose letter (behind ++ more) = some (token, [])) :
    ScansOver layout letters [token] := by
  intro base more steps oneLine
  rw [scanWithin_inside_cons present left base more (steps + 1) (read more oneLine),
    List.length_nil, Nat.zero_add, scanWithin_of_skipped steps (skip_nil _),
    Layout.inside_of_closed closed]
  cases base <;> rfl

end Cons

/-- A text that ends with this token: its rest has no tokens. -/
theorem scanWithin_nil {steps : Nat} {layout : Layout} {tokens : List Token}
    (scanned : scanWithin steps layout [] = some tokens) : tokens = [] ∧ layout.outer = [] := by
  cases steps with
  | zero => cases scanned
  | succ steps =>
      rw [scanWithin_of_skipped steps (skip_nil _)] at scanned
      split at scanned
      case isTrue closed =>
        cases scanned
        exact ⟨rfl, List.isEmpty_iff.mp closed⟩
      case isFalse => cases scanned

/-- Text that scans goes on scanning as before, or swallows the rest of its line. -/
theorem scansUpTo_or_scansOver {steps : Nat} {layout : Layout} {tokens : List Token}
    (scanned : scanWithin steps layout letters = some tokens) :
    ScansUpTo layout letters tokens ∨ ScansOver layout letters tokens := by
  induction steps generalizing layout letters tokens with
  | zero => cases scanned
  | succ steps further =>
      simp only [scanWithin] at scanned
      split at scanned
      case h_1 skipped =>
        split at scanned
        case isFalse => cases scanned
        case isTrue closed =>
          cases scanned
          rw [List.isEmpty_iff] at closed
          exact (skip_eq_nil skipped).imp (scansUpTo_nil closed) (scansOver_nil closed)
      case h_2 letter behind present =>
        rcases Option.bind_eq_some_iff.mp scanned with ⟨⟨token, rest⟩, read, scanned⟩
        rcases Option.bind_eq_some_iff.mp scanned with ⟨after, left, scanned⟩
        rcases Option.map_eq_some_iff.mp scanned with ⟨others, scannedRest, rfl⟩
        rcases Token.next?_continues read with steady | ⟨rfl, swallows⟩
        · by_cases ended : rest = []
          -- Only a closing parenthesis is known to leave a token at the end as it is.
          · subst ended
            rcases scanWithin_nil scannedRest with ⟨rfl, closed⟩
            exact .inl (scansUpTo_cons present left (fun more closing => steady more (.inr closing))
              (scansUpTo_nil closed fun more => rfl))
          · exact (further scannedRest).imp
              (scansUpTo_cons present left fun more _ => steady more (.inl ended))
              (scansOver_cons present left fun more => steady more (.inl ended))
        · rcases scanWithin_nil scannedRest with ⟨rfl, closed⟩
          exact .inr (scansOver_last present left closed swallows)

/-! ## Whole patterns -/

/-- Whatever is written behind the text, on its last line, is ignored: the text ends in
a comment. -/
def EndsInComment (letters : List Char) : Prop :=
  ∀ more, '\n' ∉ more → scan (letters ++ more) = scan letters

/-- The text between a start of line, an opening without capture and their ends. -/
def enclosed (letters : List Char) : List Char :=
  '^' :: '(' :: '?' :: ':' :: (letters ++ [')', '$'])

theorem toList_anchored (pattern : String) :
    (anchored pattern).toList = enclosed pattern.toList := by
  simp [anchored, enclosed]

def enclosedTokens (tokens : List Token) : List Token :=
  .anchor .lineStart :: .opening (.scoped []) :: tokens ++ [.closing, .anchor .lineEnd]

theorem scan_enclosed (letters : List Char) :
    scan (enclosed letters) =
      (scanWithin (letters.length + 5) (Layout.inside [false] ⟨false, []⟩)
        (letters ++ [')', '$'])).map fun tokens =>
          .anchor .lineStart :: .opening (.scoped []) :: tokens := by
  have started : ∀ steps text, scanWithin (steps + 1) ⟨false, []⟩ ('^' :: text) =
      (scanWithin steps ⟨false, []⟩ text).map (.anchor .lineStart :: ·) :=
    fun _ _ => scanWithin_cons _ rfl rfl rfl
  have opened : ∀ steps text, scanWithin (steps + 1) ⟨false, []⟩ ('(' :: '?' :: ':' :: text) =
      (scanWithin steps ⟨false, [false]⟩ text).map (.opening (.scoped []) :: ·) :=
    fun _ _ => scanWithin_cons _ rfl rfl rfl
  have steps : (enclosed letters).length + 1 = letters.length + 5 + 1 + 1 := by simp [enclosed]
  rw [scan, steps, enclosed, started, opened, Option.map_map]
  rfl

/-- The end of the group and of the whole, in whatever layout the group ends. -/
theorem scanWithin_closing (verbose : Bool) (steps : Nat) :
    scanWithin (steps + 3) ⟨verbose, [false]⟩ [')', '$'] = some [.closing, .anchor .lineEnd] := by
  have closed : scanWithin (steps + 3) ⟨verbose, [false]⟩ [')', '$'] =
      (scanWithin (steps + 2) ⟨false, []⟩ ['$']).map (.closing :: ·) :=
    scanWithin_cons _ (skip_closing verbose ['$']) rfl rfl
  rw [closed]
  rfl

variable {tokens : List Token}

theorem scan_enclosed_of_scansUpTo (upTo : ScansUpTo ⟨false, []⟩ letters tokens)
    (scanned : scan letters = some tokens) :
    scan (enclosed letters) = some (enclosedTokens tokens) ∧ ¬ EndsInComment letters := by
  rcases upTo with ⟨verbose, upTo⟩
  have fewer := length_lt_of_scanWithin scanned
  constructor
  · obtain ⟨steps, enough⟩ : ∃ steps, letters.length + 5 = tokens.length + (steps + 3) :=
      ⟨letters.length + 2 - tokens.length, by omega⟩
    rw [scan_enclosed, enough, upTo [false] _ _ rfl, scanWithin_closing]
    rfl
  · intro commented
    -- A parenthesis behind such a text closes no group, and is not ignored.
    have closing := commented [')'] (by decide)
    obtain ⟨steps, enough⟩ : ∃ steps, (letters ++ [')']).length + 1 = tokens.length + (steps + 1) :=
      ⟨letters.length + 1 - tokens.length, by simp; omega⟩
    have unopened : scanWithin (steps + 1) ⟨verbose, []⟩ [')'] = none := by
      simp [scanWithin, skip_closing, Token.next?, Layout.after?]
    have fails := upTo [] [')'] (steps + 1) rfl
    rw [unopened, Option.map_none] at fails
    rw [scanned, scan, enough] at closing
    exact absurd (closing.symm.trans fails) (Option.some_ne_none _)

theorem scan_enclosed_of_scansOver (swallows : ScansOver ⟨false, []⟩ letters tokens)
    (scanned : scan letters = some tokens) :
    scan (enclosed letters) = none ∧ EndsInComment letters := by
  have fewer := length_lt_of_scanWithin scanned
  constructor
  · obtain ⟨steps, enough⟩ : ∃ steps, letters.length + 5 = tokens.length + (steps + 1) :=
      ⟨letters.length + 4 - tokens.length, by omega⟩
    rw [scan_enclosed, enough, swallows [false] _ _ (by decide)]
    rfl
  · intro more oneLine
    obtain ⟨steps, enough⟩ : ∃ steps, (letters ++ more).length + 1 = tokens.length + (steps + 1) :=
      ⟨(letters ++ more).length - tokens.length, by simp; omega⟩
    rw [scanned, scan, enough]
    exact swallows [] more steps oneLine

theorem scan_enclosed_of_endsInComment (scanned : scan letters = some tokens)
    (commented : EndsInComment letters) : scan (enclosed letters) = none := by
  rcases scansUpTo_or_scansOver scanned with upTo | swallows
  · exact absurd commented (scan_enclosed_of_scansUpTo upTo scanned).2
  · exact (scan_enclosed_of_scansOver swallows scanned).1

theorem scan_enclosed_of_not_endsInComment (scanned : scan letters = some tokens)
    (uncommented : ¬ EndsInComment letters) :
    scan (enclosed letters) = some (enclosedTokens tokens) := by
  rcases scansUpTo_or_scansOver scanned with upTo | swallows
  · exact (scan_enclosed_of_scansUpTo upTo scanned).1
  · exact absurd (scan_enclosed_of_scansOver swallows scanned).2 uncommented

end Pattern
end TaggedContent
