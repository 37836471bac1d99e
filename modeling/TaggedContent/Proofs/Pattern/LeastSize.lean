import Mathlib
import TaggedContent.Pattern.Matching

namespace TaggedContent
namespace Pattern

/-!
# Patterns that are too large

Whatever is built for a part of a pattern, every letter that a match has to read costs a
state of its own.  Simplifying a pattern takes none of these letters away, and a repetition
is built as often as it has to be made.  So a pattern with more letters in a row than there
is room for states has an automaton beyond the limit.  Letters in alternatives are not
counted, for those may be shared or passed over.
-/

/-! ## What a construction adds -/

/-- However a construction succeeds, it adds at least so many states and stays within the
limit. -/
def Build.Adds {α : Type} (count : Nat) (build : Build α) : Prop :=
  ∀ (before after : Extent) (result : α), build before = some (result, after) →
    before.memory ≤ Extent.limit →
      before.states + count ≤ after.states ∧ after.memory ≤ Extent.limit

namespace Build
namespace Adds

variable {α β : Type} {count further total : Nat}

theorem pure (result : α) : Adds 0 (Pure.pure result : Build α) := by
  intro before after other built within
  cases built
  exact ⟨Nat.le_refl _, within⟩

theorem mono {build : Build α} (adds : Adds count build) (fewer : total ≤ count) :
    Adds total build := by
  intro before after result built within
  rcases adds before after result built within with ⟨more, fits⟩
  exact ⟨Nat.le_trans (Nat.add_le_add_left fewer _) more, fits⟩

theorem bind {build : Build α} {next : α → Build β} (first : Adds count build)
    (second : ∀ result, Adds further (next result)) : Adds (count + further) (build >>= next) := by
  intro before after result built within
  rcases Option.bind_eq_some_iff.mp built with ⟨⟨middle, between⟩, start, rest⟩
  rcases first before between middle start within with ⟨more, fits⟩
  rcases second middle between after result rest fits with ⟨evenMore, fitsToo⟩
  exact ⟨by omega, fitsToo⟩

theorem map {build : Build α} (function : α → β) (adds : Adds count build) :
    Adds count (function <$> build) :=
  bind adds fun _ => pure _

theorem add (states links : Nat) : Adds states (Build.add states links) := by
  intro before after result built _
  rw [Build.add] at built
  split at built
  case isTrue fits =>
    cases built
    exact ⟨Nat.le_refl _, fits⟩
  case isFalse => cases built

theorem state : Adds 1 Build.state :=
  add 1 0

theorem sparse (transitions : Nat) : Adds 1 (Build.sparse transitions) :=
  add 1 _

theorem branch (branches : Nat) : Adds 0 (Build.branch branches) :=
  add 0 _

theorem next : Adds 0 Build.next := by
  intro before after result built within
  cases built
  exact ⟨Nat.le_refl _, within⟩

theorem join (ending : Ending) : Adds 0 ending.join := by
  cases ending with
  | plain => exact pure ()
  | branching => exact branch 1

end Adds
end Build

/-! ## Shared states -/

/-- A construction that remembers states. -/
def Sharing {α : Type} (build : StateT Remembered Build α) : Prop :=
  ∀ remembered, Build.Adds 0 (build remembered)

namespace Sharing

variable {α β : Type}

theorem pure (result : α) : Sharing (Pure.pure result) :=
  fun _ => .pure _

theorem bind {build : StateT Remembered Build α} {next : α → StateT Remembered Build β}
    (first : Sharing build) (second : ∀ result, Sharing (next result)) :
    Sharing (build >>= next) :=
  fun remembered => (first remembered).bind fun middle => second middle.1 middle.2

theorem lift {build : Build α} (adds : Build.Adds 0 build) :
    Sharing (StateT.lift build : StateT Remembered Build α) :=
  fun _ => adds.bind fun _ => .pure _

theorem sharedState (slots : Nat) (description : List Nat) {add : Build Unit}
    (adds : Build.Adds 0 add) : Sharing (Pattern.sharedState slots description add) := by
  intro remembered
  unfold Pattern.sharedState
  dsimp only
  split
  · exact .pure _
  · exact Build.Adds.next.bind fun _ => adds.bind fun _ => .pure _

theorem mapM {build : α → StateT Remembered Build β} (sharing : ∀ item, Sharing (build item))
    (items : List α) : Sharing (items.mapM build) := by
  induction items with
  | nil => exact pure []
  | cons item items inductionHypothesis =>
      rw [List.mapM_cons]
      exact bind (sharing item) fun _ => bind inductionHypothesis fun _ => pure _

theorem foldlM {build : β → α → StateT Remembered Build β}
    (sharing : ∀ state item, Sharing (build state item)) (items : List α) (start : β) :
    Sharing (items.foldlM build start) := by
  induction items generalizing start with
  | nil => exact pure start
  | cons item items inductionHypothesis =>
      rw [List.foldlM_cons]
      exact bind (sharing start item) inductionHypothesis

theorem forM {build : α → StateT Remembered Build PUnit} (sharing : ∀ item, Sharing (build item))
    (items : List α) : Sharing (items.forM build) := by
  induction items with
  | nil => exact pure PUnit.unit
  | cons item items inductionHypothesis => exact bind (sharing item) fun _ => inductionHypothesis

theorem forwardState (target length : Nat) (sequences : List (List ByteRange)) :
    Sharing (Pattern.forwardState target length sequences) := by
  induction length generalizing sequences with
  | zero => exact pure target
  | succ length inductionHypothesis =>
      rw [Pattern.forwardState]
      split
      · exact pure target
      · refine bind (mapM ?_ _) fun _ => ?_
        · rintro ⟨range, tails⟩
          exact bind (inductionHypothesis tails) fun _ => pure _
        · exact sharedState _ _ ((Build.Adds.sparse _).mono (Nat.zero_le _))

end Sharing

/-! ## Classes, texts and repetitions -/

theorem adds_forwardClass (set : CodePoints) : Build.Adds 1 (forwardClass set) := by
  have shared : ∀ target, Build.Adds 0
      (discard <| (forwardState target 4 set.byteSequences).run .vacant) :=
    fun target => .map _ (Sharing.forwardState target 4 set.byteSequences .vacant)
  exact (Build.Adds.next.bind fun target => Build.Adds.state.bind fun _ => shared target).mono
    (by decide)

theorem adds_backwardClass (set : CodePoints) : Build.Adds 1 (backwardClass set) := by
  refine Build.Adds.mono (?_ : Build.Adds (1 + (0 + (1 + 0))) _) (by decide)
  refine .bind .state fun _ => .bind .next fun target => .bind .state fun _ => ?_
  refine Build.Adds.map _ (Sharing.forM (fun sequence => ?_) set.byteSequences .vacant)
  refine Sharing.bind (Sharing.bind (Sharing.foldlM ?_ _ _) fun _ => .pure _) fun _ => ?_
  · rintro state ⟨first, last⟩
    exact .sharedState _ _ (Build.Adds.state.mono (Nat.zero_le _))
  · exact .lift (.branch 1)

theorem adds_classOf (backwards : Bool) (set : CodePoints) :
    Build.Adds 1 (classOf backwards set) := by
  unfold classOf
  split
  case isTrue => exact (Build.Adds.state.bind fun _ => .sparse _).mono (by decide)
  case isFalse =>
    split
    case isTrue => exact adds_backwardClass set
    case isFalse => exact adds_forwardClass set

namespace TextTree

theorem adds_buildTransitions (transitions : Nat) :
    Build.Adds 0 (buildTransitions transitions) := by
  unfold buildTransitions
  split
  · exact .pure ()
  · exact (Build.Adds.state.bind fun _ => .branch 1).mono (Nat.zero_le _)
  · exact ((Build.Adds.sparse _).bind fun _ => .branch 1).mono (Nat.zero_le _)

theorem adds_buildNode (tree : TextTree) (transitions : Nat) :
    Build.Adds 0 (tree.buildNode transitions) := by
  induction tree generalizing transitions with
  | leaf => exact adds_buildTransitions transitions
  | edge byte below others belowHypothesis othersHypothesis =>
      rw [buildNode]
      split
      case isTrue => exact othersHypothesis _
      case isFalse =>
        exact ((belowHypothesis 0).bind fun _ => Build.Adds.state.bind fun _ =>
          othersHypothesis _).mono (Nat.zero_le _)
  | ended earlier inductionHypothesis =>
      exact (adds_buildTransitions transitions).bind fun _ =>
        (Build.Adds.branch 1).bind fun _ => inductionHypothesis 0

theorem adds_build (texts : List (List Nat)) : Build.Adds 0 (TextTree.build texts) :=
  (Build.Adds.state.bind fun _ => (adds_buildNode _ 0).bind fun _ => .state).mono (Nat.zero_le _)

end TextTree

theorem adds_furtherCopies {copy : Build Ending} {count : Nat} (adds : Build.Adds count copy)
    (copies : Nat) (ending : Ending) :
    Build.Adds (copies * count) (furtherCopies copy copies ending) := by
  induction copies generalizing ending with
  | zero => exact (Build.Adds.pure ending).mono (by omega)
  | succ copies inductionHypothesis =>
      exact (adds.bind fun next => (Build.Adds.join ending).bind fun _ =>
        inductionHypothesis next).mono (by rw [Nat.succ_mul]; omega)

theorem adds_exactly {copy : Build Ending} {count : Nat} (adds : Build.Adds count copy)
    (copies : Nat) : Build.Adds (copies * count) (exactly copy copies) := by
  cases copies with
  | zero => exact (Build.Adds.state.bind fun _ => .pure _).mono (by omega)
  | succ copies =>
      exact (adds.bind fun ending => adds_furtherCopies adds copies ending).mono
        (by rw [Nat.succ_mul]; omega)

theorem adds_optionalCopies {copy : Build Ending} (adds : Build.Adds 0 copy)
    (copies : Nat) (ending : Ending) : Build.Adds 0 (optionalCopies copy copies ending) := by
  induction copies generalizing ending with
  | zero => exact .pure ending
  | succ copies inductionHypothesis =>
      exact (Build.Adds.state.bind fun _ => adds.bind fun next => (Build.Adds.join ending).bind
        fun _ => (Build.Adds.branch 2).bind fun _ => inductionHypothesis next).mono (Nat.zero_le _)

theorem adds_rounds (consuming : Bool) {copy : Build Ending} {count : Nat}
    (adds : Build.Adds count copy) (least : Nat) (most : Option Nat) :
    Build.Adds (least * count) (rounds consuming copy least most) := by
  have any : Build.Adds 0 copy := adds.mono (Nat.zero_le _)
  unfold rounds
  split
  case h_1 =>
    exact (Build.Adds.state.bind fun _ => any.bind fun ending => Build.Adds.state.bind fun _ =>
      (Build.Adds.branch 2).bind fun _ => (Build.Adds.join ending).bind fun _ => .pure _).mono
      (by omega)
  case h_2 =>
    split
    case isTrue =>
      exact (Build.Adds.state.bind fun _ => any.bind fun ending => (Build.Adds.branch 1).bind
        fun _ => (Build.Adds.join ending).bind fun _ => .pure _).mono (by omega)
    case isFalse =>
      exact (any.bind fun ending => Build.Adds.state.bind fun _ => (Build.Adds.join ending).bind
        fun _ => (Build.Adds.branch 1).bind fun _ => Build.Adds.state.bind fun _ =>
          Build.Adds.state.bind fun _ => (Build.Adds.branch 3).bind fun _ => .pure _).mono
        (by omega)
  case h_3 least =>
    have loop : ∀ before : Ending, Build.Adds count (do
        let last ← copy
        Build.state
        before.join
        last.join
        Build.branch 1
        return Ending.branching) := fun before =>
      (adds.bind fun last => Build.Adds.state.bind fun _ => (Build.Adds.join before).bind
        fun _ => (Build.Adds.join last).bind fun _ => (Build.Adds.branch 1).bind
          fun _ => .pure _).mono (by omega)
    dsimp only
    split
    case isTrue none => exact ((Build.Adds.pure _).bind loop).mono (by simp [none])
    case isFalse =>
      exact ((adds_exactly adds least).bind loop).mono (Nat.le_of_eq (Nat.succ_mul least count))
  case h_4 =>
    refine ((adds_exactly adds _).bind fun required => (?_ : Build.Adds 0 _)).mono (Nat.le_refl _)
    split
    case isTrue => exact .pure _
    case isFalse =>
      exact (Build.Adds.state.bind fun _ => (adds_optionalCopies any _ _).bind fun last =>
        (Build.Adds.join last).bind fun _ => .pure _).mono (Nat.zero_le _)

/-! ## Letters in a row -/

/-- The rounds that a repetition has at least. -/
def leastRounds (least : Nat) : Option Nat → Nat
  | none => least
  | some most => min least most

mutual

/-- How many letters a match reads at least, those in alternatives not counted. -/
def Expression.letters : Expression → Nat
  | .literal _ _ => 1
  | .dot => 1
  | .shorthand _ _ => 1
  | .property _ _ => 1
  | .bracketed _ _ => 1
  | .repetition least most _ body => leastRounds least most * body.letters
  | .group _ body => body.letters
  | .sequence items => Expression.lettersOfAll items
  | _ => 0

def Expression.lettersOfAll : List Expression → Nat
  | [] => 0
  | item :: items => item.letters + Expression.lettersOfAll items

end

namespace Form

mutual

def letters : Form → Nat
  | empty => 0
  | text points => points.length
  | chars _ _ => 1
  | look _ => 0
  | repetition least most _ body => leastRounds least most * letters body
  | capture body => letters body
  | sequence parts => lettersOfAll parts
  | alternation _ => 0

def lettersOfAll : List Form → Nat
  | [] => 0
  | form :: forms => letters form + lettersOfAll forms

end

theorem lettersOfAll_append (left right : List Form) :
    lettersOfAll (left ++ right) = lettersOfAll left + lettersOfAll right := by
  induction left with
  | nil => rw [List.nil_append, lettersOfAll, Nat.zero_add]
  | cons form forms inductionHypothesis =>
      rw [List.cons_append, lettersOfAll, lettersOfAll, inductionHypothesis, Nat.add_assoc]

theorem one_le_length_utf8Bytes (point : Nat) : 1 ≤ (utf8Bytes point).length := by
  grind [utf8Bytes]

theorem length_le_encodedLength (points : List Nat) : points.length ≤ encodedLength points := by
  rw [encodedLength]
  induction points with
  | nil => exact Nat.le_refl 0
  | cons point points inductionHypothesis =>
      have first := one_le_length_utf8Bytes point
      rw [List.flatMap_cons, List.length_append, List.length_cons]
      omega

/-! ### Put together -/

theorem letters_ofSet (unicode : Bool) (set : CodePoints) : (ofSet unicode set).letters = 1 := by
  unfold ofSet
  split
  case isTrue => rfl
  case isFalse => split <;> rfl

theorem lettersOfAll_opened (form : Form) : lettersOfAll form.opened = form.letters := by
  cases form <;> simp [opened, lettersOfAll, letters]

theorem lettersOfAll_flatMap_opened (forms : List Form) :
    lettersOfAll (forms.flatMap opened) = lettersOfAll forms := by
  induction forms with
  | nil => rfl
  | cons form forms inductionHypothesis =>
      rw [List.flatMap_cons, lettersOfAll_append, lettersOfAll_opened, lettersOfAll,
        inductionHypothesis]

theorem lettersOfAll_joinTexts (forms : List Form) :
    lettersOfAll (joinTexts forms) = lettersOfAll forms := by
  induction forms with
  | nil => rfl
  | cons form forms inductionHypothesis =>
      have sum : lettersOfAll (form :: forms) = form.letters + lettersOfAll (joinTexts forms) := by
        rw [lettersOfAll, inductionHypothesis]
      rw [sum]
      conv => lhs; unfold joinTexts
      split
      case h_1 points more rest joined =>
        rw [joined, lettersOfAll, lettersOfAll, letters, letters, letters, List.length_append,
          Nat.add_assoc]
      case h_2 => rfl

theorem letters_ofSequence (parts : List Form) :
    (ofSequence parts).letters = lettersOfAll parts := by
  rw [← lettersOfAll_flatMap_opened, ← lettersOfAll_joinTexts, ofSequence]
  split
  case h_1 nothing =>
    rw [nothing]
    rfl
  case h_2 part only => rw [only, lettersOfAll, lettersOfAll, Nat.add_zero]
  case h_3 => rfl

mutual

/-- What matches no letter needs none. -/
theorem letters_eq_zero : (form : Form) → form.mostLength = some 0 → form.letters = 0
  | .empty, _ => rfl
  | .text points, zero => by
      have least := length_le_encodedLength points
      have nothing : encodedLength points = 0 := Option.some.inj zero
      rw [letters]
      omega
  | .chars _ set, zero => by
      change (set.bounds.getLast?.map fun point => (utf8Bytes (point - 1)).length) = some 0 at zero
      rcases Option.map_eq_some_iff.mp zero with ⟨last, -, nothing⟩
      have some := one_le_length_utf8Bytes (last - 1)
      omega
  | .look _, _ => rfl
  | .repetition least most _ body, zero => by
      change (most.bind fun most => (mostLength body).map (most * ·)) = some 0 at zero
      rcases Option.bind_eq_some_iff.mp zero with ⟨bound, known, zero⟩
      rcases Option.map_eq_some_iff.mp zero with ⟨length, inner, product⟩
      rw [letters, known, leastRounds]
      rcases Nat.mul_eq_zero.mp product with rfl | rfl
      · rw [Nat.min_zero, Nat.zero_mul]
      · rw [letters_eq_zero body inner, Nat.mul_zero]
  | .capture body, zero => by
      change body.mostLength = some 0 at zero
      rw [letters, letters_eq_zero body zero]
  | .sequence parts, zero => by
      change (mostLengths parts).map List.sum = some 0 at zero
      rcases Option.map_eq_some_iff.mp zero with ⟨lengths, known, sum⟩
      rw [letters, lettersOfAll_eq_zero parts known sum]
  | .alternation _, _ => rfl

theorem lettersOfAll_eq_zero : (forms : List Form) → {lengths : List Nat} →
    mostLengths forms = some lengths → lengths.sum = 0 → lettersOfAll forms = 0
  | [], _, _, _ => rfl
  | form :: forms, lengths, known, sum => by
      change (form.mostLength.bind fun length => (mostLengths forms).map (length :: ·)) =
        some lengths at known
      rcases Option.bind_eq_some_iff.mp known with ⟨length, first, known⟩
      rcases Option.map_eq_some_iff.mp known with ⟨others, rest, rfl⟩
      rw [List.sum_cons, Nat.add_eq_zero_iff] at sum
      rcases sum with ⟨rfl, sum⟩
      rw [lettersOfAll, letters_eq_zero form first, lettersOfAll_eq_zero forms rest sum]

end

theorem letters_ofRounds (least : Nat) (most : Option Nat) (greedy : Bool) (body : Form) :
    leastRounds least most * body.letters ≤ (ofRounds least most greedy body).letters := by
  by_cases zero : body.isZeroWidth = true
  · have none : body.letters = 0 := letters_eq_zero body (eq_of_beq zero)
    rw [none, Nat.mul_zero]
    exact Nat.zero_le _
  · rw [Bool.not_eq_true] at zero
    simp only [ofRounds, zero, Bool.false_eq_true, if_false]
    split
    case isTrue same =>
      rw [same.1, same.2, leastRounds, Nat.min_self, Nat.zero_mul]
      exact Nat.zero_le _
    case isFalse =>
      split
      case isTrue same =>
        have once : leastRounds least most = 1 := by rw [same.1, same.2, leastRounds, Nat.min_self]
        exact Nat.le_of_eq (by rw [once, Nat.one_mul])
      case isFalse => exact Nat.le_refl _

/-! ### Built -/

mutual

theorem adds_build (backwards : Bool) : (form : Form) →
    Build.Adds form.letters (form.build backwards)
  | .empty => by
      rw [build]
      exact (Build.Adds.state.bind fun _ => .pure _).mono (Nat.zero_le _)
  | .text points => by
      rw [build]
      exact ((Build.Adds.add _ 0).bind fun _ => .pure _).mono (length_le_encodedLength points)
  | .chars _ set => by
      rw [build]
      exact ((adds_classOf backwards set).bind fun _ => .pure _).mono (Nat.le_refl 1)
  | .look _ => by
      rw [build]
      exact (Build.Adds.state.bind fun _ => .pure _).mono (Nat.zero_le _)
  | .repetition least most _ body => by
      have rounds := adds_rounds body.isConsuming (adds_build backwards body) least most
      rw [build]
      refine rounds.mono (Nat.mul_le_mul_right _ ?_)
      cases most with
      | none => exact Nat.le_refl _
      | some most => exact Nat.min_le_left _ _
  | .capture body => by
      have inner := adds_build backwards body
      rw [build, letters]
      split
      case isTrue => exact inner
      case isFalse =>
        exact (Build.Adds.state.bind fun _ => inner.bind fun ending => Build.Adds.state.bind
          fun _ => (Build.Adds.join ending).bind fun _ => .pure _).mono (by omega)
  | .sequence parts => by
      rw [build, letters]
      split
      case isTrue none =>
        rw [List.isEmpty_iff.mp none]
        exact (Build.Adds.state.bind fun _ => .pure _).mono (Nat.zero_le _)
      case isFalse => exact adds_buildSequence backwards parts
  | .alternation branches => by
      rw [build, letters]
      split
      case h_1 texts _ => exact (TextTree.adds_build _).bind fun _ => .pure _
      case h_2 => exact adds_buildAlternation backwards 0 branches

theorem adds_buildSequence (backwards : Bool) : (forms : List Form) →
    Build.Adds (lettersOfAll forms) (buildSequence backwards forms)
  | [] => .pure _
  | [form] => by
      rw [buildSequence]
      exact (adds_build backwards form).mono (Nat.le_refl _)
  | form :: next :: forms => by
      have first := adds_build backwards form
      have others := adds_buildSequence backwards (next :: forms)
      rw [lettersOfAll, buildSequence]
      · split
        case isTrue =>
          exact (others.bind fun ending => first.bind fun last => (Build.Adds.join ending).bind
            fun _ => .pure _).mono (by omega)
        case isFalse =>
          exact (first.bind fun ending => (Build.Adds.join ending).bind fun _ => others).mono
            (by omega)
      · intro impossible
        cases impossible

theorem adds_buildAlternation (backwards : Bool) (others : Nat) : (forms : List Form) →
    Build.Adds 0 (buildAlternation backwards others forms)
  | [] => .pure _
  | form :: forms => by
      have first := adds_build backwards form
      have rest := adds_buildAlternation backwards (others + 1) forms
      have join : ∀ ending : Ending, Build.Adds 0 (do
          Build.branch 1
          ending.join
          buildAlternation backwards (others + 1) forms) := fun ending =>
        (Build.Adds.branch 1).bind fun _ => (Build.Adds.join ending).bind fun _ => rest
      rw [buildAlternation]
      refine (first.bind fun ending => (?_ : Build.Adds 0 _)).mono (Nat.zero_le _)
      split
      case isTrue =>
        exact ((Build.Adds.add 2 0).bind fun _ => join ending).mono (Nat.zero_le _)
      case isFalse => exact (Build.Adds.pure ()).bind fun _ => join ending

end

theorem adds_buildWhole (form : Form) : Build.Adds form.letters (form.buildWhole false) := by
  have whole : Build.Adds form.letters (do
      let ending ← (capture form).build false
      Build.state
      ending.join) :=
    ((adds_build false (capture form)).bind fun ending => Build.Adds.state.bind fun _ =>
      Build.Adds.join ending).mono (Nat.le_add_right _ _)
  unfold buildWhole
  split
  case isTrue => exact (Build.Adds.state.bind fun _ => whole).mono (Nat.le_add_left _ _)
  case isFalse =>
    exact ((Build.Adds.add 2 0).bind fun _ => (Build.Adds.sparse 1).bind fun _ =>
      (Build.Adds.branch 2).bind fun _ => whole).mono (by omega)

/-- An automaton within the limit has a state for every letter, and room for no more. -/
theorem letters_le_of_fits {form : Form} (fits : form.fits = true) : form.letters ≤ 327680 := by
  have forwards : ((form.buildWhole false).run ⟨0, 0⟩).isSome = true :=
    List.all_eq_true.mp fits false List.mem_cons_self
  rcases Option.isSome_iff_exists.mp forwards with ⟨⟨⟨⟩, built⟩, success⟩
  rcases adds_buildWhole form _ _ _ success (Nat.zero_le _) with ⟨states, within⟩
  have room : 32 * built.states ≤ 10 * 1024 * 1024 := Nat.le_trans (Nat.le_add_right _ _) within
  omega

end Form

theorem one_le_letters {set : Option CodePoints} {unicode : Bool} {flags after : Flags}
    {form : Form}
    (made : (set.map fun set => (Form.target.chars unicode set, flags)) = some (form, after)) :
    1 ≤ form.letters := by
  rcases Option.map_eq_some_iff.mp made with ⟨set, -, same⟩
  cases same
  exact Nat.le_of_eq (Form.letters_ofSet unicode set).symm

mutual

/-- A form has all the letters of the expression it is made from. -/
theorem Expression.letters_le {flags : Flags} : (expression : Expression) → {form : Form} →
    {after : Flags} → expression.translate? Form.target flags = some (form, after) →
      expression.letters ≤ form.letters
  | .empty, _, _, _ => Nat.zero_le _
  | .flags _, _, _, _ => Nat.zero_le _
  | .anchor _, _, _, _ => Nat.zero_le _
  | .alternation _, _, _, _ => Nat.zero_le _
  | .literal _ _, _, _, made => one_le_letters made
  | .dot, _, _, made => one_le_letters made
  | .shorthand _ _, _, _, made => one_le_letters made
  | .property _ _, _, _, made => one_le_letters made
  | .bracketed _ _, _, _, made => one_le_letters made
  | .repetition least most greedy body, _, _, made => by
      rw [translate?] at made
      rcases Option.map_eq_some_iff.mp made with ⟨⟨inner, after⟩, madeInner, same⟩
      cases same
      rw [letters]
      exact Nat.le_trans (Nat.mul_le_mul_left _ (letters_le body madeInner))
        (Form.letters_ofRounds least most _ inner)
  | .group (.capture _) body, _, _, made => by
      rw [translate?] at made
      rcases Option.map_eq_some_iff.mp made with ⟨⟨inner, after⟩, madeInner, same⟩
      cases same
      have within := letters_le body madeInner
      exact within
  | .group (.scoped changes) body, _, _, made => by
      rw [translate?] at made
      rcases Option.map_eq_some_iff.mp made with ⟨⟨inner, after⟩, madeInner, same⟩
      cases same
      have within := letters_le body madeInner
      exact within
  | .sequence items, _, _, made => by
      rw [translate?] at made
      rcases Option.map_eq_some_iff.mp made with ⟨⟨inner, after⟩, madeInner, same⟩
      cases same
      rw [letters]
      exact Nat.le_trans (lettersOfAll_le items madeInner)
        (Nat.le_of_eq (Form.letters_ofSequence inner).symm)

theorem Expression.lettersOfAll_le {flags : Flags} : (expressions : List Expression) →
    {forms : List Form} → {after : Flags} →
      Expression.translateAll? Form.target flags expressions = some (forms, after) →
        Expression.lettersOfAll expressions ≤ Form.lettersOfAll forms
  | [], _, _, _ => Nat.zero_le _
  | expression :: expressions, _, _, made => by
      rw [translateAll?] at made
      rcases Option.bind_eq_some_iff.mp made with ⟨⟨form, between⟩, madeFirst, made⟩
      rcases Option.map_eq_some_iff.mp made with ⟨⟨forms, after⟩, madeRest, same⟩
      cases same
      rw [lettersOfAll, Form.lettersOfAll]
      exact Nat.add_le_add (letters_le expression madeFirst) (lettersOfAll_le expressions madeRest)

end

/-- A pattern within the limit does not ask for more letters in a row than there is room for
states. -/
theorem Expression.letters_le_of_fits {expression : Expression} (fits : expression.fits = true) :
    expression.letters ≤ 327680 := by
  rw [Expression.fits, Option.any_eq_true] at fits
  rcases fits with ⟨⟨form, after⟩, made, fits⟩
  exact Nat.le_trans (letters_le expression made) (Form.letters_le_of_fits fits)

theorem Regex.compile?_eq_none_of_letters {pattern : String} {expression : Expression}
    (known : Expression.read? pattern = some expression) (many : 327680 < expression.letters) :
    Regex.compile? pattern = none := by
  have refused : expression.fits = false := by
    apply Bool.eq_false_iff.mpr
    intro fits
    exact absurd (Expression.letters_le_of_fits fits) (Nat.not_le.mpr many)
  rw [compile?, compileWithin?, known]
  split
  case h_1 => rfl
  case h_2 same =>
    cases same
    simp only [refused, Bool.false_eq_true, if_false]
    split <;> rfl

end Pattern
end TaggedContent
