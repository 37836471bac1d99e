import TaggedContent.Proofs.Pattern.LeastSize

namespace TaggedContent
namespace Pattern

/-!
# The size of a repeated letter

Where nothing but states is added, the construction succeeds exactly when there is room for
them in the end.  So the limit is known exactly for a letter that is repeated: 327,673
states, besides the six that every automaton has around its pattern and the links of the
loop before it.
-/

/-- From any beginning within the limit the construction adds so many states and bytes of
links, unless that is too much, and then it fails. -/
def Build.Takes {α : Type} (states links : Nat) (result : α) (build : Build α) : Prop :=
  ∀ before : Extent, before.memory ≤ Extent.limit →
    build before =
      if Extent.memory ⟨before.states + states, before.links + links⟩ ≤ Extent.limit then
        some (result, ⟨before.states + states, before.links + links⟩)
      else none

namespace Build
namespace Takes

variable {α β : Type} {states links statesToo linksToo : Nat}

theorem pure (result : α) : Takes 0 0 result (Pure.pure result) := by
  intro before within
  exact (if_pos within).symm

theorem add (states links : Nat) : Takes states links () (Build.add states links) :=
  fun _ _ => rfl

/-- What is too much already at first is too much in the end. -/
theorem bind {build : Build α} {next : α → Build β} {result : α} {last : β}
    (first : Takes states links result build)
    (second : Takes statesToo linksToo last (next result)) :
    Takes (states + statesToo) (links + linksToo) last (build >>= next) := by
  intro before within
  change (build before).bind _ = _
  rw [first before within, ← Nat.add_assoc, ← Nat.add_assoc]
  split
  case isTrue fits => exact second _ fits
  case isFalse large =>
    rw [if_neg, Option.bind_none]
    simp only [Extent.memory, Extent.stateSize] at large ⊢
    omega

theorem furtherCopies {copy : Build Ending} (takes : Takes states 0 .plain copy) (copies : Nat) :
    Takes (copies * states) 0 .plain (Pattern.furtherCopies copy copies .plain) := by
  induction copies with
  | zero =>
      rw [Nat.zero_mul]
      exact pure _
  | succ copies inductionHypothesis =>
      have others : Takes (0 + copies * states) (0 + 0) .plain (do
          Ending.join .plain
          Pattern.furtherCopies copy copies .plain) := (pure ()).bind inductionHypothesis
      rw [Nat.zero_add] at others
      rw [Nat.succ_mul, Nat.add_comm]
      exact takes.bind others

theorem exactly {copy : Build Ending} (takes : Takes states 0 .plain copy) (copies : Nat) :
    Takes ((copies + 1) * states) 0 .plain (Pattern.exactly copy (copies + 1)) := by
  rw [Nat.succ_mul, Nat.add_comm]
  exact takes.bind (furtherCopies takes copies)

theorem isSome_iff {build : Build α} {result : α} (takes : Takes states links result build) :
    (build.run ⟨0, 0⟩).isSome = true ↔ Extent.memory ⟨states, links⟩ ≤ Extent.limit := by
  change (build ⟨0, 0⟩).isSome = true ↔ _
  rw [takes ⟨0, 0⟩ (Nat.zero_le _), Nat.zero_add, Nat.zero_add]
  split
  case isTrue fits => simp [fits]
  case isFalse large => simp [large]

end Takes
end Build

namespace Form

theorem takes_capture {form : Form} {states : Nat} (backwards : Bool)
    (takes : Build.Takes states 0 .plain (form.build backwards)) :
    Build.Takes (states + if backwards then 0 else 2) 0 .plain
      ((capture form).build backwards) := by
  cases backwards with
  | true => exact takes
  | false =>
      have whole : Build.Takes (1 + (states + (1 + (0 + 0)))) (0 + (0 + (0 + (0 + 0)))) .plain
          ((capture form).build false) :=
        (Build.Takes.add 1 0).bind (takes.bind ((Build.Takes.add 1 0).bind
          ((Build.Takes.pure ()).bind (.pure _))))
      have sum : 1 + (states + (1 + (0 + 0))) = states + 2 := by omega
      rwa [sum] at whole

theorem takes_buildWhole {form : Form} {states : Nat} (backwards : Bool)
    (anywhere : form.isAnchored backwards = false)
    (takes : Build.Takes states 0 .plain (form.build backwards)) :
    Build.Takes (states + if backwards then 4 else 6) 16 () (form.buildWhole backwards) := by
  have whole : Build.Takes (2 + (1 + (0 + ((states + if backwards then 0 else 2) + (1 + 0)))))
      (0 + (8 + (8 + (0 + (0 + 0))))) () (form.buildWhole backwards) := by
    unfold buildWhole
    simp only [anywhere, Bool.false_eq_true, if_false]
    refine (Build.Takes.add 2 0).bind (.bind (Build.Takes.add 1 8) (.bind (Build.Takes.add 0 8) ?_))
    exact (takes_capture backwards takes).bind (.bind (Build.Takes.add 1 0) (.pure ()))
  have sum : 2 + (1 + (0 + ((states + if backwards then 0 else 2) + (1 + 0)))) =
      states + if backwards then 4 else 6 := by
    cases backwards <;> simp only [if_true, Bool.false_eq_true, if_false] <;> omega
  rwa [sum] at whole

/-- A part that takes nothing but states fits up to the number of states for which there
is room beside those around it. -/
theorem fits_iff {form : Form} {states : Nat}
    (anywhere : ∀ backwards, form.isAnchored backwards = false)
    (takes : ∀ backwards, Build.Takes states 0 .plain (form.build backwards)) :
    form.fits = true ↔ states ≤ 327673 := by
  have forwards := (takes_buildWhole false (anywhere false) (takes false)).isSome_iff
  have backwards := (takes_buildWhole true (anywhere true) (takes true)).isSome_iff
  simp only [Extent.memory, Extent.stateSize, Extent.limit, if_true, Bool.false_eq_true, if_false]
    at forwards backwards
  rw [fits, List.all_eq_true, List.forall_mem_cons, List.forall_mem_singleton, forwards, backwards]
  constructor
  · omega
  · omega

theorem takes_text (backwards : Bool) (points : List Nat) :
    Build.Takes (encodedLength points) 0 .plain ((text points).build backwards) := by
  have whole : Build.Takes (encodedLength points + 0) (0 + 0) .plain
      ((text points).build backwards) := by
    rw [build]
    exact .bind (Build.Takes.add _ 0) (.pure Ending.plain)
  exact whole

theorem takes_repetition {body : Form} {states : Nat} (greedy backwards : Bool)
    (takes : Build.Takes states 0 .plain (body.build backwards)) {count : Nat}
    (some : count ≠ 0) :
    Build.Takes (count * states) 0 .plain
      ((repetition count (.some count) greedy body).build backwards) := by
  rcases Nat.exists_eq_succ_of_ne_zero some with ⟨copies, rfl⟩
  have required : Build.Takes ((copies + 1) * states) 0 .plain
      (exactly (body.build backwards) (copies + 1)) := .exactly takes copies
  rw [build]
  unfold rounds
  simp only [if_true]
  exact required.bind (.pure _)

end Form

/-- A letter of one byte may be repeated 327,673 times, and a longer one less often
according to its length. -/
theorem Expression.fits_repetition_iff (letter : Char) (count : Nat) :
    (repetition count (some count) true (literal letter false)).fits = true ↔
      count * (utf8Bytes letter.toNat).length ≤ 327673 := by
  have one := Form.one_le_length_utf8Bytes letter.toNat
  have single : Form.ofSet true (.singleton letter) = .text [letter.toNat] := by
    simp [Form.ofSet, CodePoints.singleton, CodePoints.single?]
  have made : (repetition count (some count) true (literal letter false)).translate? Form.target
      .initial = some (Form.ofRounds count (some count) true (.text [letter.toNat]), .initial) := by
    rw [← single]
    rfl
  have length : Form.encodedLength [letter.toNat] = (utf8Bytes letter.toNat).length := by
    rw [Form.encodedLength, List.flatMap_cons, List.flatMap_nil, List.append_nil]
  have solid : (Form.text [letter.toNat]).isZeroWidth = false := by
    apply beq_eq_false_iff_ne.mpr
    intro same
    have nothing : Form.encodedLength [letter.toNat] = 0 := Option.some.inj same
    omega
  have takes := fun backwards => Form.takes_text backwards [letter.toNat]
  rw [length] at takes
  rw [Expression.fits, made, Option.any_some]
  simp only [Form.ofRounds, solid, Bool.false_eq_true, if_false, Option.some.injEq]
  split
  case isTrue none =>
    have nothing : Form.empty.fits = true := by decide
    simp [none.1, nothing]
  case isFalse some =>
    split
    case isTrue once =>
      rw [once.1, Nat.one_mul]
      exact Form.fits_iff (fun _ => rfl) takes
    case isFalse =>
      refine Form.fits_iff (fun _ => ?_) fun backwards =>
        Form.takes_repetition true backwards (takes backwards) ?_
      · exact Bool.and_false _
      · exact fun none => some ⟨none, none⟩

end Pattern
end TaggedContent
