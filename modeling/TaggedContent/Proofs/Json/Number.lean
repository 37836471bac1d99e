import TaggedContent.Json.Number

namespace TaggedContent
namespace Json

/-!
# Integers read back

The decimal digits of a number below `2^64` are gathered completely, whatever follows them
that is not a digit.  They begin with a zero only when they write zero.  So an integer of
64 bits with a sign is read back from its text, as long as the text does not go on with a
fraction or an exponent.
-/

/-- What follows does not continue a number. -/
def EndsNumber (rest : List Char) : Prop :=
  ∀ letter ∈ rest.head?, letter.isDigit = false ∧ letter ≠ '.' ∧ letter ≠ 'e' ∧ letter ≠ 'E'

theorem EndsNumber.nil : EndsNumber [] :=
  fun _ member => nomatch member

theorem EndsNumber.takeWhile {rest : List Char} (ends : EndsNumber rest) :
    rest.takeWhile Char.isDigit = [] := by
  cases rest with
  | nil => rfl
  | cons letter rest => exact List.takeWhile_cons_of_neg (by simp [(ends letter rfl).1])

theorem EndsNumber.skipDigits {rest : List Char} (ends : EndsNumber rest) :
    skipDigits rest = rest := by
  cases rest with
  | nil => rfl
  | cons letter rest => exact List.dropWhile_cons_of_neg (by simp [(ends letter rfl).1])

/-- More digits make no smaller number. -/
theorem le_ofDigitChars (digits : List Char) (significand : Nat) :
    significand ≤ Nat.ofDigitChars 10 digits significand := by
  rw [Nat.ofDigitChars_eq_ofDigitChars_zero]
  exact Nat.le_trans (Nat.le_mul_of_pos_left significand (Nat.pow_pos (by decide)))
    (Nat.le_add_right _ _)

/-- Digits are gathered as long as their number fits 64 bits. -/
theorem gather_append {digits rest : List Char} (areDigits : ∀ digit ∈ digits, digit.isDigit = true)
    (ends : EndsNumber rest) {significand : Nat}
    (fits : Nat.ofDigitChars 10 digits significand < UInt64.size) :
    gather significand (digits ++ rest) =
      (Nat.ofDigitChars 10 digits significand, digits.length, rest) := by
  induction digits generalizing significand with
  | nil =>
      cases rest with
      | nil => rfl
      | cons letter rest => simp [gather, (ends letter rfl).1]
  | cons digit digits inductionHypothesis =>
      rcases List.forall_mem_cons.mp areDigits with ⟨isDigit, others⟩
      rw [Nat.ofDigitChars_cons] at fits ⊢
      have next : 10 * significand + (digit.toNat - '0'.toNat) < UInt64.size :=
        Nat.lt_of_le_of_lt (le_ofDigitChars digits _) fits
      rw [List.cons_append, gather, if_pos ⟨isDigit, next⟩, inductionHypothesis others fits]
      rfl

/-- Only zero is written with a zero in front. -/
theorem eq_zero_of_head?_toDigits {number : Nat}
    (isZero : (Nat.toDigits 10 number).head? = some '0') : number = 0 := by
  induction number using Nat.strongRecOn with
  | ind number inductionHypothesis =>
      rw [Nat.toDigits_eq_if (by decide)] at isZero
      split at isZero
      case isTrue small => simpa using isZero
      case isFalse large =>
          rcases digits : Nat.toDigits 10 (number / 10) with _ | ⟨digit, others⟩
          · exact absurd digits Nat.toDigits_ne_nil
          · rw [digits] at isZero
            have first : (Nat.toDigits 10 (number / 10)).head? = some '0' := digits ▸ isZero
            have quotient := inductionHypothesis (number / 10) (by omega) first
            omega

/-- The digits of a number are read as a number without a sign. -/
theorem unsigned?_toDigits {number : Nat} (fits : number < UInt64.size) {rest : List Char}
    (ends : EndsNumber rest) (negative : Bool) :
    unsigned? negative (Nat.toDigits 10 number ++ rest) = some (integer negative number, rest) := by
  have areDigits : ∀ digit ∈ Nat.toDigits 10 number, digit.isDigit = true :=
    fun digit member => Nat.isDigit_of_mem_toDigits (by decide) (by decide) member
  have gathered : gather 0 (Nat.toDigits 10 number ++ rest) =
      (number, (Nat.toDigits 10 number).length, rest) := by
    have value := Nat.ofDigitChars_ten_toDigits (n := number)
    rw [gather_append areDigits ends (by rwa [value]), value]
  have whole : (Nat.toDigits 10 number ++ rest).takeWhile Char.isDigit = Nat.toDigits 10 number := by
    rw [List.takeWhile_append_of_pos areDigits, ends.takeWhile, List.append_nil]
  have wellFormed : ((Nat.toDigits 10 number).isEmpty ||
      ((Nat.toDigits 10 number).head? = some '0' && (Nat.toDigits 10 number).length ≠ 1)) = false := by
    rw [Bool.or_eq_false_iff, Bool.and_eq_false_imp]
    refine ⟨List.isEmpty_eq_false_iff.mpr Nat.toDigits_ne_nil, fun isZero => ?_⟩
    rw [eq_zero_of_head?_toDigits (of_decide_eq_true isZero)]
    rfl
  simp only [unsigned?, gathered, whole, wellFormed, ends.skipDigits, Nat.sub_self,
    Bool.false_eq_true, if_false]
  split
  case h_1 => exact absurd rfl (ends _ rfl).2.1
  case h_2 => exact absurd rfl (ends _ rfl).2.2.1
  case h_3 => exact absurd rfl (ends _ rfl).2.2.2
  case h_4 => rfl

theorem number?_of_isDigit {letter : Char} (isDigit : letter.isDigit = true) (rest : List Char) :
    number? (letter :: rest) = unsigned? false (letter :: rest) := by
  unfold number?
  split
  case h_1 same =>
      cases same
      cases isDigit
  case h_2 => rfl

/-- An integer of 64 bits with a sign is read from its text. -/
theorem number?_repr (value : Int64) {rest : List Char} (ends : EndsNumber rest) :
    number? (value.toInt.repr.toList ++ rest) = some (.int value, rest) := by
  have atLeast := value.le_toInt
  have atMost := value.toInt_lt
  rcases written : value.toInt with magnitude | predecessor
  · have small : magnitude < Nat.pow 2 63 := by
      rw [written, Int.ofNat_eq_natCast] at atMost
      exact Int.ofNat_lt.mp atMost
    have same : Int64.ofNat magnitude = value := by
      rw [← Int64.ofInt_eq_ofNat, ← Int.ofNat_eq_natCast, ← written, Int64.ofInt_toInt]
    rw [Int.repr, Nat.toList_repr]
    rcases digits : Nat.toDigits 10 magnitude with _ | ⟨digit, others⟩
    · exact absurd digits Nat.toDigits_ne_nil
    · have isDigit : digit.isDigit = true :=
        Nat.isDigit_of_mem_toDigits (by decide) (by decide) (digits ▸ List.mem_cons_self)
      have fits : magnitude < UInt64.size := Nat.lt_trans small (by decide)
      rw [List.cons_append, number?_of_isDigit isDigit, ← List.cons_append, ← digits,
        unsigned?_toDigits fits ends, integer, if_neg Bool.false_ne_true, if_pos small, same]
  · have small : predecessor + 1 ≤ 2 ^ 63 := by
      rw [written, Int.negSucc_eq] at atLeast
      omega
    have same : Int64.ofInt (-(predecessor + 1 : Nat)) = value := by
      change Int64.ofInt (Int.negSucc predecessor) = value
      rw [← written, Int64.ofInt_toInt]
    have inRange : ¬ (predecessor + 1 = 0 ∨ Nat.pow 2 63 < predecessor + 1) := by
      rw [not_or, Nat.not_lt]
      exact ⟨Nat.succ_ne_zero predecessor, small⟩
    have fits : predecessor + 1 < UInt64.size := Nat.lt_of_le_of_lt small (by decide)
    rw [Int.repr, String.toList_append, Nat.toList_repr]
    change unsigned? true (Nat.toDigits 10 (predecessor + 1) ++ rest) = _
    rw [unsigned?_toDigits fits ends, integer, if_pos rfl, if_neg inRange, same]

end Json
end TaggedContent
