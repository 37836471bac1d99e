import TaggedContent.Decimal.Style
import TaggedContent.Proofs.Decimal.Shortest

namespace TaggedContent
namespace Decimal

/-!
# Decimals with all their digits in place

A decimal that is not negative is written without an exponent, and no more of it than is
needed: nothing stands in front of its whole part, and the digits after the point do not end
in a zero.  So no decimal has two such texts.  The digits of a number, put in place for
whatever exponent they have, are the text of their value.
-/

/-- The fraction is that after the point; where there is none, there is no point. -/
inductive WritesInPlace : ℚ → List Char → Prop where
  | whole (whole : ℕ) : WritesInPlace whole (Nat.toDigits 10 whole)
  | fraction (whole : ℕ) {digits : List Char} {last : Char}
      (areDigits : ∀ digit ∈ digits ++ [last], digit.isDigit = true) (needed : last ≠ '0') :
      WritesInPlace
        (whole + Nat.ofDigitChars 10 (digits ++ [last]) 0 / 10 ^ (digits ++ [last]).length)
        (Nat.toDigits 10 whole ++ '.' :: (digits ++ [last]))

/-! ## Digits and their number -/

theorem value_of_isDigit {digit : Char} (isDigit : digit.isDigit = true) :
    digit.toNat - '0'.toNat < 10 ∧ (digit.toNat - '0'.toNat = 0 ↔ digit = '0') := by
  rcases Char.isDigit_iff_toNat.mp isDigit with ⟨least, most⟩
  have zero : '0'.toNat = 48 := rfl
  have nine : '9'.toNat = 57 := rfl
  rw [← Char.toNat_inj]
  omega

theorem ofDigitChars_lt {digits : List Char} (areDigits : ∀ digit ∈ digits, digit.isDigit = true) :
    Nat.ofDigitChars 10 digits 0 < 10 ^ digits.length := by
  induction digits with
  | nil => decide
  | cons digit digits inductionHypothesis =>
      rcases List.forall_mem_cons.mp areDigits with ⟨isDigit, others⟩
      have less := inductionHypothesis others
      have digitLess := (value_of_isDigit isDigit).1
      rw [Nat.ofDigitChars_cons, Nat.mul_zero, Nat.zero_add, Nat.ofDigitChars_eq_ofDigitChars_zero,
        List.length_cons, Nat.pow_succ]
      calc 10 ^ digits.length * (digit.toNat - '0'.toNat) + Nat.ofDigitChars 10 digits 0
          < 10 ^ digits.length * (digit.toNat - '0'.toNat) + 10 ^ digits.length := by omega
        _ = 10 ^ digits.length * (digit.toNat - '0'.toNat + 1) := by ring
        _ ≤ 10 ^ digits.length * 10 := Nat.mul_le_mul_left _ digitLess

/-- As many digits with the same number are the same digits. -/
theorem ofDigitChars_inj {left right : List Char}
    (leftDigits : ∀ digit ∈ left, digit.isDigit = true)
    (rightDigits : ∀ digit ∈ right, digit.isDigit = true) (length : left.length = right.length)
    {before after : ℕ} (same : Nat.ofDigitChars 10 left before = Nat.ofDigitChars 10 right after) :
    before = after ∧ left = right := by
  induction left generalizing right before after with
  | nil =>
      rcases List.eq_nil_of_length_eq_zero length.symm with rfl
      exact ⟨same, rfl⟩
  | cons digit digits inductionHypothesis =>
      cases right with
      | nil => cases length
      | cons other others =>
          rcases List.forall_mem_cons.mp leftDigits with ⟨isDigit, digitsToo⟩
          rcases List.forall_mem_cons.mp rightDigits with ⟨isDigitToo, othersToo⟩
          rw [Nat.ofDigitChars_cons, Nat.ofDigitChars_cons] at same
          obtain ⟨next, rfl⟩ := inductionHypothesis digitsToo othersToo
            (Nat.succ.inj length) same
          rcases Char.isDigit_iff_toNat.mp isDigit with ⟨least, most⟩
          rcases Char.isDigit_iff_toNat.mp isDigitToo with ⟨leastToo, mostToo⟩
          have zero : '0'.toNat = 48 := rfl
          have nine : '9'.toNat = 57 := rfl
          obtain rfl : digit = other := Char.toNat_inj.mp (by omega)
          exact ⟨by omega, rfl⟩

theorem ofDigitChars_mod_ten {digits : List Char} {last : Char} (isDigit : last.isDigit = true)
    (needed : last ≠ '0') : Nat.ofDigitChars 10 (digits ++ [last]) 0 % 10 ≠ 0 := by
  rcases value_of_isDigit isDigit with ⟨less, zero⟩
  have positive := mt zero.mp needed
  rw [Nat.ofDigitChars_append, Nat.ofDigitChars_cons, Nat.ofDigitChars_nil]
  omega

/-! ## One text for each decimal -/

theorem mod_ten_of_shorter {whole part count wholeToo partToo countToo : ℕ}
    (shorter : count < countToo)
    (same : (whole * 10 ^ count + part) * 10 ^ countToo =
      (wholeToo * 10 ^ countToo + partToo) * 10 ^ count) : partToo % 10 = 0 := by
  rcases Nat.exists_eq_add_of_lt shorter with ⟨further, rfl⟩
  have multiple : (whole * 10 ^ count + part) * 10 ^ further * 10 =
      wholeToo * 10 ^ (count + further) * 10 + partToo := by
    apply Nat.eq_of_mul_eq_mul_right (Nat.pow_pos (by decide : 0 < 10) : 0 < 10 ^ count)
    calc (whole * 10 ^ count + part) * 10 ^ further * 10 * 10 ^ count
        = (whole * 10 ^ count + part) * 10 ^ (count + further + 1) := by ring
      _ = (wholeToo * 10 ^ (count + further + 1) + partToo) * 10 ^ count := same
      _ = (wholeToo * 10 ^ (count + further) * 10 + partToo) * 10 ^ count := by ring
  omega

/-- Where no fraction ends in a zero, equal ones have as many places and the same digits. -/
theorem fraction_unique {whole wholeToo part partToo count countToo : ℕ}
    (less : part < 10 ^ count) (lessToo : partToo < 10 ^ countToo)
    (needed : count ≠ 0 → part % 10 ≠ 0) (neededToo : countToo ≠ 0 → partToo % 10 ≠ 0)
    (same : (whole + part / 10 ^ count : ℚ) = wholeToo + partToo / 10 ^ countToo) :
    whole = wholeToo ∧ count = countToo ∧ part = partToo := by
  have scaled : (whole * 10 ^ count + part) * 10 ^ countToo =
      (wholeToo * 10 ^ countToo + partToo) * 10 ^ count := by
    field_simp at same
    rw [Nat.mul_comm (wholeToo * _ + _)]
    exact_mod_cast same
  rcases Nat.lt_trichotomy count countToo with shorter | rfl | longer
  · exact absurd (mod_ten_of_shorter shorter scaled) (neededToo (Nat.ne_zero_of_lt shorter))
  · have places : 0 < 10 ^ count := Nat.pow_pos (by decide)
    have sum := Nat.eq_of_mul_eq_mul_right places scaled
    have quotient := congrArg (fun sum => sum / 10 ^ count) sum
    have remainder := congrArg (fun sum => sum % 10 ^ count) sum
    simp only [Nat.mul_add_mod_self_right, Nat.mod_eq_of_lt less, Nat.mod_eq_of_lt lessToo]
      at remainder
    simp only [Nat.mul_add_div places, Nat.mul_comm _ (10 ^ count), Nat.div_eq_of_lt less,
      Nat.div_eq_of_lt lessToo, Nat.add_zero] at quotient
    exact ⟨quotient, rfl, remainder⟩
  · exact absurd (mod_ten_of_shorter longer scaled.symm) (needed (Nat.ne_zero_of_lt longer))

/-- The point and what stands behind it. -/
def pointed : List Char → List Char
  | [] => []
  | digit :: digits => '.' :: digit :: digits

theorem WritesInPlace.parts {value : ℚ} {text : List Char} (written : WritesInPlace value text) :
    ∃ (whole : ℕ) (digits : List Char), (∀ digit ∈ digits, digit.isDigit = true) ∧
      (digits.length ≠ 0 → Nat.ofDigitChars 10 digits 0 % 10 ≠ 0) ∧
      value = whole + Nat.ofDigitChars 10 digits 0 / 10 ^ digits.length ∧
      text = Nat.toDigits 10 whole ++ pointed digits := by
  cases written with
  | whole whole =>
      refine ⟨whole, [], List.forall_mem_nil _, fun some => absurd rfl some, ?_, ?_⟩
      · simp
      · rw [pointed, List.append_nil]
  | @fraction whole digits last areDigits needed =>
      refine ⟨whole, digits ++ [last], areDigits, fun _ => ?_, rfl, ?_⟩
      · exact ofDigitChars_mod_ten (areDigits last (by simp)) needed
      · cases digits <;> rfl

theorem WritesInPlace.unique {value : ℚ} {text textToo : List Char}
    (written : WritesInPlace value text) (writtenToo : WritesInPlace value textToo) :
    text = textToo := by
  rcases written.parts with ⟨whole, digits, areDigits, needed, rfl, rfl⟩
  rcases writtenToo.parts with ⟨wholeToo, digitsToo, areDigitsToo, neededToo, same, rfl⟩
  obtain ⟨rfl, length, number⟩ := fraction_unique (ofDigitChars_lt areDigits)
    (ofDigitChars_lt areDigitsToo) needed neededToo same
  rcases ofDigitChars_inj areDigits areDigitsToo length number with ⟨-, rfl⟩
  rfl

/-! ## Digits put in place -/

theorem areDigits_toDigits (number : ℕ) : ∀ digit ∈ Nat.toDigits 10 number, digit.isDigit = true :=
  fun _ member => Nat.isDigit_of_mem_toDigits (by decide) (by decide) member

/-- Zeros behind the digits of a number multiply it. -/
theorem toDigits_append_zeros {number : ℕ} (nonzero : number ≠ 0) (count : ℕ) :
    Nat.toDigits 10 number ++ Style.zeros count = Nat.toDigits 10 (number * 10 ^ count) := by
  induction count with
  | zero => simp [Style.zeros]
  | succ count inductionHypothesis =>
      have positive : 0 < number * 10 ^ count := by positivity
      have zero : Nat.toDigits 10 0 = ['0'] := rfl
      rw [Style.zeros, List.replicate_succ', ← List.append_assoc, ← Style.zeros,
        inductionHypothesis, ← zero, Nat.toDigits_append_toDigits (by decide) positive (by decide),
        Nat.add_zero, Nat.mul_left_comm, ← Nat.pow_succ']

/-- The last digits of a number can be cut off. -/
theorem toDigits_eq_append {number count : ℕ} (enough : 10 ^ count ≤ number) :
    ∃ rest, Nat.toDigits 10 number = Nat.toDigits 10 (number / 10 ^ count) ++ rest ∧
      rest.length = count := by
  induction count generalizing number with
  | zero => exact ⟨[], by simp⟩
  | succ count inductionHypothesis =>
      have tenth : 10 ^ count ≤ number / 10 := by
        rw [Nat.le_div_iff_mul_le (by decide), ← Nat.pow_succ]
        exact enough
      have several : 10 ≤ number :=
        Nat.le_trans (Nat.le_self_pow (Nat.succ_ne_zero count) 10) enough
      rcases inductionHypothesis tenth with ⟨rest, digits, length⟩
      refine ⟨rest ++ [(number % 10).digitChar], ?_, by simp [length]⟩
      rw [Nat.toDigits_of_base_le (by decide) several, digits, Nat.div_div_eq_div_mul,
        ← Nat.pow_succ', List.append_assoc]

/-- The digits behind the point, read on from the whole part, are the number in units of
the last place. -/
theorem WritesInPlace.of_digits {whole : ℕ} {rest : List Char}
    (areDigits : ∀ digit ∈ rest, digit.isDigit = true) (some : rest ≠ [])
    (needed : Nat.ofDigitChars 10 rest whole % 10 ≠ 0) :
    WritesInPlace (Nat.ofDigitChars 10 rest whole / 10 ^ rest.length)
      (Nat.toDigits 10 whole ++ '.' :: rest) := by
  rcases (List.eq_nil_or_concat rest).resolve_left some with ⟨digits, last, rfl⟩
  rw [List.concat_eq_append] at *
  have nonzero : last ≠ '0' := by
    rintro rfl
    rw [Nat.ofDigitChars_append, Nat.ofDigitChars_cons, Nat.ofDigitChars_nil] at needed
    omega
  have value : (Nat.ofDigitChars 10 (digits ++ [last]) whole / 10 ^ (digits ++ [last]).length : ℚ) =
      whole + Nat.ofDigitChars 10 (digits ++ [last]) 0 / 10 ^ (digits ++ [last]).length := by
    rw [Nat.ofDigitChars_eq_ofDigitChars_zero]
    push_cast
    field_simp
  rw [value]
  exact .fraction whole areDigits nonzero

/-- All digits stand behind the point and as many zeros. -/
theorem WritesInPlace.of_zeros {number : ℕ} (needed : number % 10 ≠ 0) (count : ℕ) :
    WritesInPlace (number / 10 ^ (count + (Nat.toDigits 10 number).length))
      ('0' :: '.' :: (Style.zeros count ++ Nat.toDigits 10 number)) := by
  have all : Nat.ofDigitChars 10 (Style.zeros count ++ Nat.toDigits 10 number) 0 = number := by
    rw [Nat.ofDigitChars_append, Style.zeros, Nat.ofDigitChars_replicate_zero, Nat.mul_zero,
      Nat.ofDigitChars_ten_toDigits]
  have length : (Style.zeros count ++ Nat.toDigits 10 number).length =
      count + (Nat.toDigits 10 number).length := by
    rw [List.length_append, Style.zeros, List.length_replicate]
  have areDigits : ∀ digit ∈ Style.zeros count ++ Nat.toDigits 10 number,
      digit.isDigit = true := by
    intro digit member
    rcases List.mem_append.mp member with zero | other
    · rw [List.eq_of_mem_replicate zero]
      rfl
    · exact areDigits_toDigits number digit other
  have written := WritesInPlace.of_digits areDigits
    (List.append_ne_nil_of_right_ne_nil _ Nat.toDigits_ne_nil) (all.symm ▸ needed)
  rw [all, length] at written
  exact written

/-- The point stands between the digits, with so many behind it. -/
theorem WritesInPlace.of_cut {number places : ℕ} (needed : number % 10 ≠ 0) (some : 0 < places)
    (enough : 10 ^ places ≤ number) :
    ∃ rest, Nat.toDigits 10 number = Nat.toDigits 10 (number / 10 ^ places) ++ rest ∧
      rest.length = places ∧ WritesInPlace (number / 10 ^ places)
        (Nat.toDigits 10 (number / 10 ^ places) ++ '.' :: rest) := by
  rcases toDigits_eq_append enough with ⟨rest, split, length⟩
  have all : Nat.ofDigitChars 10 rest (number / 10 ^ places) = number := by
    have value := Nat.ofDigitChars_ten_toDigits (n := number)
    rw [split, Nat.ofDigitChars_append, Nat.ofDigitChars_ten_toDigits] at value
    exact value
  have areDigits : ∀ digit ∈ rest, digit.isDigit = true := fun digit member =>
    areDigits_toDigits number digit (split ▸ List.mem_append_right _ member)
  have written := WritesInPlace.of_digits areDigits (List.ne_nil_of_length_pos (length ▸ some))
    (all.symm ▸ needed)
  rw [all, length] at written
  exact ⟨rest, split, length, written⟩

variable {style : Style}

/-- Digits of which the last is not a zero, with the point moved by their exponent, are the
text of their value.  The point stands before all of them, or behind all of them and the
zeros that fill up the places, or in between. -/
theorem writesInPlace_placed (plainEnd : style.wholeEnd = "") {number : ℕ}
    (needed : number % 10 ≠ 0) (exponent : ℤ) :
    WritesInPlace (number * 10 ^ exponent)
      (style.placed (Nat.toDigits 10 number) ((Nat.toDigits 10 number).length + exponent)) := by
  rw [Style.placed]
  dsimp only
  split_ifs with inFront behind
  · obtain ⟨count, zeros⟩ : ∃ count,
        count = (-((Nat.toDigits 10 number).length + exponent)).toNat := ⟨_, rfl⟩
    have places : exponent = -((count + (Nat.toDigits 10 number).length : ℕ) : ℤ) := by omega
    rw [← zeros, places, zpow_neg, zpow_natCast, ← div_eq_mul_inv]
    exact .of_zeros needed count
  · obtain ⟨places, rfl⟩ : ∃ places : ℕ, exponent = places := ⟨exponent.toNat, by omega⟩
    have zeros : ((Nat.toDigits 10 number).length + (places : ℤ)).toNat -
        (Nat.toDigits 10 number).length = places := by omega
    have whole : (number * 10 ^ (places : ℤ) : ℚ) = (number * 10 ^ places : ℕ) := by simp
    rw [plainEnd, zeros, toDigits_append_zeros (by omega), whole, String.toList_empty,
      List.append_nil]
    exact .whole _
  · obtain ⟨places, rfl⟩ : ∃ places : ℕ, exponent = -places := ⟨(-exponent).toNat, by omega⟩
    have enough : 10 ^ places ≤ number := by
      rw [← Nat.not_lt, ← Nat.length_toDigits_le_iff (by decide) (by omega)]
      omega
    rcases WritesInPlace.of_cut needed (by omega) enough with ⟨rest, split, length, written⟩
    have whole : ((Nat.toDigits 10 number).length + -(places : ℤ)).toNat =
        (Nat.toDigits 10 (number / 10 ^ places)).length := by
      rw [split, List.length_append, length]
      omega
    rw [whole, split, List.take_left, List.drop_left, zpow_neg, zpow_natCast, ← div_eq_mul_inv]
    exact written

end Decimal
end TaggedContent
