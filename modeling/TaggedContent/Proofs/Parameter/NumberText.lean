import TaggedContent.Parameter.Resolver
import TaggedContent.Proofs.Decimal.Notation

namespace TaggedContent
namespace Parameter

/-!
# Numbers as patterns

The pattern that a number stands for is its shortest decimal: of the decimals that read back
as the number the one with the fewest digits, of those the nearest, and of two as near the
greater.  It is written with all its digits in place and never with an exponent.
-/

open Decimal

/-- What is below zero has a sign, and so has the negative zero. -/
def signText (number : Float) : String :=
  match number.toModel.unpack with
  | .infinity .negative => "-"
  | .zero .negative => "-"
  | .finite .negative _ _ _ => "-"
  | _ => ""

/-- The text that a number has as a pattern. -/
inductive WritesNumber (number : Float) : String → Prop where
  | notANumber (no : number.isNaN = true) : WritesNumber number "NaN"
  | infinite (infinite : number.isInf = true) : WritesNumber number (signText number ++ "inf")
  | finite {size decimal : ℚ} {digits : List Char} (finite : number.isFinite = true)
      (known : size? number = some size)
      (shortest : IsShortest (fun exact => RoundsTo exact number) size decimal)
      (written : WritesInPlace decimal digits) :
      WritesNumber number (signText number ++ String.ofList digits)

/-! ## Kinds of numbers -/

theorem isNaN_iff (number : Float) : number.isNaN = true ↔ infinityCode < code number := by
  have shape := unpacks number
  rw [Float.isNaN, Float.Model.isNaN]
  generalize number.toModel.unpack = unpacked at shape
  cases shape <;> simp [Float.Model.UnpackedFloat.isNaN] <;> omega

theorem isInf_iff (number : Float) : number.isInf = true ↔ code number = infinityCode := by
  have shape := unpacks number
  rw [Float.isInf, Float.Model.isInf]
  generalize number.toModel.unpack = unpacked at shape
  have some : infinityCode ≠ 0 := by decide
  cases shape <;> simp [Float.Model.UnpackedFloat.isInf] <;> omega

theorem isFinite_iff (number : Float) : number.isFinite = true ↔ code number < infinityCode := by
  have shape := unpacks number
  rw [Float.isFinite, Float.Model.isFinite]
  generalize number.toModel.unpack = unpacked at shape
  have some : infinityCode ≠ 0 := by decide
  cases shape <;> simp [Float.Model.UnpackedFloat.isFinite] <;> omega

theorem signText_eq {number : Float} (within : code number ≤ infinityCode) :
    signText number = if number.toBits.toNat ≥ Nat.pow 2 63 then "-" else "" := by
  change _ = if 2 ^ 63 ≤ number.toBits.toNat then "-" else ""
  have shape := unpacks number
  unfold signText
  generalize number.toModel.unpack = unpacked at shape
  cases shape with
  | notANumber above => exact absurd within (Nat.not_le.mpr above)
  | _ =>
      unfold sign
      split_ifs <;> rfl

/-! ## The text of a number -/

theorem WritesNumber.unique {number : Float} {text textToo : String}
    (written : WritesNumber number text) (writtenToo : WritesNumber number textToo) :
    text = textToo := by
  cases written with
  | notANumber no =>
      rw [isNaN_iff] at no
      cases writtenToo with
      | notANumber => rfl
      | infinite infinite => exact absurd ((isInf_iff number).mp infinite) no.ne'
      | finite finite => exact absurd ((isFinite_iff number).mp finite) (Nat.lt_asymm no)
  | infinite infinite =>
      rw [isInf_iff] at infinite
      cases writtenToo with
      | notANumber no => exact absurd infinite ((isNaN_iff number).mp no).ne'
      | infinite => rfl
      | finite finite => exact absurd infinite ((isFinite_iff number).mp finite).ne
  | finite finite known shortest written =>
      rw [isFinite_iff] at finite
      cases writtenToo with
      | notANumber no => exact absurd ((isNaN_iff number).mp no) (Nat.lt_asymm finite)
      | infinite infinite => exact absurd ((isInf_iff number).mp infinite) finite.ne
      | finite _ knownToo shortestToo writtenToo =>
          rcases Option.some.inj (known.symm.trans knownToo) with rfl
          rcases shortest.unique shortestToo with rfl
          rcases written.unique writtenToo with rfl
          rfl

/-- Zero is written without any digits of its own. -/
theorem isShortest_zero {number : Float} (zero : code number = 0) :
    IsShortest (fun exact => RoundsTo exact number) 0 0 := by
  refine ⟨0, ⟨0, 0, by decide, by simp⟩, ?_, ?_, ?_⟩
  · change RoundsTo 0 number
    rw [roundsTo_iff (by rw [zero]; decide), zero, sizeAt_zero]
    intro other _
    rcases Nat.eq_zero_or_pos other with rfl | positive
    · exact .inr ⟨by rw [sizeAt_zero], .inl sizeAt_zero⟩
    · have above := strictMono_sizeAt positive
      rw [sizeAt_zero] at above
      exact .inl (by simpa using above.ne')
  · exact fun fewer less => absurd less (Nat.not_lt_zero fewer)
  · rintro other ⟨digits, exponent, few, rfl⟩ -
    obtain rfl : digits = 0 := Nat.lt_one_iff.mp few
    simpa using Beats.refl 0 0

/-- The digits of a finite number are the text of its shortest decimal. -/
theorem writesInPlace_magnitude {number : Float} (finite : code number < infinityCode) :
    ∃ size decimal, size? number = some size ∧
      IsShortest (fun exact => RoundsTo exact number) size decimal ∧
      WritesInPlace decimal (numberStyle.magnitude number.toBits) := by
  have known : size? number = some (sizeAt (code number)) := by
    rw [size?_eq, if_pos finite.le]
  by_cases zero : code number = 0
  · rw [zero, sizeAt_zero] at known
    have nothing : (Binary.ofBits number.toBits).significand = 0 := by
      rw [Binary.ofBits_eq, zero]
      rfl
    have digit := WritesInPlace.whole 0
    rw [Nat.cast_zero] at digit
    rw [Style.magnitude, if_pos nothing]
    exact ⟨0, 0, known, isShortest_zero zero, digit⟩
  · have range := Binary.inRange_ofBits zero finite
    have accepts : (fun exact => RoundsTo exact number) =
        (Binary.ofBits number.toBits).Accepts := by
      funext exact
      exact propext (roundsTo_iff_accepts zero finite exact)
    have size : sizeAt (code number) = (Binary.ofBits number.toBits).size := by
      rw [Binary.ofBits_eq]
      rfl
    rw [Style.magnitude, if_neg range.positive.ne', accepts]
    refine ⟨_, _, size ▸ known, Shortest.isShortest_shortest range, ?_⟩
    exact writesInPlace_placed rfl (Shortest.digits_mod_ten range) _

theorem writesNumber_write (number : Float) : WritesNumber number (numberStyle.write number) := by
  rw [Style.write]
  by_cases no : number.isNaN = true
  · rw [if_pos no]
    exact .notANumber no
  · rw [if_neg no]
    have within : code number ≤ infinityCode := Nat.not_lt.mp (mt (isNaN_iff number).mpr no)
    have sign := signText_eq within
    by_cases infinite : number.isInf = true
    · have written := WritesNumber.infinite infinite
      rw [if_pos infinite]
      rw [sign] at written
      split_ifs at written ⊢ <;> exact written
    · have finite : code number < infinityCode :=
        lt_of_le_of_ne within (mt (isInf_iff number).mpr infinite)
      rcases writesInPlace_magnitude finite with ⟨size, decimal, known, shortest, digits⟩
      have written := WritesNumber.finite ((isFinite_iff number).mpr finite) known shortest digits
      rw [if_neg infinite, String.ofList_append]
      rw [sign] at written
      split_ifs at written ⊢ <;> exact written

/-- A number is written as its pattern, and it has no other text. -/
theorem writesNumber_iff {number : Float} {text : String} :
    WritesNumber number text ↔ numberStyle.write number = text := by
  constructor
  · exact (writesNumber_write number).unique
  · rintro rfl
    exact writesNumber_write number

example : WritesNumber 0.1 "0.1" ∧ WritesNumber (-2e21) "-2000000000000000000000" :=
  ⟨writesNumber_iff.mpr (by decide +kernel), writesNumber_iff.mpr (by decide +kernel)⟩

end Parameter
end TaggedContent
