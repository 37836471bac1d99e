import Mathlib
import TaggedContent.Decimal.Shortest

namespace TaggedContent
namespace Decimal

/-!
# The number that a decimal is rounded to

A decimal is read as the nearest number, and of two equally near ones as the one with the
even significand.  This is stated of all numbers at once.  The numbers above zero lie one
behind the other in the order of their bits, so a decimal reads back as a number when it
lies between the middles of the gaps beside it.
-/

open Float.Model (UnpackedFloat)

/-- How far a number is from zero.  In rounding, infinity stands where the next number
would be if there were one. -/
def size? (number : Float) : Option ℚ :=
  match number.toModel.unpack with
  | .infinity _ => some (2 ^ 1024)
  | .notANumber => none
  | .zero _ => some 0
  | .finite _ significand exponent _ => some (significand * 2 ^ exponent)

def HasEvenSignificand (number : Float) : Prop :=
  match number.toModel.unpack with
  | .finite _ significand _ _ => significand % 2 = 0
  | _ => True

/-- No other size is nearer to the exact one, and when another is equally near, then the
number is the one with the even significand. -/
def RoundsTo (exact : ℚ) (number : Float) : Prop :=
  ∃ size, size? number = some size ∧ ∀ other otherSize, size? other = some otherSize →
    |exact - size| < |exact - otherSize| ∨
      |exact - size| = |exact - otherSize| ∧ (otherSize = size ∨ HasEvenSignificand number)

/-! ## Sizes in the order of their bits -/

/-- The code of infinity. -/
def infinityCode : ℕ :=
  2047 * 2 ^ 52

/-- The bits of a number without its sign. -/
def code (number : Float) : ℕ :=
  number.toBits.toNat % 2 ^ 63

def significandAt (code : ℕ) : ℕ :=
  if code / 2 ^ 52 = 0 then code % 2 ^ 52 else 2 ^ 52 + code % 2 ^ 52

def exponentAt (code : ℕ) : ℤ :=
  (max (code / 2 ^ 52) 1 : ℕ) - 1075

def sizeAt (code : ℕ) : ℚ :=
  significandAt code * 2 ^ exponentAt code

/-- From each size it is one unit of its last place to the next. -/
theorem sizeAt_succ (code : ℕ) : sizeAt (code + 1) = sizeAt code + 2 ^ exponentAt code := by
  by_cases last : code % 2 ^ 52 = 2 ^ 52 - 1
  · have field : (code + 1) / 2 ^ 52 = code / 2 ^ 52 + 1 := by omega
    have significand : significandAt (code + 1) = 2 ^ 52 := by
      unfold significandAt
      split <;> omega
    by_cases subnormal : code / 2 ^ 52 = 0
    · have exponent : exponentAt (code + 1) = exponentAt code := by
        rw [exponentAt, exponentAt, field, subnormal]
        rfl
      have before : significandAt code + 1 = 2 ^ 52 := by
        rw [significandAt, if_pos subnormal]
        omega
      rw [sizeAt, sizeAt, exponent, significand, ← before]
      push_cast
      ring
    · have exponent : exponentAt (code + 1) = exponentAt code + 1 := by
        simp only [exponentAt, field]
        omega
      have before : significandAt code + 1 = 2 * 2 ^ 52 := by
        rw [significandAt, if_neg subnormal]
        omega
      have before : (significandAt code : ℚ) + 1 = 2 * 2 ^ 52 := by exact_mod_cast before
      rw [sizeAt, sizeAt, exponent, significand, zpow_add_one₀ two_ne_zero]
      push_cast
      linear_combination (-(2 : ℚ) ^ exponentAt code) * before
  · have field : (code + 1) / 2 ^ 52 = code / 2 ^ 52 := by omega
    have exponent : exponentAt (code + 1) = exponentAt code := by rw [exponentAt, exponentAt, field]
    have significand : significandAt (code + 1) = significandAt code + 1 := by
      rw [significandAt, significandAt, field]
      split <;> omega
    rw [sizeAt, sizeAt, exponent, significand]
    push_cast
    ring

theorem strictMono_sizeAt : StrictMono sizeAt := by
  apply strictMono_nat_of_lt_succ
  intro code
  rw [sizeAt_succ]
  have positive : (0 : ℚ) < 2 ^ exponentAt code := by positivity
  linarith

theorem sizeAt_zero : sizeAt 0 = 0 := by
  simp [sizeAt, significandAt]

theorem sizeAt_infinityCode : sizeAt infinityCode = 2 ^ 1024 := by
  have significand : significandAt infinityCode = 2 ^ 52 := by decide
  have exponent : exponentAt infinityCode = 972 := by decide
  rw [sizeAt, significand, exponent, zpow_ofNat, Nat.cast_pow, Nat.cast_ofNat, ← pow_add]

/-! ## Numbers and their codes -/

def sign (number : Float) : UnpackedFloat.Sign :=
  if 2 ^ 63 ≤ number.toBits.toNat then .negative else .positive

/-- What a number unpacks to, by its bits. -/
inductive Unpacks (sign : UnpackedFloat.Sign) (code : ℕ) : UnpackedFloat → Prop
  | infinity (same : code = infinityCode) : Unpacks sign code (.infinity sign)
  | notANumber (above : infinityCode < code) : Unpacks sign code .notANumber
  | zero (same : code = 0) : Unpacks sign code (.zero sign)
  | finite {significand : ℕ} {exponent : ℤ} {positive : 0 < significand}
      (below : code < infinityCode) (sameSignificand : significand = significandAt code)
      (sameExponent : exponent = exponentAt code) :
      Unpacks sign code (.finite sign significand exponent positive)

theorem unpackExponent_toNat (number : Float) :
    (@UnpackedFloat.unpackExponent .binary64 number.toModel.toBits.toBitVec).toNat =
      code number / 2 ^ 52 := by
  simp [UnpackedFloat.unpackExponent, Nat.shiftRight_eq_div_pow, code, Float.toBits]
  omega

theorem unpackMantissa_toNat (number : Float) :
    (@UnpackedFloat.unpackMantissa .binary64 number.toModel.toBits.toBitVec).toNat =
      code number % 2 ^ 52 := by
  simp [UnpackedFloat.unpackMantissa, code, Float.toBits]

theorem ofBitVec_unpackSign (number : Float) :
    UnpackedFloat.Sign.ofBitVec (@UnpackedFloat.unpackSign .binary64
      number.toModel.toBits.toBitVec) = sign number := by
  have bounded := number.toBits.toNat_lt
  have isPositive : @UnpackedFloat.unpackSign .binary64 number.toModel.toBits.toBitVec =
      0#1 ↔ ¬ 2 ^ 63 ≤ number.toBits.toNat := by
    simp [UnpackedFloat.unpackSign, ← BitVec.toNat_inj, Nat.shiftRight_eq_div_pow,
      Float.toBits] at bounded ⊢
    omega
  simp only [UnpackedFloat.Sign.ofBitVec, sign, isPositive, ite_not]

theorem unpacks (number : Float) :
    Unpacks (sign number) (code number) number.toModel.unpack := by
  have exponent := unpackExponent_toNat number
  have significand := unpackMantissa_toNat number
  have isOnes : @UnpackedFloat.unpackExponent .binary64 number.toModel.toBits.toBitVec =
      -1#_ ↔ code number / 2 ^ 52 = 2047 := by
    rw [← BitVec.toNat_inj, exponent]
    rfl
  have isZero : @UnpackedFloat.unpackExponent .binary64 number.toModel.toBits.toBitVec =
      0#_ ↔ code number / 2 ^ 52 = 0 := by
    rw [← BitVec.toNat_inj, exponent]
    rfl
  have noFraction : @UnpackedFloat.unpackMantissa .binary64
      number.toModel.toBits.toBitVec = 0#_ ↔ code number % 2 ^ 52 = 0 := by
    rw [← BitVec.toNat_inj, significand]
    rfl
  rw [Float.Model.unpack, UnpackedFloat.unpack]
  dsimp only
  rw [ofBitVec_unpackSign]
  split_ifs with ones nothing subnormal nothing
  · rw [isOnes] at ones
    rw [noFraction] at nothing
    exact .infinity (by unfold infinityCode; omega)
  · rw [isOnes] at ones
    rw [noFraction] at nothing
    exact .notANumber (by unfold infinityCode; omega)
  · rw [isZero] at subnormal
    rw [noFraction] at nothing
    exact .zero (by omega)
  · rw [isZero] at subnormal
    refine .finite (by unfold infinityCode; omega) ?_ ?_
    · rw [significand, significandAt, if_pos subnormal]
    · rw [exponent, exponentAt, subnormal]
      rfl
  · rw [isZero] at subnormal
    rw [isOnes] at ones
    have small : code number < 2 ^ 63 := Nat.mod_lt _ (by decide)
    refine .finite (by unfold infinityCode; omega) ?_ ?_
    · rw [significandAt, if_neg subnormal, ← significand, BitVec.toNat_append,
        ← Nat.shiftLeft_add_eq_or_of_lt (BitVec.isLt _)]
      rfl
    · rw [exponent, exponentAt, Nat.max_eq_left (by omega)]
      rfl

/-- The size of a number is that at its code, and what is no number comes after infinity. -/
theorem size?_eq (number : Float) :
    size? number = if code number ≤ infinityCode then some (sizeAt (code number)) else none := by
  have shape := unpacks number
  unfold size?
  generalize number.toModel.unpack = unpacked at shape
  cases shape with
  | infinity same => rw [same, if_pos (Nat.le_refl _), sizeAt_infinityCode]
  | notANumber above => rw [if_neg (Nat.not_le.mpr above)]
  | zero same => rw [same, if_pos (Nat.zero_le _), sizeAt_zero]
  | finite below sameSignificand sameExponent =>
      rw [if_pos (Nat.le_of_lt below), sizeAt, ← sameSignificand, ← sameExponent]

theorem hasEvenSignificand_iff {number : Float} (below : code number < infinityCode) :
    HasEvenSignificand number ↔ significandAt (code number) % 2 = 0 := by
  have shape := unpacks number
  unfold HasEvenSignificand
  generalize number.toModel.unpack = unpacked at shape
  cases shape with
  | infinity same => exact absurd below (same ▸ Nat.lt_irrefl _)
  | notANumber above => exact absurd below (Nat.lt_asymm above)
  | zero same => simp [same, significandAt]
  | finite _ sameSignificand _ => rw [← sameSignificand]

theorem exists_code_eq {wanted : ℕ} (within : wanted ≤ infinityCode) :
    ∃ number, code number = wanted := by
  have bound : infinityCode < 2 ^ 63 := by decide
  have small : wanted < 2 ^ 64 := by omega
  have bits : (UInt64.ofNat wanted).toNat = wanted := UInt64.toNat_ofNat_of_lt' small
  refine ⟨⟨⟨UInt64.ofNat wanted, ⟨fun ones fraction => ?_⟩⟩⟩, ?_⟩
  · -- the code of infinity is the last one, and its fraction is empty
    have field := congrArg BitVec.toNat ones
    have nonzero : (@UnpackedFloat.unpackMantissa .binary64
        (UInt64.ofNat wanted).toBitVec).toNat ≠ 0 := fun nothing =>
      fraction (BitVec.eq_of_toNat_eq nothing)
    simp [UnpackedFloat.unpackExponent, UnpackedFloat.unpackMantissa,
      Nat.shiftRight_eq_div_pow, bits] at field nonzero
    unfold infinityCode at within
    omega
  · simp only [code, Float.toBits, bits]
    omega

/-- Whether a number is the nearest is decided by the codes up to that of infinity. -/
theorem roundsTo_iff {number : Float} (below : code number < infinityCode) (exact : ℚ) :
    RoundsTo exact number ↔ ∀ other ≤ infinityCode,
      |exact - sizeAt (code number)| < |exact - sizeAt other| ∨
        |exact - sizeAt (code number)| = |exact - sizeAt other| ∧
          (sizeAt other = sizeAt (code number) ∨ significandAt (code number) % 2 = 0) := by
  have own : size? number = some (sizeAt (code number)) := by
    rw [size?_eq, if_pos (Nat.le_of_lt below)]
  rw [RoundsTo, hasEvenSignificand_iff below]
  constructor
  · rintro ⟨size, known, nearest⟩ other within
    rw [own, Option.some.injEq] at known
    rcases exists_code_eq within with ⟨another, rfl⟩
    rw [known]
    apply nearest another
    rw [size?_eq, if_pos within]
  · intro nearest
    refine ⟨_, own, fun other otherSize known => ?_⟩
    rw [size?_eq] at known
    split at known
    case isTrue within =>
      rw [← Option.some.inj known]
      exact nearest _ within
    case isFalse => cases known

/-! ## Between the middles of the gaps -/

/-- A decimal lies between the middles of the gaps beside the number, or on one of them
when the number gets the ties. -/
def Between (low middle high : ℚ) (even : Prop) (exact : ℚ) : Prop :=
  (low + middle < 2 * exact ∨ low + middle = 2 * exact ∧ even) ∧
    (2 * exact < middle + high ∨ 2 * exact = middle + high ∧ even)

theorem nearer_than_smaller_iff {low middle : ℚ} (exact : ℚ) (below : low < middle) :
    (|exact - middle| < |exact - low| ↔ low + middle < 2 * exact) ∧
      (|exact - middle| = |exact - low| ↔ low + middle = 2 * exact) := by
  have gap : 0 < middle - low := sub_pos.mpr below
  have difference : (exact - low) ^ 2 - (exact - middle) ^ 2 =
      (middle - low) * (2 * exact - (low + middle)) := by ring
  constructor
  · rw [← sq_lt_sq, ← sub_pos, difference, mul_pos_iff_of_pos_left gap, sub_pos]
  · rw [← sq_eq_sq_iff_abs_eq_abs, eq_comm, ← sub_eq_zero, difference,
      mul_eq_zero_iff_left gap.ne', sub_eq_zero, eq_comm]

theorem nearer_than_greater_iff {middle high : ℚ} (exact : ℚ) (above : middle < high) :
    (|exact - middle| < |exact - high| ↔ 2 * exact < middle + high) ∧
      (|exact - middle| = |exact - high| ↔ 2 * exact = middle + high) := by
  have mirrored := nearer_than_smaller_iff (-exact) (neg_lt_neg above)
  simp only [sub_neg_eq_add, neg_add_eq_sub, abs_sub_comm _ exact] at mirrored
  refine ⟨mirrored.1.trans ?_, mirrored.2.trans ?_⟩
  · constructor <;> intro sides <;> linarith
  · constructor <;> intro sides <;> linarith

/-- Of ascending sizes one is the nearest, with the ties for it if it is even, between the
middles of the gaps beside it. -/
theorem nearest_iff_between {size : ℕ → ℚ} (ascending : StrictMono size) {place last : ℕ}
    (inside : place + 1 < last) (even : Prop) (exact : ℚ) :
    (∀ other ≤ last, |exact - size (place + 1)| < |exact - size other| ∨
      |exact - size (place + 1)| = |exact - size other| ∧ (size other = size (place + 1) ∨ even)) ↔
    Between (size place) (size (place + 1)) (size (place + 2)) even exact := by
  have smaller : ∀ {other}, other < place + 1 → size other < size (place + 1) :=
    fun before => ascending before
  have greater : ∀ {other}, place + 1 < other → size (place + 1) < size other :=
    fun behind => ascending behind
  constructor
  · intro nearest
    have left := nearest place (by omega)
    have right := nearest (place + 2) (by omega)
    have below := smaller (Nat.lt_succ_self place)
    have above := greater (Nat.lt_succ_self (place + 1))
    rcases nearer_than_smaller_iff exact below with ⟨nearer, asNear⟩
    rcases nearer_than_greater_iff exact above with ⟨nearerToo, asNearToo⟩
    rw [nearer, asNear, or_iff_right below.ne] at left
    rw [nearerToo, asNearToo, or_iff_right above.ne'] at right
    exact ⟨left, right⟩
  · rintro ⟨left, right⟩ other within
    rcases Nat.lt_trichotomy other (place + 1) with before | rfl | behind
    · have least := ascending.monotone (Nat.lt_succ_iff.mp before)
      rcases nearer_than_smaller_iff exact (smaller before) with ⟨nearer, asNear⟩
      rw [nearer, asNear]
      rcases left with strict | ⟨tie, even⟩
      · exact .inl (by linarith)
      · rcases least.lt_or_eq with less | same
        · exact .inl (by linarith)
        · exact .inr ⟨by linarith, .inr even⟩
    · exact .inr ⟨rfl, .inl rfl⟩
    · have greatest := ascending.monotone (Nat.succ_le_iff.mpr behind)
      rcases nearer_than_greater_iff exact (greater behind) with ⟨nearer, asNear⟩
      rw [nearer, asNear]
      rcases right with strict | ⟨tie, even⟩
      · exact .inl (lt_of_lt_of_le strict (by linarith))
      · rcases greatest.lt_or_eq with less | same
        · exact .inl (by linarith)
        · exact .inr ⟨by linarith, .inr even⟩

namespace Binary

def size (binary : Binary) : ℚ :=
  binary.significand * 2 ^ binary.exponent

/-- The next smaller number. -/
def below (binary : Binary) : ℚ :=
  binary.size - if binary.atPower then 2 ^ (binary.exponent - 1) else 2 ^ binary.exponent

/-- The next greater number. -/
def above (binary : Binary) : ℚ :=
  binary.size + 2 ^ binary.exponent

/-- The decimal is rounded to the number and not to one of those beside it. -/
def Accepts (binary : Binary) (exact : ℚ) : Prop :=
  Between binary.below binary.size binary.above (binary.significand % 2 = 0) exact

theorem ofBits_eq (number : Float) :
    ofBits number.toBits = ⟨significandAt (code number), exponentAt (code number),
      code number % 2 ^ 52 = 0 && code number / 2 ^ 52 > 1⟩ := by
  have field : number.toBits.toNat / 2 ^ 52 % 2 ^ 11 = code number / 2 ^ 52 := by
    unfold code
    omega
  have fraction : number.toBits.toNat % 2 ^ 52 = code number % 2 ^ 52 := by
    unfold code
    omega
  simp only [ofBits, Nat.pow_eq, field, fraction, significandAt, exponentAt]
  split
  case isTrue subnormal =>
      rw [subnormal]
      simp
  case isFalse normal => rw [Nat.max_eq_left (Nat.one_le_iff_ne_zero.mpr normal)]

end Binary

/-- Other than zero, a finite number is the nearest to the decimals that lie between the
middles of the gaps beside it. -/
theorem roundsTo_iff_accepts {number : Float} (nonzero : code number ≠ 0)
    (finite : code number < infinityCode) (exact : ℚ) :
    RoundsTo exact number ↔ (Binary.ofBits number.toBits).Accepts exact := by
  rw [roundsTo_iff finite, Binary.ofBits_eq]
  rcases Nat.exists_eq_succ_of_ne_zero nonzero with ⟨place, same⟩
  rw [Nat.succ_eq_add_one] at same
  rw [same] at finite ⊢
  rw [nearest_iff_between strictMono_sizeAt finite, Binary.Accepts]
  have exponent : exponentAt place = if (place + 1) % 2 ^ 52 = 0 ∧ (place + 1) / 2 ^ 52 > 1 then
      exponentAt (place + 1) - 1 else exponentAt (place + 1) := by
    unfold exponentAt
    split <;> omega
  have low : sizeAt place = sizeAt (place + 1) - 2 ^ exponentAt place := by
    rw [sizeAt_succ]
    ring
  have high : sizeAt (place + 2) = sizeAt (place + 1) + 2 ^ exponentAt (place + 1) :=
    sizeAt_succ (place + 1)
  have below : Binary.below ⟨significandAt (place + 1), exponentAt (place + 1),
      (place + 1) % 2 ^ 52 = 0 && (place + 1) / 2 ^ 52 > 1⟩ = sizeAt place := by
    rw [low, exponent, Binary.below, Binary.size, sizeAt]
    simp only [Bool.and_eq_true, decide_eq_true_eq, apply_ite (fun power : ℤ => (2 : ℚ) ^ power)]
  rw [below, high]
  exact Iff.rfl

end Decimal
end TaggedContent
