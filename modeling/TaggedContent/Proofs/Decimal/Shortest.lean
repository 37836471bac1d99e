import TaggedContent.Proofs.Decimal.Rounding

namespace TaggedContent
namespace Decimal

/-!
# The shortest decimal that reads back

The digits of a number are searched from the place above it downwards.  No decimal on a
coarser place than the result reads back, and from this everything else follows: a decimal
with fewer digits, or with as many on a finer place, would have a power of ten between
itself and the result, and that power lies on a coarser place and reads back as well.
Only when the result has a single digit it may itself be that power; then the gaps of the
number would have to be wider than they are.
-/

/-- The decimal is written with so many digits and a power of ten. -/
def HasDigits (count : ℕ) (decimal : ℚ) : Prop :=
  ∃ (digits : ℕ) (exponent : ℤ), digits < 10 ^ count ∧ decimal = digits * 10 ^ exponent

/-- A decimal is at least as good as another: it is nearer to the size, or as near and not
smaller. -/
def Beats (size decimal other : ℚ) : Prop :=
  |decimal - size| < |other - size| ∨ |decimal - size| = |other - size| ∧ other ≤ decimal

theorem Beats.refl (size decimal : ℚ) : Beats size decimal decimal :=
  .inr ⟨rfl, le_refl _⟩

theorem Beats.trans {size first second third : ℚ} (left : Beats size first second)
    (right : Beats size second third) : Beats size first third := by
  rcases left with nearer | ⟨same, least⟩
  · rcases right with nearerToo | ⟨sameToo, -⟩
    · exact .inl (nearer.trans nearerToo)
    · exact .inl (sameToo ▸ nearer)
  · rcases right with nearerToo | ⟨sameToo, leastToo⟩
    · exact .inl (same ▸ nearerToo)
    · exact .inr ⟨same.trans sameToo, leastToo.trans least⟩

theorem Beats.antisymm {size first second : ℚ} (left : Beats size first second)
    (right : Beats size second first) : first = second := by
  rcases left with nearer | ⟨same, least⟩
  · rcases right with nearerToo | ⟨same, -⟩
    · exact absurd nearer (lt_asymm nearerToo)
    · exact absurd same nearer.ne'
  · rcases right with nearerToo | ⟨-, leastToo⟩
    · exact absurd same nearerToo.ne'
    · exact le_antisymm leastToo least

theorem Beats.of_smaller {size decimal other : ℚ} (below : other ≤ decimal)
    (within : decimal ≤ size) : Beats size decimal other := by
  rw [Beats, abs_sub_comm decimal, abs_sub_comm other, abs_of_nonneg (sub_nonneg.mpr within),
    abs_of_nonneg (sub_nonneg.mpr (below.trans within))]
  rcases below.lt_or_eq with less | rfl
  · exact .inl (by linarith)
  · exact .inr ⟨rfl, le_refl _⟩

theorem Beats.of_greater {size decimal other : ℚ} (above : decimal ≤ other)
    (beyond : size ≤ decimal) : Beats size decimal other := by
  rw [Beats, abs_of_nonneg (sub_nonneg.mpr beyond),
    abs_of_nonneg (sub_nonneg.mpr (beyond.trans above))]
  rcases above.lt_or_eq with less | rfl
  · exact .inl (by linarith)
  · exact .inr ⟨rfl, le_refl _⟩

/-- Of the accepted decimals this one has the fewest digits, and among those with as many
it is the best. -/
def IsShortest (accepts : ℚ → Prop) (size decimal : ℚ) : Prop :=
  ∃ count, HasDigits count decimal ∧ accepts decimal ∧
    (∀ fewer < count, ∀ other, HasDigits fewer other → ¬ accepts other) ∧
    ∀ other, HasDigits count other → accepts other → Beats size decimal other

theorem IsShortest.unique {accepts : ℚ → Prop} {size first second : ℚ}
    (left : IsShortest accepts size first) (right : IsShortest accepts size second) :
    first = second := by
  rcases left with ⟨count, digits, accepted, fewest, nearest⟩
  rcases right with ⟨countToo, digitsToo, acceptedToo, fewestToo, nearestToo⟩
  obtain rfl : count = countToo := by
    apply Nat.le_antisymm
    · exact Nat.not_lt.mp fun fewer => fewest _ fewer second digitsToo acceptedToo
    · exact Nat.not_lt.mp fun fewer => fewestToo _ fewer first digits accepted
  exact (nearest second digitsToo acceptedToo).antisymm (nearestToo first digits accepted)

def Scientific.value (decimal : Scientific) : ℚ :=
  decimal.digits * 10 ^ decimal.exponent

namespace Binary

/-- The significand and the exponent are those of a finite number other than zero. -/
structure InRange (binary : Binary) : Prop where
  positive : 0 < binary.significand
  bounded : binary.significand < 2 ^ 53
  least : -1074 ≤ binary.exponent
  most : binary.exponent ≤ 971
  full : binary.exponent ≠ -1074 → 2 ^ 52 ≤ binary.significand

theorem inRange_ofBits {number : Float} (nonzero : code number ≠ 0)
    (finite : code number < infinityCode) : (ofBits number.toBits).InRange := by
  rw [ofBits_eq]
  unfold infinityCode at finite
  constructor
  all_goals
    simp only [significandAt, exponentAt]
    try split
    all_goals omega

variable {binary : Binary}

theorem unit_le_size (range : binary.InRange) : (2 : ℚ) ^ binary.exponent ≤ binary.size := by
  have positive : (1 : ℚ) ≤ binary.significand := by exact_mod_cast range.positive
  exact le_mul_of_one_le_left (by positivity) positive

theorem size_pos (range : binary.InRange) : 0 < binary.size :=
  lt_of_lt_of_le (by positivity) (unit_le_size range)

theorem below_lt_size (binary : Binary) : binary.below < binary.size := by
  rw [below]
  apply sub_lt_self
  split <;> positivity

theorem size_lt_above (binary : Binary) : binary.size < binary.above := by
  rw [above]
  apply lt_add_of_pos_right
  positivity

theorem below_nonneg (range : binary.InRange) : 0 ≤ binary.below := by
  have unit := unit_le_size range
  have half : (2 : ℚ) ^ (binary.exponent - 1) ≤ 2 ^ binary.exponent :=
    zpow_le_zpow_right₀ one_le_two (by omega)
  rw [below, sub_nonneg]
  split
  · exact half.trans unit
  · exact unit

/-! ## Accepted decimals -/

theorem Accepts.convex {low middle high : ℚ} (first : binary.Accepts low)
    (second : binary.Accepts high) (atLeast : low ≤ middle) (atMost : middle ≤ high) :
    binary.Accepts middle := by
  constructor
  · rcases first.1 with strict | ⟨tie, even⟩
    · exact .inl (by linarith)
    · rcases atLeast.lt_or_eq with less | rfl
      · exact .inl (by linarith)
      · exact .inr ⟨tie, even⟩
  · rcases second.2 with strict | ⟨tie, even⟩
    · exact .inl (by linarith)
    · rcases atMost.lt_or_eq with less | rfl
      · exact .inl (by linarith)
      · exact .inr ⟨tie, even⟩

theorem accepts_size (binary : Binary) : binary.Accepts binary.size := by
  have below := below_lt_size binary
  have above := size_lt_above binary
  exact ⟨.inl (by linarith), .inl (by linarith)⟩

theorem Accepts.least {exact : ℚ} (accepted : binary.Accepts exact) :
    binary.below + binary.size ≤ 2 * exact := by
  rcases accepted.1 with strict | ⟨tie, -⟩
  · exact strict.le
  · exact tie.le

theorem Accepts.most {exact : ℚ} (accepted : binary.Accepts exact) :
    2 * exact ≤ binary.size + binary.above := by
  rcases accepted.2 with strict | ⟨tie, -⟩
  · exact strict.le
  · exact tie.le

theorem not_accepts_zero (range : binary.InRange) : ¬ binary.Accepts 0 := by
  intro accepted
  have least := accepted.least
  have nonneg := below_nonneg range
  have positive := size_pos range
  linarith

end Binary

/-! ## Multiples of a place -/

theorem pow_toNat {base : ℚ} (nonzero : base ≠ 0) (exponent : ℤ) :
    base ^ exponent.toNat = base ^ exponent * base ^ (-exponent).toNat := by
  rcases exponent.eq_nat_or_neg with ⟨count, rfl | rfl⟩
  · simp
  · simp [nonzero]

namespace Shortest

variable {binary : Binary} {exponent : ℤ}

/-- The scale of a grid. -/
def scale (binary : Binary) (exponent : ℤ) : ℚ :=
  2 ^ (2 - binary.exponent).toNat * 10 ^ (-exponent).toNat

theorem scale_pos (binary : Binary) (exponent : ℤ) : 0 < scale binary exponent := by
  unfold scale
  positivity

theorem grid_unit (binary : Binary) (exponent : ℤ) :
    4 * ((2 : ℚ) ^ (binary.exponent - 2).toNat * 10 ^ (-exponent).toNat) =
      scale binary exponent * 2 ^ binary.exponent := by
  have twos := pow_toNat two_ne_zero (binary.exponent - 2)
  rw [neg_sub, zpow_sub₀ two_ne_zero] at twos
  rw [twos, scale]
  ring

theorem grid_value (binary : Binary) (exponent : ℤ) :
    ((grid binary exponent).value : ℚ) = scale binary exponent * binary.size := by
  rw [Binary.size]
  simp only [grid, Nat.pow_eq]
  push_cast
  linear_combination (binary.significand : ℚ) * grid_unit binary exponent

theorem grid_place (binary : Binary) (exponent : ℤ) :
    ((grid binary exponent).place : ℚ) = scale binary exponent * 10 ^ exponent := by
  have tens := pow_toNat (by norm_num : (10 : ℚ) ≠ 0) exponent
  simp only [grid, Nat.pow_eq, scale]
  push_cast
  linear_combination (2 : ℚ) ^ (2 - binary.exponent).toNat * tens

theorem grid_below (binary : Binary) (exponent : ℤ) :
    2 * ((grid binary exponent).below : ℚ) =
      scale binary exponent * (binary.size - binary.below) := by
  rw [Binary.below, sub_sub_cancel, zpow_sub_one₀ two_ne_zero]
  simp only [grid, Nat.pow_eq]
  split
  · push_cast
    linear_combination grid_unit binary exponent / 2
  · push_cast
    linear_combination grid_unit binary exponent

theorem grid_above (binary : Binary) (exponent : ℤ) :
    2 * ((grid binary exponent).above : ℚ) =
      scale binary exponent * (binary.above - binary.size) := by
  rw [Binary.above, add_sub_cancel_left]
  simp only [grid, Nat.pow_eq]
  push_cast
  linear_combination grid_unit binary exponent

/-- Two numbers of a grid compare as what lies between them on the scale. -/
theorem compare_scaled {left right : ℕ} {factor gap : ℚ} (positive : 0 < factor)
    (scaled : 2 * (right : ℚ) - 2 * left = factor * gap) :
    (left ≤ right ↔ 0 ≤ gap) ∧ (left < right ↔ 0 < gap) := by
  constructor
  · rw [← mul_nonneg_iff_of_pos_left positive, ← scaled, sub_nonneg,
      mul_le_mul_iff_of_pos_left two_pos, Nat.cast_le]
  · rw [← mul_pos_iff_of_pos_left positive, ← scaled, sub_pos,
      mul_lt_mul_iff_of_pos_left two_pos, Nat.cast_lt]

/-- A multiple of the place reads back when it is accepted as a decimal. -/
theorem readsBack_iff (binary : Binary) (exponent : ℤ) (multiple : ℕ) :
    readsBack (binary.significand % 2 = 0) (grid binary exponent) multiple = true ↔
      binary.Accepts (multiple * 10 ^ exponent) := by
  have value := grid_value binary exponent
  have place := grid_place binary exponent
  have left : 2 * ((multiple * (grid binary exponent).place + (grid binary exponent).below : ℕ) : ℚ)
      - 2 * (grid binary exponent).value = scale binary exponent *
        (2 * (multiple * 10 ^ exponent) - (binary.below + binary.size)) := by
    push_cast
    linear_combination 2 * (multiple : ℚ) * place + grid_below binary exponent - 2 * value
  have right : 2 * (((grid binary exponent).value + (grid binary exponent).above : ℕ) : ℚ)
      - 2 * (multiple * (grid binary exponent).place : ℕ) = scale binary exponent *
        (binary.size + binary.above - 2 * (multiple * 10 ^ exponent)) := by
    push_cast
    linear_combination 2 * value + grid_above binary exponent - 2 * (multiple : ℚ) * place
  have least := compare_scaled (scale_pos binary exponent) left
  have most := compare_scaled (scale_pos binary exponent) right
  rw [sub_nonneg, sub_pos] at least most
  unfold readsBack Binary.Accepts Between
  by_cases even : binary.significand % 2 = 0
  · simp [even, least.1, most.1, le_iff_lt_or_eq]
  · simp [even, least.2, most.2]

/-! ## The two multiples around a number -/

/-- The number lies between two multiples, and its distances from them are those of the
grid. -/
theorem around (binary : Binary) (exponent : ℤ) {low : ℕ}
    (quotient : low = (grid binary exponent).value / (grid binary exponent).place) :
    low * 10 ^ exponent ≤ binary.size ∧ binary.size < (low + 1 : ℕ) * 10 ^ exponent ∧
      (((grid binary exponent).value - low * (grid binary exponent).place : ℕ) : ℚ) =
        scale binary exponent * (binary.size - low * 10 ^ exponent) ∧
      (((low + 1) * (grid binary exponent).place - (grid binary exponent).value : ℕ) : ℚ) =
        scale binary exponent * ((low + 1 : ℕ) * 10 ^ exponent - binary.size) := by
  have positive := scale_pos binary exponent
  have value := grid_value binary exponent
  have place := grid_place binary exponent
  have somePlace : 0 < (grid binary exponent).place := by
    simp only [grid, Nat.pow_eq]
    positivity
  have below : low * (grid binary exponent).place ≤ (grid binary exponent).value :=
    quotient ▸ Nat.div_mul_le_self _ _
  have above : (grid binary exponent).value < (low + 1) * (grid binary exponent).place :=
    (Nat.div_lt_iff_lt_mul somePlace).mp (quotient ▸ Nat.lt_succ_self _)
  have toLow : (((grid binary exponent).value - low * (grid binary exponent).place : ℕ) : ℚ) =
      scale binary exponent * (binary.size - low * 10 ^ exponent) := by
    rw [Nat.cast_sub below, Nat.cast_mul]
    linear_combination value - (low : ℚ) * place
  have toHigh : (((low + 1) * (grid binary exponent).place - (grid binary exponent).value : ℕ) : ℚ) =
      scale binary exponent * ((low + 1 : ℕ) * 10 ^ exponent - binary.size) := by
    rw [Nat.cast_sub above.le, Nat.cast_mul]
    linear_combination ((low + 1 : ℕ) : ℚ) * place - value
  refine ⟨?_, ?_, toLow, toHigh⟩
  · rw [← sub_nonneg, ← mul_nonneg_iff_of_pos_left positive, ← toLow]
    exact Nat.cast_nonneg _
  · rw [← sub_pos, ← mul_pos_iff_of_pos_left positive, ← toHigh, Nat.cast_pos]
    exact Nat.sub_pos_of_lt above

/-- When a multiple of the place is accepted, then so is that of the two around the number
which is on the same side, and it is at least as good. -/
theorem beside {low multiple : ℕ} (within : low * 10 ^ exponent ≤ binary.size)
    (beyond : binary.size < (low + 1 : ℕ) * 10 ^ exponent)
    (accepted : binary.Accepts (multiple * 10 ^ exponent)) :
    (binary.Accepts (low * 10 ^ exponent) ∧
      Beats binary.size (low * 10 ^ exponent) (multiple * 10 ^ exponent)) ∨
    (binary.Accepts ((low + 1 : ℕ) * 10 ^ exponent) ∧
      Beats binary.size ((low + 1 : ℕ) * 10 ^ exponent) (multiple * 10 ^ exponent)) := by
  have ascending : ∀ {first second : ℕ}, first ≤ second →
      (first : ℚ) * 10 ^ exponent ≤ second * 10 ^ exponent := fun less =>
    mul_le_mul_of_nonneg_right (by exact_mod_cast less) (by positivity)
  have size := Binary.accepts_size binary
  rcases Nat.lt_or_ge low multiple with above | below
  · have least := ascending (Nat.succ_le_of_lt above)
    exact .inr ⟨size.convex accepted beyond.le least, .of_greater least beyond.le⟩
  · have greatest := ascending below
    exact .inl ⟨accepted.convex size greatest within, .of_smaller greatest within⟩

theorem beats_multiples {low : ℕ} {decimal : ℚ} (within : low * 10 ^ exponent ≤ binary.size)
    (beyond : binary.size < (low + 1 : ℕ) * 10 ^ exponent)
    (overLow : binary.Accepts (low * 10 ^ exponent) →
      Beats binary.size decimal (low * 10 ^ exponent))
    (overHigh : binary.Accepts ((low + 1 : ℕ) * 10 ^ exponent) →
      Beats binary.size decimal ((low + 1 : ℕ) * 10 ^ exponent))
    (multiple : ℕ) (accepted : binary.Accepts (multiple * 10 ^ exponent)) :
    Beats binary.size decimal (multiple * 10 ^ exponent) := by
  rcases beside within beyond accepted with ⟨acceptedLow, better⟩ | ⟨acceptedHigh, better⟩
  · exact (overLow acceptedLow).trans better
  · exact (overHigh acceptedHigh).trans better

/-- What is found on a place: a multiple that is accepted, and at least as good as every
other, or nothing when there is none. -/
theorem nearest?_spec (range : binary.InRange) (exponent : ℤ) :
    (∃ digits, nearest? .upward (binary.significand % 2 = 0) (grid binary exponent) = some digits ∧
      binary.Accepts (digits * 10 ^ exponent) ∧ ∀ multiple : ℕ,
        binary.Accepts (multiple * 10 ^ exponent) →
          Beats binary.size (digits * 10 ^ exponent) (multiple * 10 ^ exponent)) ∨
    (nearest? .upward (binary.significand % 2 = 0) (grid binary exponent) = none ∧
      ∀ multiple : ℕ, ¬ binary.Accepts (multiple * 10 ^ exponent)) := by
  obtain ⟨low, quotient⟩ : ∃ low,
    low = (grid binary exponent).value / (grid binary exponent).place := ⟨_, rfl⟩
  rcases around binary exponent quotient with ⟨within, beyond, toLow, toHigh⟩
  have lowReads : (low ≠ 0 && readsBack (binary.significand % 2 = 0) (grid binary exponent) low) =
      true ↔ binary.Accepts (low * 10 ^ exponent) := by
    rw [Bool.and_eq_true, readsBack_iff, decide_eq_true_eq, and_iff_right_iff_imp]
    rintro accepted rfl
    apply Binary.not_accepts_zero range
    simpa using accepted
  have highReads := readsBack_iff binary exponent (low + 1)
  unfold nearest?
  simp only [← quotient]
  by_cases first : binary.Accepts (low * 10 ^ exponent)
  · rw [← lowReads] at first
    by_cases second : binary.Accepts ((low + 1 : ℕ) * 10 ^ exponent)
    · rw [← highReads] at second
      simp only [first, second, Bool.and_self, if_true]
      have positive := scale_pos binary exponent
      have lowAway := abs_of_nonpos (sub_nonpos.mpr within)
      have highAway := abs_of_pos (sub_pos.mpr beyond)
      split_ifs with nearer farther
      · rw [← Nat.cast_lt (α := ℚ), toLow, toHigh, mul_lt_mul_iff_of_pos_left positive] at nearer
        refine .inl ⟨low, rfl, lowReads.mp first, ?_⟩
        apply beats_multiples within beyond
        · exact fun _ => .refl _ _
        · exact fun _ => .inl (by linarith)
      · rw [← Nat.cast_lt (α := ℚ), toLow, toHigh, mul_lt_mul_iff_of_pos_left positive] at farther
        refine .inl ⟨low + 1, rfl, highReads.mp second, ?_⟩
        apply beats_multiples within beyond
        · exact fun _ => .inl (by linarith)
        · exact fun _ => .refl _ _
      · rw [← Nat.cast_lt (α := ℚ), toLow, toHigh, mul_lt_mul_iff_of_pos_left positive]
          at nearer farther
        refine .inl ⟨low + 1, rfl, highReads.mp second, ?_⟩
        apply beats_multiples within beyond
        · exact fun _ => .inr ⟨by linarith, by linarith⟩
        · exact fun _ => .refl _ _
    · have refused := Bool.eq_false_iff.mpr (mt highReads.mp second)
      simp only [first, refused, Bool.and_false, Bool.false_eq_true, if_false, if_true]
      refine .inl ⟨low, rfl, lowReads.mp first, ?_⟩
      apply beats_multiples within beyond
      · exact fun _ => .refl _ _
      · exact fun accepted => absurd accepted second
  · have refused := Bool.eq_false_iff.mpr (mt lowReads.mp first)
    by_cases second : binary.Accepts ((low + 1 : ℕ) * 10 ^ exponent)
    · rw [← highReads] at second
      simp only [second, refused, Bool.false_and, Bool.false_eq_true, if_false, if_true]
      refine .inl ⟨low + 1, rfl, highReads.mp second, ?_⟩
      apply beats_multiples within beyond
      · exact fun accepted => absurd accepted first
      · exact fun _ => .refl _ _
    · have refusedToo := Bool.eq_false_iff.mpr (mt highReads.mp second)
      simp only [refused, refusedToo, Bool.and_self, Bool.false_eq_true, if_false]
      refine .inr ⟨trivial, fun multiple accepted => ?_⟩
      rcases beside within beyond accepted with ⟨acceptedLow, -⟩ | ⟨acceptedHigh, -⟩
      · exact first acceptedLow
      · exact second acceptedHigh

/-! ## The search -/

/-- What a search from a place downwards has found. -/
structure Found (binary : Binary) (top : ℤ) (result : Scientific) : Prop where
  within : result.exponent ≤ top
  accepted : binary.Accepts result.value
  best : ∀ multiple : ℕ, binary.Accepts (multiple * 10 ^ result.exponent) →
    Beats binary.size result.value (multiple * 10 ^ result.exponent)
  coarser : ∀ place, result.exponent < place → place ≤ top →
    ∀ multiple : ℕ, ¬ binary.Accepts (multiple * 10 ^ place)

theorem found_search (range : binary.InRange) {places : ℕ} {top : ℤ}
    (findable : ∃ steps < places, ∃ multiple : ℕ, binary.Accepts (multiple * 10 ^ (top - steps))) :
    Found binary top (search .upward binary places top) := by
  induction places generalizing top with
  | zero =>
      rcases findable with ⟨steps, fewer, -⟩
      exact absurd fewer (Nat.not_lt_zero steps)
  | succ places inductionHypothesis =>
      rw [search]
      rcases nearest?_spec range top with ⟨digits, found, accepted, best⟩ | ⟨nothing, none⟩
      · rw [found]
        refine ⟨le_refl _, accepted, best, fun place above within => ?_⟩
        exact absurd above (not_lt_of_ge within)
      · rw [nothing]
        rcases findable with ⟨steps, fewer, multiple, accepted⟩
        cases steps with
        | zero => exact absurd (by simpa using accepted) (none multiple)
        | succ steps =>
            have further : top - (steps + 1 : ℕ) = top - 1 - steps := by
              push_cast
              ring
            rw [further] at accepted
            have found := inductionHypothesis
              ⟨steps, Nat.lt_of_succ_lt_succ fewer, multiple, accepted⟩
            refine ⟨found.within.trans (by omega), found.accepted, found.best, ?_⟩
            intro place above within
            rcases within.lt_or_eq with less | rfl
            · exact found.coarser place above (by omega)
            · exact none

/-! ## The first place -/

/-- Whether the place for so many bits, counted from the smallest number, is above all
numbers with them and not far above. -/
def placeFits (bits : ℕ) : Bool :=
  let numbers := 2 ^ bits * 10 ^ 323
  let place := 10 ^ ((bits * 30103 + 99481) / 100000) * 2 ^ 1073
  Nat.ble numbers place && Nat.ble place (20 * numbers)

theorem all_placeFits : (List.range 2098).all placeFits = true := by
  decide +kernel

/-- The first place is above the number, and its power of ten is at most forty times as
large. -/
theorem leadingPlace_bounds (range : binary.InRange) :
    binary.size < 10 ^ binary.leadingPlace ∧ (10 : ℚ) ^ binary.leadingPlace ≤ 40 * binary.size := by
  have nonzero : binary.significand ≠ 0 := range.positive.ne'
  have log : binary.significand.log2 < 53 := (Nat.log2_lt nonzero).mpr range.bounded
  have least := range.least
  have most := range.most
  obtain ⟨bits, counted⟩ : ∃ bits : ℕ, (bits : ℤ) = binary.exponent + binary.significand.log2 + 1074 :=
    ⟨(binary.exponent + binary.significand.log2 + 1074).toNat, by omega⟩
  have fits : placeFits bits = true :=
    List.all_eq_true.mp all_placeFits bits (List.mem_range.mpr (by omega))
  simp only [placeFits, Bool.and_eq_true, Nat.ble_eq] at fits
  rcases fits with ⟨numbers, tens⟩
  have place : binary.leadingPlace = ((bits * 30103 + 99481) / 100000 : ℕ) - (323 : ℕ) := by
    rw [Binary.leadingPlace, Int.fdiv_eq_ediv_of_nonneg _ (by decide)]
    omega
  generalize (bits * 30103 + 99481) / 100000 = quotient at numbers tens place
  have power : (2 : ℚ) ^ binary.exponent * 2 ^ binary.significand.log2 * 2 * 2 ^ 1073 =
      2 ^ bits := by
    rw [← zpow_natCast, ← zpow_natCast, ← zpow_natCast 2 bits, ← zpow_add₀ two_ne_zero,
      ← zpow_add_one₀ two_ne_zero, ← zpow_add₀ two_ne_zero, counted]
    congr 1
    push_cast
    ring
  have lower : (2 : ℚ) ^ binary.significand.log2 ≤ binary.significand := by
    exact_mod_cast Nat.log2_self_le nonzero
  have upper : (binary.significand : ℚ) < 2 ^ binary.significand.log2 * 2 := by
    exact_mod_cast Nat.lt_log2_self (n := binary.significand)
  have numbers : (2 : ℚ) ^ bits * 10 ^ 323 ≤ 10 ^ quotient * 2 ^ 1073 := by
    simpa only [Nat.cast_mul, Nat.cast_pow, Nat.cast_ofNat] using
      (Nat.cast_le (α := ℚ)).mpr numbers
  have tens : (10 : ℚ) ^ quotient * 2 ^ 1073 ≤ 20 * (2 ^ bits * 10 ^ 323) := by
    simpa only [Nat.cast_mul, Nat.cast_pow, Nat.cast_ofNat] using (Nat.cast_le (α := ℚ)).mpr tens
  have unit : (0 : ℚ) < 2 ^ binary.exponent := by positivity
  have scaleTwo : (0 : ℚ) < 2 ^ 1073 := by positivity
  have scaleTen : (0 : ℚ) < 10 ^ 323 := by positivity
  rw [place, zpow_sub₀ (by norm_num), zpow_natCast, zpow_natCast, lt_div_iff₀ scaleTen,
    div_le_iff₀ scaleTen, Binary.size]
  generalize (2 : ℚ) ^ 1073 = twos at *
  generalize (10 : ℚ) ^ 323 = hundreds at *
  constructor
  · apply lt_of_mul_lt_mul_right _ scaleTwo.le
    calc (binary.significand : ℚ) * 2 ^ binary.exponent * hundreds * twos
        < 2 ^ binary.significand.log2 * 2 * 2 ^ binary.exponent * hundreds * twos := by gcongr
      _ = 2 ^ bits * hundreds := by
          rw [← power]
          ring
      _ ≤ 10 ^ quotient * twos := numbers
  · apply le_of_mul_le_mul_right _ scaleTwo
    calc (10 : ℚ) ^ quotient * twos
        ≤ 20 * (2 ^ bits * hundreds) := tens
      _ = 40 * (2 ^ binary.significand.log2 * 2 ^ binary.exponent) * hundreds * twos := by
          rw [← power]
          ring
      _ ≤ 40 * (binary.significand * 2 ^ binary.exponent) * hundreds * twos := by gcongr

/-- Some place of the search is finer than the gaps of the number. -/
theorem findable (range : binary.InRange) : ∃ steps < 24, ∃ multiple : ℕ,
    binary.Accepts (multiple * 10 ^ (binary.leadingPlace - (steps : ℕ))) := by
  refine ⟨23, by decide, ?_⟩
  obtain ⟨place, fine⟩ : ∃ place, place = binary.leadingPlace - (23 : ℕ) := ⟨_, rfl⟩
  rw [← fine]
  obtain ⟨low, quotient⟩ : ∃ low,
    low = (grid binary place).value / (grid binary place).place := ⟨_, rfl⟩
  rcases around binary place quotient with ⟨within, beyond, -, -⟩
  have unit : (0 : ℚ) < 2 ^ binary.exponent := by positivity
  have small : (10 : ℚ) ^ place < 2 ^ binary.exponent / 2 := by
    have first : (10 : ℚ) ^ place * 10 ^ 23 = 10 ^ binary.leadingPlace := by
      rw [fine, zpow_sub₀ (by norm_num), zpow_natCast, div_mul_cancel₀ _ (by norm_num)]
    have top := (leadingPlace_bounds range).2
    have bounded : (binary.significand : ℚ) < 2 ^ 53 := by exact_mod_cast range.bounded
    have size : binary.size < 2 ^ 53 * 2 ^ binary.exponent := by
      unfold Binary.size
      gcongr
    linarith
  have next : ((low + 1 : ℕ) : ℚ) * 10 ^ place = low * 10 ^ place + 10 ^ place := by
    push_cast
    ring
  have below := Binary.below_lt_size binary
  refine ⟨low + 1, .inl (by linarith), .inl ?_⟩
  rw [Binary.above]
  linarith

theorem found_shortest (range : binary.InRange) :
    Found binary binary.leadingPlace (shortest .upward binary) :=
  found_search range (findable range)

/-- Nothing on a coarser place than the result is accepted. -/
theorem not_accepts_of_coarser (range : binary.InRange) {place : ℤ}
    (coarser : (shortest .upward binary).exponent < place) (multiple : ℕ) :
    ¬ binary.Accepts (multiple * 10 ^ place) := by
  rcases le_or_gt place binary.leadingPlace with searched | outside
  · exact (found_shortest range).coarser place coarser searched multiple
  · intro accepted
    have most := accepted.most
    rw [Binary.above] at most
    have unit := Binary.unit_le_size range
    have positive := Binary.size_pos range
    have top := (leadingPlace_bounds range).1
    have higher : (10 : ℚ) ^ (binary.leadingPlace + 1) ≤ 10 ^ place :=
      zpow_le_zpow_right₀ (by norm_num) (by omega)
    rw [zpow_add_one₀ (by norm_num)] at higher
    have nonzero : multiple ≠ 0 := by
      rintro rfl
      exact Binary.not_accepts_zero range (by simpa using accepted)
    have once : (10 : ℚ) ^ place ≤ multiple * 10 ^ place :=
      le_mul_of_one_le_left (by positivity) (by exact_mod_cast Nat.one_le_iff_ne_zero.mpr nonzero)
    linarith

theorem digits_ne_zero (range : binary.InRange) : (shortest .upward binary).digits ≠ 0 := by
  intro zero
  have accepted := (found_shortest range).accepted
  rw [Scientific.value, zero, Nat.cast_zero, zero_mul] at accepted
  exact Binary.not_accepts_zero range accepted

theorem digits_mod_ten (range : binary.InRange) : (shortest .upward binary).digits % 10 ≠ 0 := by
  intro divisible
  have accepted := (found_shortest range).accepted
  rcases Nat.dvd_of_mod_eq_zero divisible with ⟨tenth, digits⟩
  have coarser : (shortest .upward binary).value =
      tenth * 10 ^ ((shortest .upward binary).exponent + 1) := by
    rw [Scientific.value, digits, zpow_add_one₀ (by norm_num)]
    push_cast
    ring
  rw [coarser] at accepted
  exact not_accepts_of_coarser range (by omega) tenth accepted

/-! ## Powers of ten -/

/-- The smallest number in units of a power of ten. -/
theorem smallest_bounds : (2 : ℚ) * 2 ^ (-1074 : ℤ) < 10 ^ (-323 : ℤ) ∧
    (10 : ℚ) * 10 ^ (-323 : ℤ) < 21 * 2 ^ (-1074 : ℤ) := by
  have below : 2 * 10 ^ 323 < 2 ^ 1074 := by decide +kernel
  have above : 10 * 2 ^ 1074 < 21 * 10 ^ 323 := by decide +kernel
  have below : (2 : ℚ) * 10 ^ 323 < 2 ^ 1074 := by
    simpa only [Nat.cast_mul, Nat.cast_pow, Nat.cast_ofNat] using (Nat.cast_lt (α := ℚ)).mpr below
  have above : (10 : ℚ) * 2 ^ 1074 < 21 * 10 ^ 323 := by
    simpa only [Nat.cast_mul, Nat.cast_pow, Nat.cast_ofNat] using (Nat.cast_lt (α := ℚ)).mpr above
  have twos : (0 : ℚ) < 2 ^ 1074 := by positivity
  have tens : (0 : ℚ) < 10 ^ 323 := by positivity
  rw [zpow_neg, zpow_neg, zpow_ofNat, zpow_ofNat, ← div_eq_mul_inv, ← div_eq_mul_inv,
    ← div_eq_mul_inv, inv_eq_one_div, div_lt_div_iff₀ twos tens, div_lt_div_iff₀ tens twos, one_mul]
  exact ⟨below, above⟩

/-- Only one power of ten is among the smallest numbers. -/
theorem place_of_smallest {place : ℤ} (above : (2 : ℚ) ^ (-1074 : ℤ) < 10 ^ place)
    (below : (10 : ℚ) ^ place < 10 * 2 ^ (-1074 : ℤ)) : place = -323 := by
  rcases smallest_bounds with ⟨twoUnits, tenPowers⟩
  rcases lt_trichotomy place (-323) with finer | same | coarser
  · have tenth : (10 : ℚ) ^ (place + 1) ≤ 10 ^ (-323 : ℤ) :=
      zpow_le_zpow_right₀ (by norm_num) (by omega)
    rw [zpow_add_one₀ (by norm_num)] at tenth
    linarith
  · exact same
  · have tenfold : (10 : ℚ) ^ (-323 + 1 : ℤ) ≤ 10 ^ place :=
      zpow_le_zpow_right₀ (by norm_num) (by omega)
    rw [zpow_add_one₀ (by norm_num)] at tenfold
    linarith

/-- A power of ten that is above a number and reads back as it is close to it.  Half a unit
is little against ten units and more, and of the numbers with fewer only those beside the
one power among them come into question. -/
theorem power_close (range : binary.InRange) {place : ℤ} (above : binary.size < 10 ^ place)
    (accepted : binary.Accepts (10 ^ place)) : 19 * (10 : ℚ) ^ place < 20 * binary.size := by
  have most := accepted.most
  rw [Binary.above] at most
  have unit : (0 : ℚ) < 2 ^ binary.exponent := by positivity
  have units : ∀ {least : ℕ}, least ≤ binary.significand →
      least * (2 : ℚ) ^ binary.exponent ≤ binary.size := fun enough =>
    mul_le_mul_of_nonneg_right (by exact_mod_cast enough) unit.le
  rcases Nat.lt_or_ge binary.significand 10 with few | many
  · have exponent : binary.exponent = -1074 := by
      by_contra other
      have full := range.full other
      omega
    have least := units range.positive
    have greatest : binary.size ≤ 9 * 2 ^ binary.exponent :=
      mul_le_mul_of_nonneg_right (by exact_mod_cast Nat.le_of_lt_succ few) unit.le
    rw [Nat.cast_succ, Nat.cast_zero, zero_add, one_mul] at least
    rw [exponent] at most least greatest
    rcases smallest_bounds with ⟨twoUnits, tenPowers⟩
    obtain rfl : place = -323 :=
      place_of_smallest (least.trans_lt above) (by linarith)
    have several : 2 ≤ binary.significand := by
      by_contra single
      have once : binary.size ≤ 1 * 2 ^ binary.exponent :=
        mul_le_mul_of_nonneg_right (by exact_mod_cast Nat.lt_succ_iff.mp (Nat.not_le.mp single))
          unit.le
      rw [exponent] at once
      linarith
    have twice := units several
    rw [Nat.cast_ofNat, exponent] at twice
    linarith
  · have tenUnits := units many
    rw [Nat.cast_ofNat] at tenUnits
    linarith

/-- The place of the first digit of the result. -/
def firstPlace (binary : Binary) : ℤ :=
  (shortest .upward binary).exponent + Nat.log 10 (shortest .upward binary).digits

theorem power_le_value (range : binary.InRange) :
    (10 : ℚ) ^ firstPlace binary ≤ (shortest .upward binary).value := by
  have leading := Nat.pow_log_le_self 10 (digits_ne_zero range)
  rw [Scientific.value, firstPlace, zpow_add₀ (by norm_num), zpow_natCast, mul_comm]
  exact mul_le_mul_of_nonneg_right (by exact_mod_cast leading) (by positivity)

theorem le_power {digits count : ℕ} {exponent place : ℤ} (few : digits < 10 ^ count)
    (low : exponent + count ≤ place) : (digits : ℚ) * 10 ^ exponent ≤ 10 ^ place := by
  calc (digits : ℚ) * 10 ^ exponent
      ≤ 10 ^ count * 10 ^ exponent :=
        mul_le_mul_of_nonneg_right (by exact_mod_cast few.le) (by positivity)
    _ = 10 ^ (exponent + count) := by rw [zpow_add₀ (by norm_num), zpow_natCast, mul_comm]
    _ ≤ 10 ^ place := zpow_le_zpow_right₀ (by norm_num) low

/-- What is accepted and not above the power of the first digit makes that power accepted,
so it is the only digit. -/
theorem single_digit (range : binary.InRange) {other : ℚ} (accepted : binary.Accepts other)
    (smaller : other ≤ 10 ^ firstPlace binary) :
    Nat.log 10 (shortest .upward binary).digits = 0 ∧
      binary.Accepts (10 ^ (shortest .upward binary).exponent) := by
  have power := accepted.convex (found_shortest range).accepted smaller (power_le_value range)
  rw [firstPlace] at power
  rcases Nat.eq_zero_or_pos (Nat.log 10 (shortest .upward binary).digits) with none | some
  · exact ⟨none, by simpa [none] using power⟩
  · exact absurd (by simpa using power) (not_accepts_of_coarser range (by omega) 1)

/-- No decimal with fewer digits than the result is accepted. -/
theorem not_accepts_of_fewer (range : binary.InRange) {digits count : ℕ} {exponent : ℤ}
    (few : digits < 10 ^ count)
    (fewer : count < Nat.log 10 (shortest .upward binary).digits + 1) :
    ¬ binary.Accepts (digits * 10 ^ exponent) := by
  intro accepted
  rcases lt_or_ge (shortest .upward binary).exponent exponent with above | within
  · exact not_accepts_of_coarser range above digits accepted
  · obtain ⟨none, -⟩ := single_digit range accepted
      (le_power few (by unfold firstPlace; omega))
    obtain rfl : count = 0 := by omega
    obtain rfl : digits = 0 := Nat.lt_one_iff.mp few
    exact Binary.not_accepts_zero range (by simpa using accepted)

/-- A single digit of the result beats every digit on a finer place.  When the power of ten
is not above the number, the other is farther away on the same side; and otherwise the
number is so close to the power that nine tenths of it are farther away. -/
theorem beats_of_finer (range : binary.InRange) {digits : ℕ} {exponent : ℤ} (digit : digits < 10)
    (finer : exponent < (shortest .upward binary).exponent)
    (accepted : binary.Accepts (10 ^ (shortest .upward binary).exponent)) :
    Beats binary.size (shortest .upward binary).value (digits * 10 ^ exponent) := by
  have first := (found_shortest range).best 1 (by simpa using accepted)
  rw [Nat.cast_one, one_mul] at first
  apply first.trans
  rcases le_or_gt ((10 : ℚ) ^ (shortest .upward binary).exponent) binary.size with within | beyond
  · exact .of_smaller (le_power (by simpa using digit : digits < 10 ^ 1) (by omega)) within
  · have close := power_close range beyond accepted
    have tenth : (10 : ℚ) ^ exponent * 10 ≤ 10 ^ (shortest .upward binary).exponent := by
      rw [← zpow_add_one₀ (by norm_num)]
      exact zpow_le_zpow_right₀ (by norm_num) (by omega)
    have nine : digits * (10 : ℚ) ^ exponent ≤ 9 * 10 ^ exponent :=
      mul_le_mul_of_nonneg_right (by exact_mod_cast Nat.le_of_lt_succ digit) (by positivity)
    have above := abs_of_pos (sub_pos.mpr beyond)
    have below := abs_of_nonpos
      (by linarith : digits * (10 : ℚ) ^ exponent - binary.size ≤ 0)
    exact .inl (by linarith)

/-- The search finds the shortest decimal.  A competitor on a finer place is not above the
power of ten with which the digits of the result begin; so that power is accepted too, and
it is on a coarser place unless there is only one digit. -/
theorem isShortest_shortest (range : binary.InRange) :
    IsShortest binary.Accepts binary.size (shortest .upward binary).value := by
  have found := found_shortest range
  refine ⟨Nat.log 10 (shortest .upward binary).digits + 1, ⟨_, _, ?_, rfl⟩, found.accepted, ?_, ?_⟩
  · exact Nat.lt_pow_succ_log_self (by decide) _
  · rintro fewer less other ⟨digits, exponent, few, rfl⟩
    exact not_accepts_of_fewer range few less
  · rintro other ⟨digits, exponent, few, rfl⟩ accepted
    rcases lt_trichotomy exponent (shortest .upward binary).exponent with finer | rfl | above
    · obtain ⟨none, power⟩ := single_digit range accepted
        (le_power few (by unfold firstPlace; omega))
      rw [none] at few
      exact beats_of_finer range (by simpa using few) finer power
    · exact found.best digits accepted
    · exact absurd accepted (not_accepts_of_coarser range above digits)

end Shortest
end Decimal
end TaggedContent
